import Assessment.FileTree
import Assessment.Main
import Assessment.Proofs.Lockstep
import Assessment.Proofs.StoreView
import Assessment.Proofs.Write
import Assessment.Proofs.Coercion
import Assessment.Proofs.Conformance
import Assessment.Proofs.ResultType
import Assessment.Proofs.Binding
import Assessment.Proofs.MachineArithmetic
import Assessment.Proofs.AreaAccess
import Assessment.Proofs.ContainerAccess
import Assessment.Proofs.Guarded
import Assessment.Proofs.Coverage
import Assessment.Proofs.Words
import Assessment.Proofs.DurationText
import Assessment.Proofs.DurationSum
import Assessment.Proofs.ValueRoundTrip
import Assessment.Proofs.WriteFrame
import Assessment.Proofs.ReadFrame
import Assessment.Proofs.Locality
import Assessment.Proofs.Attempts
import Assessment.Proofs.History
import Assessment.Proofs.Uneventful
import Assessment.Proofs.Limits
import Assessment.Proofs.DeclaredAreas
import Assessment.Proofs.Faultless
import Assessment.Proofs.Independence
import Assessment.Proofs.FixedResult
import Assessment.Proofs.Sameness
import Assessment.Proofs.StandardTemplates
import Assessment.Proofs.TreeMirror
import Assessment.Proofs.ErrorPlace
import Assessment.Proofs.Trace
import Assessment.Proofs.Flattening
import Assessment.Proofs.NullOperand
import Assessment.Proofs.Reporting
import Assessment.Proofs.Retrying
import Assessment.Proofs.DurationNormalForm
import Assessment.Proofs.DepthLimit
import Assessment.Proofs.ValueEquality
import Assessment.Proofs.Inclusion
import Assessment.Proofs.CoercedText
import Assessment.Proofs.Divisors
import Assessment.Proofs.Totals
import Assessment.Proofs.FloorDivision
import Assessment.Proofs.Completions
import Assessment.Proofs.Connectives
import Assessment.Proofs.IntegerComparison
import Assessment.Proofs.IntegerRounding
import Assessment.Proofs.FiniteResults
import Assessment.Proofs.FloatAssignment
import Assessment.Proofs.ResponseScore
import Assessment.Proofs.Gathering
import Assessment.Proofs.Repetition
import Assessment.Proofs.PointInside
import Assessment.Proofs.NumberDraw
import Assessment.Proofs.IntegerLiteral
import Assessment.Proofs.FloatLiteral
import Assessment.Proofs.PatternMatch
import Assessment.Proofs.TokenDelimitation
import Assessment.Proofs.WholeMatch
import Assessment.Proofs.Splitting
import Assessment.Proofs.StoreOperations
