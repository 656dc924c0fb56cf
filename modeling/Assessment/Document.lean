import Assessment.Document.Rule
import Assessment.Json.Reader

/-!
# Documents

A document describes an assessment item: its variables, and up to three blocks of
processing.  `Document.ofJson` reads one, and `Document.newStore` makes the store of
a fresh attempt.
-/

namespace Assessment

structure Document where
  identifier : String
  declarations : List Variable
  templateProcessing : Option Processing
  responseProcessing : Option Processing
  outcomeProcessing : Option Processing

namespace Document

/-- Every declared variable at its initial value. -/
def newStore (document : Document) : Store :=
  (Store.ofList document.declarations).resetAll

/-- The blocks of processing in the order in which they run. -/
def blocks (document : Document) : List Processing :=
  [document.templateProcessing, document.responseProcessing,
    document.outcomeProcessing].filterMap id

/-- The number of rules in all blocks. -/
def ruleCount (document : Document) : Nat :=
  Rule.countAll (document.blocks.flatMap Processing.rules)

/-- Reads the field `declarations`, which may be absent. -/
def declarationsOfJson (node : Json) : Reading (List Variable) :=
  match node.field? "declarations" with
  | none => .ok []
  | some raw => do
      let items ← raw.requireArray [.key "declarations"]
      Json.readItems Variable.ofJson [.key "declarations"] 0 items

def processingOfJson (node : Json) (field : String) (family : RuleFamily) :
    Reading (Option Processing) :=
  match node.field? field with
  | none => .ok none
  | some raw => (Processing.ofJson family [.key field] raw).map some

def ofJson (node : Json) : Reading Document := do
  let identifier ← node.requireString Path.root "identifier"
  let declarations ← declarationsOfJson node
  let templateProcessing ← processingOfJson node "templateProcessing" .template
  let responseProcessing ← processingOfJson node "responseProcessing" .response
  let outcomeProcessing ← processingOfJson node "outcomeProcessing" .outcome
  return { identifier, declarations, templateProcessing, responseProcessing,
           outcomeProcessing }

/-- Reads a document from JSON text. -/
def ofText (text : String) : Reading Document :=
  match Json.read? (some Json.documentDepth) text with
  | some json => ofJson json
  | none => .error .notJson

end Document

end Assessment
