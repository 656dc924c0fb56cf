import Assessment.Proofs.DepthFree
import Assessment.Proofs.EvaluationOrder
import Assessment.Proofs.History
import Mathlib.Data.List.TakeWhile

/-!
# The limit on the depth of expressions

The limit is exact: an expression is refused for its depth if and only if it is deeper
than the limit and nothing fails before its first node that is too deep.
-/

namespace Assessment

/-! ## Depths of nodes -/

namespace Expression

theorem depth_eq (expression : Expression) :
    expression.depth = maxDepth expression.children + 1 := by
  cases expression <;> simp [Expression.depth, children, maxDepth, Nat.add_comm]

theorem maxDepth_cons (operand : Expression) (operands : List Expression) :
    maxDepth (operand :: operands) = max operand.depth (maxDepth operands) :=
  rfl

mutual

/-- All nodes lie within a limit exactly if the deepest one does. -/
theorem forall_nodesAt_iff (limit depth : Nat) (expression : Expression) :
    (∀ node ∈ expression.nodesAt depth, node.depth ≤ limit) ↔
      depth + expression.depth ≤ limit + 1 := by
  have below : (∀ node ∈ nodesOfAllAt (depth + 1) expression.children, node.depth ≤ limit) ↔
      expression.children = [] ∨ depth + 1 + maxDepth expression.children ≤ limit + 1 := by
    cases expression with
    | apply operator operands => exact forall_nodesOfAllAt_iff limit (depth + 1) operands
    | custom operator operands => exact forall_nodesOfAllAt_iff limit (depth + 1) operands
    | _ => simp [children, nodesOfAllAt]
  rw [nodesAt_eq, List.forall_mem_append, below, List.forall_mem_singleton, depth_eq]
  -- without operands only the depth of the node itself counts
  cases expression.children with
  | nil => simp [maxDepth]
  | cons operand operands =>
      simp only [reduceCtorEq, false_or]
      omega

theorem forall_nodesOfAllAt_iff (limit depth : Nat) (operands : List Expression) :
    (∀ node ∈ nodesOfAllAt depth operands, node.depth ≤ limit) ↔
      operands = [] ∨ depth + maxDepth operands ≤ limit + 1 := by
  cases operands with
  | nil => simp [nodesOfAllAt]
  | cons operand operands =>
      have first := forall_nodesAt_iff limit depth operand
      have others := forall_nodesOfAllAt_iff limit depth operands
      rw [nodesOfAllAt, List.forall_mem_append, first, others, maxDepth_cons]
      cases operands with
      | nil => simp [maxDepth]
      | cons =>
          simp only [reduceCtorEq, false_or]
          omega

end

theorem forall_nodes_iff (limit : Nat) (expression : Expression) :
    (∀ node ∈ expression.nodes, node.depth ≤ limit) ↔ expression.depth ≤ limit := by
  rw [nodes, forall_nodesAt_iff]
  omega

end Expression

/-! ## Nodes within the limit -/

namespace Node

variable {context : Context}

theorem depthFree_compute (known : context.registry = .standard) {node : Node}
    (shallow : node.depth ≤ context.settings.maxExpressionDepth) (values : List Value) :
    (node.compute context values).DepthFree := by
  have check : context.checkDepth node.depth = .ok () := if_neg (Nat.not_lt.mpr shallow)
  refine .bind (.ofEvaluated (check ▸ nofun)) fun _ => ?_
  split
  next => exact Operator.depthFree_apply _ _ _
  next => exact .ofEvaluated (CustomOperator.depthFree_apply known)
  next => exact Expression.depthFree_leafValue _ _

theorem depthFree_computeAll (known : context.registry = .standard) {nodes : List Node}
    (shallow : ∀ node ∈ nodes, node.depth ≤ context.settings.maxExpressionDepth)
    (stack : List Value) : (computeAll context nodes stack).DepthFree := by
  induction nodes generalizing stack with
  | nil => exact .pure _
  | cons node nodes induction =>
      obtain ⟨here, later⟩ := List.forall_mem_cons.mp shallow
      exact .bind (depthFree_compute known here _) fun _ => induction later _

theorem run_compute_of_deep {node : Node}
    (deep : context.settings.maxExpressionDepth < node.depth) (values : List Value)
    (source : RandomSource) :
    ((node.compute context values).run.run source).1 =
      .error (.depthExceeded context.settings.maxExpressionDepth) := by
  have check : context.checkDepth node.depth = .error (.depthExceeded _) := if_pos deep
  rw [compute, check]
  rfl

end Node

/-- Nodes that are not too deep. -/
def Context.admits (context : Context) (node : Node) : Bool :=
  node.depth ≤ context.settings.maxExpressionDepth

namespace Expression

variable {context : Context} {expression : Expression}

theorem evaluate_of_shallow (known : context.registry = .standard)
    (shallow : expression.depth ≤ context.settings.maxExpressionDepth) :
    (expression.evaluate context).DepthFree := by
  intro source limit fails
  have within := (forall_nodes_iff _ _).mpr shallow
  exact Node.depthFree_computeAll known within [] source limit
    (computeAll_nodesAt_eq_error_iff.mpr fails)

/-- An expression that is too deep ends with its first node that is too deep, unless a
node before that one fails. -/
theorem evaluate_of_deep (known : context.registry = .standard)
    (deep : context.settings.maxExpressionDepth < expression.depth) (source : RandomSource) :
    match ((Node.computeAll context (expression.nodes.takeWhile context.admits) []).run.run
        source).1 with
    | .ok _ => ((expression.evaluate context).run.run source).1 =
        .error (.depthExceeded context.settings.maxExpressionDepth)
    | .error error => ((expression.evaluate context).run.run source).1 = .error error ∧
        ∀ limit, error ≠ .depthExceeded limit := by
  have apart : expression.nodes = expression.nodes.takeWhile context.admits ++
      expression.nodes.dropWhile context.admits := List.takeWhile_append_dropWhile.symm
  split
  next stack succeeds =>
    cases rest : expression.nodes.dropWhile context.admits with
    | nil =>
        have shallow := List.dropWhile_eq_nil_iff.mp rest
        have within := (forall_nodes_iff context.settings.maxExpressionDepth expression).mp
          fun node member => by simpa [Context.admits] using shallow node member
        exact absurd within (Nat.not_le.mpr deep)
    | cons node after =>
        have tooDeep : context.settings.maxExpressionDepth < node.depth := by
          have reached := List.head?_dropWhile_not context.admits expression.nodes
          rw [rest] at reached
          simpa [Context.admits] using reached
        rw [rest, List.append_cons] at apart
        refine evaluateAt_eq_error apart ?_
        rw [Node.computeAll_append, run_run_bind, succeeds]
        dsimp only
        rw [Node.computeAll, run_run_bind, Node.run_compute_of_deep tooDeep]
  next error fails =>
    have shallow : ∀ node ∈ expression.nodes.takeWhile context.admits,
        node.depth ≤ context.settings.maxExpressionDepth := by
      intro node member
      simpa [Context.admits] using List.all_eq_true.mp List.all_takeWhile node member
    have free := Node.depthFree_computeAll known shallow [] source
    rw [fails] at free
    exact ⟨evaluateAt_eq_error apart fails, fun limit same => free limit (same ▸ rfl)⟩

end Expression

namespace Evaluator

/-- With the standard operators, an expression within the limit is not refused for its
depth, and one beyond it is, unless a node before the first one that is too deep fails.
In any case an operand that fails is where the evaluation ends, if the nodes before it
do not fail, whatever operators it stands under. -/
theorem evaluate_firstFailure (settings : Settings) (store : Store) (expression : Expression)
    (evaluator : Evaluator) :
    let context := (⟨settings, .standard⟩ : Environment).over store
    let limit := settings.maxExpressionDepth
    let result := (evaluator.evaluate context expression).1
    let run := fun nodes => (Node.computeAll context nodes []).run.run evaluator.source
    (expression.depth ≤ limit → ∀ reported, result ≠ .error (.depthExceeded reported)) ∧
    (limit < expression.depth →
      match (run (expression.nodes.takeWhile context.admits)).1 with
      | .ok _ => result = .error (.depthExceeded limit)
      | .error error =>
          result = .error error ∧ ∀ reported, error ≠ .depthExceeded reported) ∧
    (∀ before node after, expression.nodes = before ++ node :: after →
      ∃ earlier, before = earlier ++ node.below ∧ ∀ stack reached error,
        run earlier = (.ok stack, reached) →
        ((node.expression.evaluateAt context node.depth).run.run reached).1 = .error error →
          result = .error error) := by
  intro context limit result run
  have same : result = ((expression.evaluate context).run.run evaluator.source).1 :=
    (evaluate_realizes context expression evaluator).1
  rw [same]
  refine ⟨fun shallow => ?_, fun deep => ?_, fun before node after split => ?_⟩
  · exact Expression.evaluate_of_shallow rfl shallow evaluator.source
  · exact Expression.evaluate_of_deep rfl deep evaluator.source
  · obtain ⟨earlier, apart, fails⟩ := Expression.evaluateAt_eq_error_of_operand context split
    exact ⟨earlier, apart, fails evaluator.source⟩

/-- Under a limit of two, the failure of an operand shows through `isNull` and through a
custom operator, and a conjunction that a false operand decides is refused for an operand
behind it that is too deep. -/
theorem evaluate_firstFailure_hidden :
    let settings : Settings := { Settings.default with maxExpressionDepth := 2 }
    let context := (⟨settings, .standard⟩ : Environment).over .empty
    let evaluator := ofSource (.ofSeed 0)
    let missing := Expression.apply .isNull [.valueOf "X"]
    let joined := Expression.custom ⟨some "Implode", none, ""⟩ [.null, .valueOf "X"]
    let deep := Expression.apply .and
      [.baseValue (.boolean false), .apply .not [.apply .not [.null]]]
    (∀ reported, (evaluator.evaluate context missing).1 ≠ .error (.depthExceeded reported)) ∧
      (evaluator.evaluate context missing).1 = .error (.unknownVariable "X") ∧
      (evaluator.evaluate context joined).1 = .error (.unknownVariable "X") ∧
      (evaluator.evaluate context deep).1 = .error (.depthExceeded 2) := by
  intro settings context evaluator missing joined deep
  obtain ⟨shallow, _, operand⟩ := evaluate_firstFailure settings .empty missing evaluator
  refine ⟨shallow (by decide), ?_, ?_, ?_⟩
  · obtain ⟨earlier, apart, fails⟩ := operand [] ⟨2, .valueOf "X"⟩ [⟨1, missing⟩] rfl
    obtain rfl : earlier = [] := (List.append_eq_nil_iff.mp apart.symm).1
    exact fails [] evaluator.source _ rfl rfl
  · obtain ⟨_, _, operand⟩ := evaluate_firstFailure settings .empty joined evaluator
    obtain ⟨earlier, apart, fails⟩ :=
      operand [⟨2, .null⟩] ⟨2, .valueOf "X"⟩ [⟨1, joined⟩] rfl
    obtain rfl : earlier = [⟨2, .null⟩] := by simpa [Node.below, Expression.children,
      Expression.nodesOfAllAt] using apart.symm
    exact fails [.null] evaluator.source _ rfl rfl
  · obtain ⟨_, tooDeep, _⟩ := evaluate_firstFailure settings .empty deep evaluator
    exact tooDeep (by decide)

end Evaluator

end Assessment
