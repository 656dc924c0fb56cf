import Assessment.Evaluation
import Assessment.Proofs.Run

/-!
# The order of evaluation

An expression is evaluated node by node: operands from left to right, and each operator
right behind its operands.  A stack machine that computes the nodes in this order does
what evaluation does, so evaluation ends with the error of the first node that fails,
whatever operators stand around it.
-/

namespace Assessment

/-- An expression that occurs in another one, and the depth it stands at. -/
structure Node where
  depth : Nat
  expression : Expression

namespace Expression

mutual

/-- The nodes of an expression that stands at the given depth, in the order in which they
are computed. -/
def nodesAt (depth : Nat) : Expression → List Node
  | .apply operator operands =>
      nodesOfAllAt (depth + 1) operands ++ [⟨depth, .apply operator operands⟩]
  | .custom operator operands =>
      nodesOfAllAt (depth + 1) operands ++ [⟨depth, .custom operator operands⟩]
  | leaf => [⟨depth, leaf⟩]

def nodesOfAllAt (depth : Nat) : List Expression → List Node
  | [] => []
  | operand :: operands => nodesAt depth operand ++ nodesOfAllAt depth operands

end

/-- The nodes of an expression as a whole. -/
def nodes (expression : Expression) : List Node :=
  expression.nodesAt 1

theorem nodesAt_eq (depth : Nat) (expression : Expression) :
    expression.nodesAt depth =
      nodesOfAllAt (depth + 1) expression.children ++ [⟨depth, expression⟩] := by
  cases expression <;> rfl

end Expression

namespace Node

/-- The nodes below, in the order in which they are computed. -/
def below (node : Node) : List Node :=
  Expression.nodesOfAllAt (node.depth + 1) node.expression.children

/-- What a node makes of the values of its operands. -/
def compute (context : Context) (node : Node) (values : List Value) : Evaluation Value := do
  context.checkDepth node.depth
  match node.expression with
  | .apply operator _ => operator.apply context values
  | .custom operator _ => operator.apply context values
  | leaf => leaf.leafValue context

/-- Computes nodes one after another.  Each of them takes the values of its operands off
the stack, the last one first, and leaves its own value there. -/
def computeAll (context : Context) : List Node → List Value → Evaluation (List Value)
  | [], stack => return stack
  | node :: nodes, stack => do
      let arity := node.expression.children.length
      let value ← node.compute context (stack.take arity).reverse
      computeAll context nodes (value :: stack.drop arity)

end Node

namespace Expression

variable {context : Context}

/-! ## Evaluation as computation of nodes -/

theorem evaluateAt_of_deep {depth : Nat} (deep : context.settings.maxExpressionDepth < depth)
    (expression : Expression) :
    expression.evaluateAt context depth =
      throw (.depthExceeded context.settings.maxExpressionDepth) := by
  have check : context.checkDepth depth = .error (.depthExceeded _) := if_pos deep
  cases expression <;> simp only [evaluateAt, check] <;> rfl

/-- The operands come first.  That the depth is looked at before them makes no
difference, because the operands of a node that is too deep are too deep as well. -/
theorem evaluateAt_eq (depth : Nat) (expression : Expression) :
    expression.evaluateAt context depth =
      evaluateAllAt context (depth + 1) expression.children >>= fun values =>
        Node.compute context ⟨depth, expression⟩ values := by
  by_cases deep : context.settings.maxExpressionDepth < depth
  · have check : context.checkDepth depth = .error (.depthExceeded _) := if_pos deep
    rw [evaluateAt_of_deep deep]
    cases operands : expression.children with
    | nil =>
        simp only [evaluateAllAt, pure_bind, Node.compute, check]
        rfl
    | cons operand operands =>
        rw [evaluateAllAt, evaluateAt_of_deep (Nat.lt_succ_of_lt deep)]
        rfl
  · have check : context.checkDepth depth = .ok () := if_neg deep
    cases expression <;>
      simp only [evaluateAt, children, evaluateAllAt, pure_bind, Node.compute, check] <;> rfl

/-- Every operand has a value. -/
theorem length_of_evaluateAllAt (depth : Nat) {operands : List Expression}
    {values : List Value} {before after : RandomSource}
    (gives : (evaluateAllAt context depth operands).run.run before = (.ok values, after)) :
    values.length = operands.length := by
  induction operands generalizing values before with
  | nil =>
      cases gives
      rfl
  | cons operand operands induction =>
      rw [evaluateAllAt, run_run_bind] at gives
      split at gives
      next value _ =>
        rw [run_run_bind] at gives
        split at gives
        next others given =>
          cases gives
          exact congrArg Nat.succ (induction (Prod.ext given rfl))
        next => cases gives
      next => cases gives

end Expression

/-- What follows a computation matters for the values only that it gives. -/
theorem Evaluation.bind_congr_of_gives {α β : Type} {first : Evaluation α}
    {next other : α → Evaluation β}
    (same : ∀ value before after, first.run.run before = (.ok value, after) →
      next value = other value) : first >>= next = first >>= other := by
  funext before
  have left := run_run_bind first next before
  have right := run_run_bind first other before
  rcases ended : first.run.run before with ⟨result, after⟩
  rw [ended] at left right
  cases result with
  | error error => exact left.trans right.symm
  | ok value =>
      dsimp only at left
      rw [same value before after ended] at left
      exact left.trans right.symm

namespace Node

variable {context : Context}

theorem computeAll_append (first second : List Node) (stack : List Value) :
    computeAll context (first ++ second) stack =
      computeAll context first stack >>= fun values => computeAll context second values := by
  induction first generalizing stack with
  | nil => rw [List.nil_append, computeAll, pure_bind]
  | cons node first induction => simp only [List.cons_append, computeAll, bind_assoc, induction]

mutual

/-- The nodes of an expression leave its value on the stack. -/
theorem computeAll_nodesAt (depth : Nat) (expression : Expression) (stack : List Value) :
    computeAll context (expression.nodesAt depth) stack =
      expression.evaluateAt context depth >>= fun value => return value :: stack := by
  have operands : computeAll context
        (Expression.nodesOfAllAt (depth + 1) expression.children) stack =
      Expression.evaluateAllAt context (depth + 1) expression.children >>= fun values =>
        return values.reverse ++ stack := by
    cases expression with
    | apply operator operands => exact computeAll_nodesOfAllAt (depth + 1) operands stack
    | custom operator operands => exact computeAll_nodesOfAllAt (depth + 1) operands stack
    | _ => rfl
  rw [Expression.nodesAt_eq, computeAll_append, operands, Expression.evaluateAt_eq, bind_assoc,
    bind_assoc]
  refine Evaluation.bind_congr_of_gives fun values before after gives => ?_
  -- the node takes as many values off the stack as its operands have left there
  have count := Expression.length_of_evaluateAllAt (depth + 1) gives
  have taken : (values.reverse ++ stack).take expression.children.length = values.reverse :=
    List.take_left' (by simp [count])
  have left : (values.reverse ++ stack).drop expression.children.length = stack :=
    List.drop_left' (by simp [count])
  simp only [pure_bind, computeAll, taken, left, List.reverse_reverse]

theorem computeAll_nodesOfAllAt (depth : Nat) (operands : List Expression)
    (stack : List Value) :
    computeAll context (Expression.nodesOfAllAt depth operands) stack =
      Expression.evaluateAllAt context depth operands >>= fun values =>
        return values.reverse ++ stack := by
  cases operands with
  | nil => rfl
  | cons operand operands =>
      rw [Expression.nodesOfAllAt, computeAll_append, computeAll_nodesAt depth operand stack,
        Expression.evaluateAllAt]
      simp only [bind_assoc, pure_bind, computeAll_nodesOfAllAt depth operands,
        List.reverse_cons, List.append_assoc, List.cons_append, List.nil_append]

end

end Node

/-! ## Where the nodes of an operand are -/

/-- An item of two lists after each other is in the first or in the second one. -/
theorem split_append {α : Type} {first second before after : List α} {item : α}
    (split : first ++ second = before ++ item :: after) :
    (∃ between, first = before ++ item :: between) ∨
      ∃ inside, before = first ++ inside ∧ second = inside ++ item :: after := by
  rcases List.append_eq_append_iff.mp split with ⟨inside, rfl, rfl⟩ | ⟨between, rfl, rest⟩
  · exact .inr ⟨inside, rfl, rfl⟩
  · cases between with
    | nil => exact .inr ⟨[], by simp, by simpa using rest.symm⟩
    | cons other between =>
        obtain ⟨rfl, _⟩ := List.cons.inj rest
        exact .inl ⟨between, rfl⟩

namespace Expression

variable {context : Context}

mutual

/-- The nodes below a node come right before it. -/
theorem exists_before_of_nodesAt (depth : Nat) (expression : Expression)
    {before after : List Node} {node : Node}
    (split : expression.nodesAt depth = before ++ node :: after) :
    ∃ earlier, before = earlier ++ node.below := by
  have amongOperands : ∀ between,
      nodesOfAllAt (depth + 1) expression.children = before ++ node :: between →
        ∃ earlier, before = earlier ++ node.below := by
    intro between inOperands
    cases expression with
    | apply operator operands => exact exists_before_of_nodesOfAllAt _ operands inOperands
    | custom operator operands => exact exists_before_of_nodesOfAllAt _ operands inOperands
    | _ => simp [children, nodesOfAllAt] at inOperands
  rw [nodesAt_eq] at split
  rcases split_append split with ⟨between, inOperands⟩ | ⟨inside, rfl, root⟩
  · exact amongOperands between inOperands
  · obtain ⟨rfl, rfl, rfl⟩ : inside = [] ∧ node = ⟨depth, expression⟩ ∧ after = [] := by
      cases inside <;> simp_all
    exact ⟨[], by simp [Node.below]⟩

theorem exists_before_of_nodesOfAllAt (depth : Nat) (operands : List Expression)
    {before after : List Node} {node : Node}
    (split : nodesOfAllAt depth operands = before ++ node :: after) :
    ∃ earlier, before = earlier ++ node.below := by
  cases operands with
  | nil => simp [nodesOfAllAt] at split
  | cons operand operands =>
      rw [nodesOfAllAt] at split
      rcases split_append split with ⟨between, inFirst⟩ | ⟨inside, rfl, inOthers⟩
      · exact exists_before_of_nodesAt depth operand inFirst
      · obtain ⟨earlier, rfl⟩ := exists_before_of_nodesOfAllAt depth operands inOthers
        exact ⟨operand.nodesAt depth ++ earlier, (List.append_assoc ..).symm⟩

end

/-! ## The first failure -/

variable {depth : Nat} {expression : Expression} {source : RandomSource} {error : EvalError}

/-- The nodes fail exactly as the expression does. -/
theorem computeAll_nodesAt_eq_error_iff :
    ((Node.computeAll context (expression.nodesAt depth) []).run.run source).1 = .error error ↔
      ((expression.evaluateAt context depth).run.run source).1 = .error error := by
  rw [Node.computeAll_nodesAt, run_run_bind]
  cases ((expression.evaluateAt context depth).run.run source).1 with
  | ok value => exact ⟨nofun, nofun⟩
  | error own => simp

/-- If the first nodes fail, the expression fails in the same way. -/
theorem evaluateAt_eq_error {first second : List Node}
    (split : expression.nodesAt depth = first ++ second)
    (fails : ((Node.computeAll context first []).run.run source).1 = .error error) :
    ((expression.evaluateAt context depth).run.run source).1 = .error error := by
  rw [← computeAll_nodesAt_eq_error_iff, split, Node.computeAll_append, run_run_bind, fails]

/-- An operand that fails is where the expression ends, if the nodes before the operand's
own ones do not fail. -/
theorem evaluateAt_eq_error_of_operand (context : Context) {before after : List Node}
    {node : Node} (split : expression.nodesAt depth = before ++ node :: after) :
    ∃ earlier, before = earlier ++ node.below ∧ ∀ source stack reached error,
      (Node.computeAll context earlier []).run.run source = (.ok stack, reached) →
      ((node.expression.evaluateAt context node.depth).run.run reached).1 = .error error →
        ((expression.evaluateAt context depth).run.run source).1 = .error error := by
  obtain ⟨earlier, rfl⟩ := exists_before_of_nodesAt depth expression split
  refine ⟨earlier, rfl, fun source stack reached error succeeds fails => ?_⟩
  have own : node.expression.nodesAt node.depth = node.below ++ [node] := nodesAt_eq ..
  have apart : expression.nodesAt depth =
      (earlier ++ node.expression.nodesAt node.depth) ++ after := by
    simp [split, own]
  refine evaluateAt_eq_error apart ?_
  rw [Node.computeAll_append, run_run_bind, succeeds]
  dsimp only
  rw [Node.computeAll_nodesAt, run_run_bind, fails]

end Expression

end Assessment
