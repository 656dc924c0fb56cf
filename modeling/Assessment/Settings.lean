import Assessment.Dictionary

/-!
# Settings

Limits on nesting, sizes and repeated attempts, the seed of random draws, and the
locations of templates.
-/

namespace Assessment

structure Settings where
  maxExpressionDepth : Nat
  maxRuleDepth : Nat
  /-- The most values that `repeat` may put into a container. -/
  maxContainerSize : Nat
  /-- How often template processing tries to satisfy its constraints. -/
  maxTemplateAttempts : Nat
  seed : Option Nat
  /-- Locations of templates by their names, which go before the standard ones. -/
  templates : Dictionary String

namespace Settings

def default : Settings where
  maxExpressionDepth := 256
  maxRuleDepth := 128
  maxContainerSize := 100000
  maxTemplateAttempts := 100
  seed := none
  templates := Dictionary.empty

instance : Inhabited Settings :=
  ⟨default⟩

end Settings

end Assessment
