import Assessment.Settings
import Assessment.Toml.Reader

/-!
# Settings files

Settings are written in TOML.  Every setting may be left out, and keys that are not
settings are ignored.
-/

namespace Assessment.Settings

/-- A setting that is a number and not negative. -/
def count? (name : String) (default : Nat) (entries : Toml.Entries) : Option Nat :=
  match Toml.find? name entries with
  | none => some default
  | some (.integer value) => if 0 ≤ value.toInt then some value.toInt.toNat else none
  | some _ => none

def seed? (entries : Toml.Entries) : Option (Option Nat) :=
  match Toml.find? "seed" entries with
  | none => some none
  | some _ => (count? "seed" 0 entries).map some

/-- One name of a template and its location. -/
def location? : String × Toml → Option (String × String)
  | (name, .text location) => some (name, location)
  | _ => none

def templates? (entries : Toml.Entries) : Option (Dictionary String) :=
  match Toml.find? "templates" entries with
  | none => some Dictionary.empty
  | some table => do
      let fields ← table.entries?
      let locations ← fields.mapM location?
      return Dictionary.ofList locations

/-- The settings that a text contains, if it is a settings file. -/
def read? (text : String) : Option Settings := do
  let entries ← Toml.read? text
  let maxExpressionDepth ←
    count? "max_expression_depth" default.maxExpressionDepth entries
  let maxRuleDepth ← count? "max_rule_depth" default.maxRuleDepth entries
  let maxContainerSize ← count? "max_container_size" default.maxContainerSize entries
  let maxTemplateAttempts ←
    count? "max_template_attempts" default.maxTemplateAttempts entries
  let seed ← seed? entries
  let templates ← templates? entries
  return { maxExpressionDepth, maxRuleDepth, maxContainerSize, maxTemplateAttempts, seed,
           templates }

end Assessment.Settings
