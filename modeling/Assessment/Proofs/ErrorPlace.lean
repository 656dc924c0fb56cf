import Assessment.Document
import Assessment.Proofs.ProcessingErrors

/-!
# Errors point at their causes

The place that the message of an error starts with is the text of a chain, from the root of
the document to what the error is about.
-/

namespace Assessment

/-! ## The text of chains -/

namespace Path

/-- A step after other steps. -/
def Step.text : Step → String
  | .key name => "." ++ name
  | .index position => "[" ++ toString position ++ "]"

/-- The text of steps after other steps. -/
def continued : Path → String
  | [] => ""
  | step :: steps => step.text ++ continued steps

/-- Keys joined with dots, and indices in brackets. -/
def joined : Path → String
  | .key name :: steps => name ++ continued steps
  | steps => continued steps

theorem extend_index (text : String) (position : Nat) :
    extend text (.index position) = text ++ Step.text (.index position) := by
  change text ++ "[" ++ toString position ++ "]" = text ++ ("[" ++ toString position ++ "]")
  simp only [String.append_assoc]

theorem extend_of_ne_empty {text : String} (nonempty : text ≠ "") (step : Step) :
    extend text step = text ++ step.text := by
  cases step with
  | key name => simp [extend, Step.text, nonempty, String.append_assoc]
  | index position => exact extend_index text position

theorem foldl_extend {text : String} (nonempty : text ≠ "") (steps : Path) :
    steps.foldl extend text = text ++ continued steps := by
  induction steps generalizing text with
  | nil => simp [continued]
  | cons step steps induction =>
      have longer : text ++ step.text ≠ "" := by simp [nonempty]
      rw [List.foldl_cons, extend_of_ne_empty nonempty, induction longer, continued,
        String.append_assoc]

/-- The first step adds something to the text. -/
def Visible : Path → Prop
  | .key name :: _ => name ≠ ""
  | _ => True

theorem render_of_visible {path : Path} (visible : path.Visible) : path.render = path.joined := by
  cases path with
  | nil => rfl
  | cons first steps =>
      cases first with
      | key name =>
          have start : extend "" (.key name) = name := rfl
          rw [render, List.foldl_cons, start, foldl_extend visible, joined]
      | index position =>
          have nonempty : Step.text (.index position) ≠ "" := by simp [Step.text]
          rw [render, List.foldl_cons, extend_index, String.empty_append, foldl_extend nonempty,
            joined, continued]
          nofun

theorem joined_eq_empty_iff {path : Path} (visible : path.Visible) :
    path.joined = "" ↔ path = [] := by
  cases path with
  | nil => simp [joined, continued]
  | cons first steps =>
      cases first with
      | key name => simp [joined, show name ≠ "" from visible]
      | index position => simp [joined, continued, Step.text]

theorem renderOrDocument_of_visible {path : Path} (visible : path.Visible) :
    path.renderOrDocument = if path = [] then "document" else path.joined := by
  simp [renderOrDocument, render_of_visible visible, joined_eq_empty_iff visible]

end Path

/-! ## The text of errors -/

namespace DocumentError

/-- How the place of an error is written when the chain leads there from the root. -/
def placeText (chain : Path) : DocumentError → String
  | .missingField _ _ => if chain = [] then "document" else chain.joined
  | _ => chain.joined

/-- The message with the given place in front. -/
def messageAt (place : String) : DocumentError → String
  | .missingField _ field => place ++ ": missing required field '" ++ field ++ "'"
  | .invalidValue _ mismatch => place ++ ": " ++ mismatch.message
  | .unknownKind _ category kind => place ++ ": unknown " ++ category ++ " kind '" ++ kind ++ "'"
  | .model _ error => place ++ ": " ++ error.message
  | .notJson => place ++ ": not a JSON text"

theorem message_of_path {error : DocumentError} {chain : Path} (carried : error.path? = some chain)
    (visible : chain.Visible) : error.message = error.messageAt (error.placeText chain) := by
  cases error with
  | missingField =>
      obtain rfl := Option.some.inj carried
      rw [message, Path.renderOrDocument_of_visible visible]
      rfl
  | invalidValue | unknownKind | model =>
      obtain rfl := Option.some.inj carried
      rw [message, Path.render_of_visible visible]
      rfl
  | notJson => cases carried

end DocumentError

/-! ## Documents -/

namespace Document

variable {node : Json} {error : DocumentError}

/-- The error of a document is one of its parts. -/
theorem error_of_ofJson (rejected : ofJson node = .error error) :
    node.requireString Path.root "identifier" = .error error ∨
      declarationsOfJson node = .error error ∨
      ∃ field family, field ∈ ["templateProcessing", "responseProcessing", "outcomeProcessing"] ∧
        processingOfJson node field family = .error error := by
  rcases bind_eq_error_iff.mp rejected with failed | ⟨_, _, rest⟩
  · exact .inl failed
  rcases bind_eq_error_iff.mp rest with failed | ⟨_, _, rest⟩
  · exact .inr (.inl failed)
  rcases bind_eq_error_iff.mp rest with failed | ⟨_, _, rest⟩
  · exact .inr (.inr ⟨"templateProcessing", .template, by simp, failed⟩)
  rcases bind_eq_error_iff.mp rest with failed | ⟨_, _, rest⟩
  · exact .inr (.inr ⟨"responseProcessing", .response, by simp, failed⟩)
  rcases bind_eq_error_iff.mp rest with failed | ⟨_, _, rest⟩
  · exact .inr (.inr ⟨"outcomeProcessing", .outcome, by simp, failed⟩)
  · cases rest

/-- The error carries a chain that leads from the root to what it is about. -/
def Locates (node : Json) (error : DocumentError) : Prop :=
  ∃ chain : Path, chain.Visible ∧ error.path? = some chain ∧ error.IsAbout node chain

theorem Locates.of_field {α : Type} {field : String} {raw : Json} {reading : Reading α}
    (found : node.field? field = some raw) (named : field ≠ "")
    (errs : reading.ErrsWithin [.key field] raw) (failed : reading = .error error) :
    Locates node error := by
  obtain ⟨chain, carried, about⟩ := errs error failed
  have within : error.Within Path.root node :=
    DocumentError.Within.of_field ⟨chain, carried, about⟩ found
  obtain ⟨whole, behind, about⟩ := within
  refine ⟨whole, ?_, behind, about⟩
  rw [carried] at behind
  cases behind
  exact named

theorem locates_of_identifier
    (failed : node.requireString Path.root "identifier" = .error error) : Locates node error := by
  obtain ⟨chain, carried, about⟩ :=
    node.errsWithin_requireString Path.root "identifier" error failed
  refine ⟨chain, ?_, carried, about⟩
  unfold Json.requireString at failed
  split at failed
  · cases failed
  · cases failed
    cases carried
    exact show "identifier" ≠ "" by decide
  · cases failed
    cases carried
    trivial

theorem locates_of_declarations (failed : declarationsOfJson node = .error error) :
    Locates node error := by
  unfold declarationsOfJson at failed
  split at failed
  next => cases failed
  next raw found =>
    refine Locates.of_field found (by decide) ?_ failed
    apply Reading.ErrsWithin.bind (raw.errsWithin_requireArray _)
    intro items isArray
    cases raw with
    | array items =>
        cases isArray
        exact .readItems fun item _ path => Variable.errsWithin_ofJson path item
    | _ => cases isArray

theorem locates_of_processing {field : String} {family : RuleFamily} (named : field ≠ "")
    (failed : processingOfJson node field family = .error error) : Locates node error := by
  unfold processingOfJson at failed
  split at failed
  next => cases failed
  next raw found =>
    exact Locates.of_field found named (.map some (Processing.errsWithin_ofJson _ raw family))
      failed

/-- The message of a rejected document has in front the text of a chain from its root.  The
chain leads to a value of an unknown kind or without a meaning, to a value or an absent
field that is not valid, or to a value in which the missing field is absent or `null`. -/
theorem error_place (rejected : ofJson node = .error error) :
    ∃ chain : Path, error.path? = some chain ∧
      error.message = error.messageAt (error.placeText chain) ∧
      error.IsAbout node chain := by
  have located : Locates node error := by
    rcases error_of_ofJson rejected with failed | failed | ⟨field, family, member, failed⟩
    · exact locates_of_identifier failed
    · exact locates_of_declarations failed
    · apply locates_of_processing _ failed
      rintro rfl
      simp at member
  obtain ⟨chain, visible, carried, about⟩ := located
  exact ⟨chain, carried, error.message_of_path carried visible, about⟩

/-- A document whose only rule sums up one operand. -/
def summing (operand : Json) : Json :=
  let sum : Json := .object [("kind", .string "sum"), ("operands", .array [operand])]
  let rule : Json :=
    .object [("kind", .string "setOutcomeValue"), ("identifier", .string "SCORE"),
      ("expression", sum)]
  .object
    [("identifier", .string "ITEM"),
      ("responseProcessing", .object [("rules", .array [rule])])]

theorem ofJson_summing_median :
    ofJson (summing (.object [("kind", .string "median")])) =
      .error (.unknownKind
        [.key "responseProcessing", .key "rules", .index 0, .key "expression", .key "operands",
          .index 0] "expression" "median") := by
  have unknown : ∀ path, Expression.ofJson path
      (.object [("kind", .string "sum"),
        ("operands", .array [.object [("kind", .string "median")]])]) =
      .error (.unknownKind ((path.child "operands").item 0) "expression" "median") := by
    intro path
    with_unfolding_all rfl
  simp [ofJson, summing, declarationsOfJson, processingOfJson, Processing.ofJson,
    Rule.blockOfJson, Rule.ofItems, Rule.ofJson, Rule.conditionFamily?, Rule.fragmentFamily?,
    Rule.simpleOfJson, Rule.assignmentKind?, Rule.expressionOfJson, Json.requireString,
    Json.requireField, Json.field?, lookupEntry, bind, Except.bind, Except.map, unknown,
    Path.child, Path.item]

theorem error_place_median :
    ∃ error, ofJson (summing (.object [("kind", .string "median")])) = .error error ∧
      error.message = "responseProcessing.rules[0].expression.operands[0]: " ++
        "unknown expression kind 'median'" ∧
      ∃ target, (summing (.object [("kind", .string "median")])).Leads
        [.key "responseProcessing", .key "rules", .index 0, .key "expression", .key "operands",
          .index 0] target := by
  obtain ⟨chain, carried, message, about⟩ := error_place ofJson_summing_median
  cases carried
  exact ⟨_, ofJson_summing_median, message.trans (by decide), about⟩

end Document

end Assessment
