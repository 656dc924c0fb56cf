import Assessment.Proofs.Conformance
import Assessment.Proofs.FixedResult
import Assessment.Proofs.Sameness
import Assessment.Proofs.Succession
import Assessment.Template

/-!
# What the standard templates score

Response processing with a standard template writes one score and nothing else.  A
response that is to be matched gets one point if it and the correct response are there
and are the same, and a response that is to be mapped gets what its mapping gives.  In
an attempt both responses are of the declared type, so that they can be compared.
-/

namespace Assessment

theorem Dictionary.get?_ofList_of_mem {α : Type} {entries : List (String × α)} {key : String}
    {value : α} (distinct : (entries.map (·.1)).Nodup) (member : (key, value) ∈ entries) :
    (ofList entries).get? key = some value := by
  have others : ∀ (rest : List (String × α)) (dictionary : Dictionary α),
      key ∉ rest.map (·.1) →
        (rest.foldl (fun dictionary entry => dictionary.insert entry.1 entry.2) dictionary).get?
          key = dictionary.get? key := by
    intro rest
    induction rest with
    | nil => exact fun _ _ => rfl
    | cons entry rest induction =>
        intro dictionary absent
        obtain ⟨different, absentRest⟩ := not_or.mp (mt List.mem_cons.mpr absent)
        rw [List.foldl_cons, induction _ absentRest, get?_insert, if_neg (Ne.symm different)]
  have inserted : ∀ dictionary : Dictionary α,
      (entries.foldl (fun dictionary entry => dictionary.insert entry.1 entry.2) dictionary).get?
        key = some value := by
    induction entries with
    | nil => cases member
    | cons entry entries induction =>
        intro dictionary
        obtain ⟨new, distinctRest⟩ := List.nodup_cons.mp distinct
        rcases List.mem_cons.mp member with rfl | later
        · rw [List.foldl_cons, others entries _ new, get?_insert, if_pos rfl]
        · exact induction distinctRest later _
  exact inserted empty

theorem Dictionary.overlay_empty {α : Type} (base : Dictionary α) : base.overlay empty = base :=
  rfl

/-! ## The templates and their names -/

namespace Template

inductive Standard where
  | matchCorrect
  | mapResponse
  | mapResponsePoint
  deriving DecidableEq

namespace Standard

def all : List Standard :=
  [matchCorrect, mapResponse, mapResponsePoint]

def name : Standard → String
  | .matchCorrect => "match_correct"
  | .mapResponse => "map_response"
  | .mapResponsePoint => "map_response_point"

def location (template : Standard) : String :=
  "builtin:" ++ template.name

def rules : Standard → List Rule
  | .matchCorrect => Template.matchCorrect
  | .mapResponse => mapped (.mapResponse "RESPONSE")
  | .mapResponsePoint => mapped (.mapResponsePoint "RESPONSE")

/-- The score of the templates that map a response. -/
def mapping? : Standard → Option Expression
  | .matchCorrect => none
  | .mapResponse => some (.mapResponse "RESPONSE")
  | .mapResponsePoint => some (.mapResponsePoint "RESPONSE")

theorem get?_standard (template : Standard) :
    standard.get? template.location = some template.rules := by
  cases template <;> rfl

theorem rules_of_mapping? {template : Standard} {score : Expression}
    (mapping : template.mapping? = some score) : template.rules = mapped score := by
  cases template <;> cases mapping <;> rfl

/-- The names that the template has in a version of the standard. -/
def urisIn (template : Standard) (version : String) : List String :=
  let uri := "http://www.imsglobal.org/question/" ++ version ++ "/rptemplates/" ++ template.name
  [uri, uri ++ ".xml"]

def uris (template : Standard) : List String :=
  versions.flatMap template.urisIn

/-- All names of standard templates with the locations they lead to. -/
def located : List (String × String) :=
  versions.flatMap fun version =>
    all.flatMap fun template => (template.urisIn version).map fun uri => (uri, template.location)

theorem nodup_located : (located.map (·.1)).Nodup := by
  decide +kernel

theorem locations_default : locations .default = Dictionary.ofList located := by
  have entries : (versions.flatMap fun version =>
      ["match_correct", "map_response", "map_response_point"].flatMap fun template =>
        let name := "http://www.imsglobal.org/question/" ++ version ++ "/rptemplates/" ++ template
        [(name, "builtin:" ++ template), (name ++ ".xml", "builtin:" ++ template)]) = located :=
    rfl
  have none : Settings.default.templates = Dictionary.empty := rfl
  rw [locations, standardLocations, entries, none, Dictionary.overlay_empty]

theorem get?_locations {template : Standard} {uri : String} (names : uri ∈ template.uris) :
    (locations .default).get? uri = some template.location := by
  have entry : (uri, template.location) ∈ located := by
    rw [uris, List.mem_flatMap] at names
    obtain ⟨version, known, member⟩ := names
    have listed : template ∈ all := by
      cases template <;> decide
    rw [located, List.mem_flatMap]
    refine ⟨version, known, ?_⟩
    rw [List.mem_flatMap]
    exact ⟨template, listed, List.mem_map.mpr ⟨uri, member, rfl⟩⟩
  rw [locations_default]
  exact Dictionary.get?_ofList_of_mem nodup_located entry

end Standard

end Template

open Template (Standard)

/-- The block has no rules of its own, and its template is a standard one: it has one of
the names of the template, or no name that is known and the location of the template. -/
inductive Processing.Uses : Processing → Standard → Prop where
  | named {template : Standard} {uri : String} (location : Option String) :
      uri ∈ template.uris → Uses ⟨[], some uri, location⟩ template
  | located {template : Standard} {name : Option String} :
      name.bind (Template.locations .default).get? = none →
      Uses ⟨[], name, some template.location⟩ template

/-- What a block runs with the standard settings and templates. -/
def Processing.standardRules (processing : Processing) : Except RuleError (List Rule) :=
  Id.run (processing.resolve (Template.locations .default) (Template.loaderOf Template.standard))

/-- If there are rules at the first location where they are looked for, these are run. -/
theorem Processing.resolve_of_first {m : Type → Type} [Monad m] [LawfulMonad m]
    {locations : Dictionary String} {loader : Loader m} {processing : Processing}
    {name location : String} {rest : List String} {rules : List Rule}
    (empty : processing.rules = [])
    (wanted : processing.template.or processing.templateLocation = some name)
    (first : processing.candidates locations = location :: rest)
    (loaded : loader location = pure (.ok (some rules))) :
    processing.resolve locations loader = pure (.ok rules) := by
  rw [resolve, wanted, empty, first]
  change loadFirst loader name (location :: rest) = _
  rw [loadFirst, loaded, pure_bind]

theorem Processing.Uses.standardRules_eq {processing : Processing} {template : Standard}
    (uses : processing.Uses template) : processing.standardRules = .ok template.rules := by
  have loaded : Template.loaderOf (m := Id) Template.standard template.location =
      pure (.ok (some template.rules)) := by
    rw [Template.loaderOf, template.get?_standard]
  have first : ∃ name rest, processing.rules = [] ∧
      processing.template.or processing.templateLocation = some name ∧
      processing.candidates (Template.locations .default) = template.location :: rest := by
    cases uses with
    | @named _ uri location names =>
        refine ⟨uri, location.toList, rfl, rfl, ?_⟩
        rw [candidates, Option.bind_some, Standard.get?_locations names]
        rfl
    | @located _ name unknown =>
        refine ⟨name.getD template.location, [], rfl, ?_, ?_⟩
        · cases name <;> rfl
        · rw [candidates, unknown]
          rfl
  obtain ⟨name, rest, empty, wanted, first⟩ := first
  rw [standardRules, resolve_of_first empty wanted first loaded]
  rfl

open Evaluation (Gives)

/-! ## Scores of mappings -/

theorem Variable.exists_float_of_mappedScore {v : Variable} {points : Value}
    (scored : v.mappedScore = .ok points) : ∃ x, points = .float x := by
  unfold mappedScore at scored
  split at scored
  next => cases scored
  next =>
    split at scored
    next => cases scored
    next =>
      cases scored
      exact ⟨_, rfl⟩

theorem Variable.exists_float_of_areaScore {v : Variable} {points : Value}
    (scored : v.areaScore = .ok points) : ∃ x, points = .float x := by
  unfold areaScore at scored
  split at scored
  next => cases scored
  next =>
    split at scored
    next => cases scored
    next =>
      cases scored
      exact ⟨_, rfl⟩

namespace Expression

variable {context : Context}

/-- A mapping gives a float or an error, and draws nothing. -/
theorem mapping_gives {v : Variable} {template : Standard} {mapping : Expression}
    (within : 1 ≤ context.settings.maxExpressionDepth)
    (found : context.store.get? "RESPONSE" = some v) (maps : template.mapping? = some mapping) :
    ∃ result, Gives (mapping.evaluate context) result ∧
      ∀ points, result = .ok points → ∃ x, points = .float x := by
  cases template with
  | matchCorrect => cases maps
  | mapResponse =>
      cases maps
      exact ⟨v.mappedScore, mapResponse_gives within found,
        fun _ => Variable.exists_float_of_mappedScore⟩
  | mapResponsePoint =>
      cases maps
      exact ⟨v.areaScore, mapResponsePoint_gives within found,
        fun _ => Variable.exists_float_of_areaScore⟩

end Expression

/-! ## Runs of the templates -/

/-- The run has completed without an exit and has written the score and nothing else; or
it has failed with the one error that the score has, and has written nothing. -/
def Processor.Result.Scores (result : Result) (store : Store) : Evaluated Value → Prop
  | .ok points =>
      result.outcome = .ok ⟨false, 1, true⟩ ∧
        result.store = store.update "SCORE" (Variable.setValue points)
  | .error cause =>
      result.outcome = .error (.aggregate [.expression "setOutcomeValue" cause]) ∧
        result.store = store

section Runs

variable {environment : Environment} {store : Store} {score : Variable}

theorem Assignment.run_execute_score {expression : Expression} {result : Evaluated Value}
    (progress : Progress)
    (declared : progress.store.get? "SCORE" = some score) (outcome : score.role.kind = .outcome)
    (fits : ∀ points, result = .ok points → points.Conforms score.type)
    (gives : Gives (expression.evaluate (environment.over progress.store)) result) :
    ((Assignment.mk .outcomeValue "SCORE" expression).execute environment).run.run progress =
      match result with
      | .ok points =>
          (.ok (),
            { progress with store := progress.store.update "SCORE" (Variable.setValue points) })
      | .error cause => (.error (.failure (.expression "setOutcomeValue" cause)), progress) := by
  have target : (Assignment.mk .outcomeValue "SCORE" expression).target? progress.store =
      .ok score := by
    simp [target?, Store.get, declared, AssignmentKind.role?, outcome]
  rw [run_execute, target]
  simp only [Execution.run_bind, Execution.run_evaluate, gives progress.source]
  cases result with
  | error cause => rfl
  | ok points =>
      have coerced := DeclaredType.coerce?_of_conforms (fits points rfl)
      simp only [Execution.ofEvaluated, store_eq, written, Execution.run_write, Store.assign_eq,
        declared, coerced]
      rfl

theorem Rule.run_executeAllAt_assign {assignment : Assignment} {depth : Nat}
    {progress : Progress} (deep : depth ≤ environment.settings.maxRuleDepth) :
    (executeAllAt environment depth [.assign assignment]).run.run progress =
      (assignment.execute environment).run.run
        (progress.note (assignment.kind.className ++ " executed")) := by
  rw [executeAllAt, executeAllAt, bind_pure_unit, run_executeAt_assign deep]
  rfl

theorem Template.run_execute_scoreIf {guard yes no : Expression} {verdict : Value}
    (progress : Progress) (deep : 2 ≤ environment.settings.maxRuleDepth)
    (decided : Gives (guard.evaluate (environment.over progress.store)) (.ok verdict)) :
    ∃ rule trace, scoreIf guard yes no = [rule] ∧
      (rule.execute environment).run.run progress =
        ((Assignment.mk .outcomeValue "SCORE" (if verdict.isTrue then yes else no)).execute
          environment).run.run { progress with trace } := by
  let line := "setOutcomeValue executed"
  have verdictNoted (line : String) :
      (guard.evaluate (environment.over (progress.note line).store)).run.run
        (progress.note line).source = (.ok verdict, progress.source) :=
    decided progress.source
  refine ⟨_, ((progress.note "responseCondition executed").note line).trace, rfl, ?_⟩
  rw [Rule.execute, Rule.executeAt, Execution.run_enter_bind (Nat.le_of_succ_le deep)]
  simp only [Arms.executeAt, Execution.run_bind, Execution.run_evaluate, verdictNoted,
    Execution.ofEvaluated]
  cases verdict.isTrue with
  | true => exact Rule.run_executeAllAt_assign deep
  | false => exact Rule.run_executeAllAt_assign deep

/-- If the guard has a value, the run scores what the chosen expression gives. -/
theorem Template.run_scoreIf {guard yes no : Expression} {verdict : Value}
    {result : Evaluated Value} (source : RandomSource)
    (deep : 2 ≤ environment.settings.maxRuleDepth)
    (decided : Gives (guard.evaluate (environment.over store)) (.ok verdict))
    (declared : store.get? "SCORE" = some score) (outcome : score.role.kind = .outcome)
    (fits : ∀ points, result = .ok points → points.Conforms score.type)
    (gives : Gives ((if verdict.isTrue then yes else no).evaluate (environment.over store))
      result) :
    ((Processor.ofKind .response).run environment source (.ok (scoreIf guard yes no))
      store).Scores store result := by
  obtain ⟨rule, trace, single, executed⟩ :=
    run_execute_scoreIf ⟨store, source, #[]⟩ deep decided
  have ended :=
    Assignment.run_execute_score ⟨store, source, trace⟩ declared outcome fits gives
  rw [single, Processor.run_response, Engine.run_collectFailures_cons, executed, ended]
  cases result with
  | ok points => exact ⟨rfl, rfl⟩
  | error cause => exact ⟨rfl, rfl⟩

end Runs

/-- The value is there, and it is the correct one. -/
def Value.Answers (value correct : Value) : Prop :=
  value.isNull = false ∧ correct.isNull = false ∧ value.Same correct

/-- The verdict of the comparison is true exactly for correct values. -/
theorem Value.Conforms.isTrue_iff_answers {value correct : Value} {type : DeclaredType}
    {baseType : BaseType} (valueFits : value.Conforms type) (correctFits : correct.Conforms type)
    (based : type.baseType? = some baseType) (exact : baseType ≠ .float) :
    (if value.isNull || correct.isNull then .null
      else Value.boolean (value.equal correct)).isTrue = true ↔ value.Answers correct := by
  cases missing : value.isNull || correct.isNull with
  | true =>
      constructor
      · intro true
        cases true
      · rintro ⟨valueThere, correctThere, _⟩
        simp [valueThere, correctThere] at missing
  | false =>
      obtain ⟨valueThere, correctThere⟩ := Bool.or_eq_false_iff.mp missing
      have exactOf : ∀ {scalar : Scalar}, type.baseType? = some scalar.baseType →
          scalar.baseType ≠ .float := by
        intro scalar same
        rw [based] at same
        cases same
        exact exact
      have notRecord : type.cardinality ≠ .record := by
        cases type with
        | record => cases based
        | single | multiple | ordered => simp [DeclaredType.cardinality]
      have same : value.equal correct = true ↔ value.Same correct :=
        Value.equal_iff_same type.cardinality notRecord
          (valueFits.type_eq_of_notNull valueThere).1
          (fun _ member => exactOf (valueFits.baseType_of_mem member))
          (fun _ member => exactOf (correctFits.baseType_of_mem member))
      constructor
      · intro true
        refine ⟨valueThere, correctThere, same.mp ?_⟩
        cases equal : value.equal correct with
        | true => rfl
        | false =>
            rw [equal] at true
            cases true
      · rintro ⟨_, _, answers⟩
        rw [same.mpr answers]
        rfl

/-- What one run of a block does to a store, with the standard settings and templates. -/
def Processing.respond (processing : Processing) (registry : Registry) (source : RandomSource)
    (store : Store) : Processor.Result :=
  (Processor.ofKind .response).run ⟨.default, registry⟩ source processing.standardRules store

section Standard

variable {store : Store} {v score : Variable} {info : ResponseInfo} {baseType : BaseType}

theorem Template.run_matchCorrect (conforming : v.Conforming)
    (found : store.get? "RESPONSE" = some v) (role : v.role = .response info)
    (based : v.type.baseType? = some baseType) (noFloat : baseType ≠ .float)
    (noDuration : baseType ≠ .duration) (declared : store.get? "SCORE" = some score)
    (outcome : score.role.kind = .outcome) (type : score.type = .single .float)
    (registry : Registry) (source : RandomSource) :
    let result := (Processor.ofKind .response).run ⟨.default, registry⟩ source
      (.ok matchCorrect) store
    (v.value.Answers info.correct → result.Scores store (.ok (.float 1.0))) ∧
      (¬v.value.Answers info.correct → result.Scores store (.ok (.float 0.0))) := by
  let environment : Environment := ⟨.default, registry⟩
  have deep : 2 ≤ environment.settings.maxRuleDepth := show 2 ≤ 128 by decide
  have within : 2 ≤ (environment.over store).settings.maxExpressionDepth :=
    show 2 ≤ 256 by decide
  have shallow := Nat.le_of_succ_le within
  have valueFits : v.value.Conforms v.type := conforming.1
  have correctFits : info.correct.Conforms v.type := by
    apply conforming.2.2
    rw [Variable.correct?, Variable.responseInfo?, role]
    rfl
  have exact : baseType ∈ Accepts.matchable := by
    cases baseType <;> simp_all [Accepts.matchable]
  have decided := Expression.apply_gives shallow
    (.cons (Expression.valueOf_gives within found)
      (.cons (Expression.correctOf_gives within found role) .nil))
    (Operator.identical_gives valueFits correctFits based exact)
  have verdict := valueFits.isTrue_iff_answers correctFits based noFloat
  have scores := fun points : Float =>
    Expression.baseValue_gives shallow (.float points)
  constructor
  · intro answers
    apply run_scoreIf source deep decided declared outcome
    · rintro _ ⟨⟩
      exact type
    · rw [if_pos (verdict.mpr answers)]
      exact scores 1.0
  · intro fails
    apply run_scoreIf source deep decided declared outcome
    · rintro _ ⟨⟩
      exact type
    · rw [if_neg (mt verdict.mp fails)]
      exact scores 0.0

theorem Template.run_mapped {template : Standard} {mapping : Expression}
    (found : store.get? "RESPONSE" = some v) (maps : template.mapping? = some mapping)
    (declared : store.get? "SCORE" = some score) (outcome : score.role.kind = .outcome)
    (type : score.type = .single .float) (registry : Registry) (source : RandomSource) :
    let environment : Environment := ⟨.default, registry⟩
    let result := (Processor.ofKind .response).run environment source (.ok (mapped mapping)) store
    (v.value.isNull = true → result.Scores store (.ok (.float 0.0))) ∧
      (v.value.isNull = false →
        result.Scores store ((mapping.evaluate (environment.over store)).run.run source).1) := by
  intro environment result
  have deep : 2 ≤ environment.settings.maxRuleDepth := show 2 ≤ 128 by decide
  have within : 2 ≤ (environment.over store).settings.maxExpressionDepth :=
    show 2 ≤ 256 by decide
  have shallow := Nat.le_of_succ_le within
  have decided := Expression.apply_gives shallow
    (.cons (Expression.valueOf_gives within found) .nil) (Operator.isNull_gives v.value)
  constructor
  · intro null
    rw [null] at decided
    refine run_scoreIf source deep decided declared outcome ?_
      (Expression.baseValue_gives shallow (.float 0.0))
    rintro _ ⟨⟩
    exact type
  · intro there
    rw [there] at decided
    obtain ⟨scored, gives, float⟩ := Expression.mapping_gives shallow found maps
    rw [gives source]
    refine run_scoreIf source deep decided declared outcome ?_ gives
    intro points succeeded
    obtain ⟨x, rfl⟩ := float points succeeded
    exact type

/-- In every store of an attempt at an accepted document with a response `RESPONSE` that
is no record and a float outcome `SCORE`, the standard templates score what they are
meant to score: `match_correct` one point for the correct response and none otherwise,
and the other two what the mapping of the response gives, or none without a response. -/
theorem Processing.Uses.respond_scores {node : Json} {document : Document}
    (accepted : Document.ofJson node = .ok document) (reaches : document.Reaches store)
    (found : store.get? "RESPONSE" = some v) (role : v.role = .response info)
    (based : v.type.baseType? = some baseType) (declared : store.get? "SCORE" = some score)
    (outcome : score.role.kind = .outcome) (type : score.type = .single .float)
    {processing : Processing} {template : Standard} (uses : processing.Uses template)
    (registry : Registry) (source : RandomSource) :
    let result := processing.respond registry source store
    let context := (⟨.default, registry⟩ : Environment).over store
    (template = .matchCorrect → baseType ≠ .float → baseType ≠ .duration →
      (v.value.Answers info.correct → result.Scores store (.ok (.float 1.0))) ∧
        (¬v.value.Answers info.correct → result.Scores store (.ok (.float 0.0)))) ∧
    (∀ mapping, template.mapping? = some mapping →
      (v.value.isNull = true → result.Scores store (.ok (.float 0.0))) ∧
        (v.value.isNull = false →
          result.Scores store ((mapping.evaluate context).run.run source).1)) := by
  intro result context
  have ran : result = (Processor.ofKind .response).run ⟨.default, registry⟩ source
      (.ok template.rules) store := by
    rw [← uses.standardRules_eq]
    rfl
  have conforming : v.Conforming :=
    (reaches.declares accepted).conforming v (Store.mem_of_get? found)
  constructor
  · rintro rfl noFloat noDuration
    rw [ran]
    exact Template.run_matchCorrect conforming found role based noFloat noDuration declared
      outcome type registry source
  · intro mapping maps
    rw [ran, Standard.rules_of_mapping? maps]
    exact Template.run_mapped found maps declared outcome type registry source

/-- An item that asks for two pairs and has a score. -/
def pairingItem : Json :=
  .object
    [("declarations", .array
        [.object
          [("baseType", .string "pair"), ("cardinality", .string "multiple"),
            ("correctResponse", .array [.string "A B", .string "C D"]),
            ("identifier", .string "RESPONSE"), ("role", .string "response")],
          .object
          [("baseType", .string "float"), ("cardinality", .string "single"),
            ("identifier", .string "SCORE"), ("role", .string "outcome")]]),
      ("identifier", .string "pairing")]

/-- The two pairs in another order, one of them from its other end. -/
def pairsAnswer : Value :=
  .multiple ⟨.pair, [.pair "D" "C", .pair "A" "B"]⟩

def matchingBlock : Processing :=
  ⟨[], some "http://www.imsglobal.org/question/qti_v2p1/rptemplates/match_correct", none⟩

def mappingBlock : Processing :=
  ⟨[], none, some Standard.mapResponse.location⟩

/-- One point for the two pairs, and an error where there is no mapping. -/
theorem Processing.Uses.respond_scores_pairs :
    ∃ document answered,
      Document.ofJson pairingItem = .ok document ∧
        document.newStore.setValue "RESPONSE" pairsAnswer = .ok answered ∧
        (matchingBlock.respond .standard (.ofSeed 0) answered).Scores answered
          (.ok (.float 1.0)) ∧
        (mappingBlock.respond .standard (.ofSeed 0) answered).Scores answered
          (.error (.invalidVariable "mapResponse" "RESPONSE" .noMapping)) := by
  have declarations : ∃ document answered v info score,
      Document.ofJson pairingItem = .ok document ∧
        document.newStore.setValue "RESPONSE" pairsAnswer = .ok answered ∧
        answered.get? "RESPONSE" = some v ∧ v.role = .response info ∧
        v.type.baseType? = some .pair ∧ answered.get? "SCORE" = some score ∧
        score.role.kind = .outcome ∧ score.type = .single .float ∧
        v.value = pairsAnswer ∧
        info.correct = .multiple ⟨.pair, [.pair "A" "B", .pair "C" "D"]⟩ ∧
        (((Expression.mapResponse "RESPONSE").evaluate
          ((⟨.default, .standard⟩ : Environment).over answered)).run.run (.ofSeed 0)).1 =
            .error (.invalidVariable "mapResponse" "RESPONSE" .noMapping) :=
    ⟨_, _, _, _, _, rfl, rfl, rfl, rfl, rfl, rfl, rfl, rfl, rfl, by decide +kernel, rfl⟩
  obtain ⟨document, answered, v, info, score, accepted, stored, found, role, based, declared,
    outcome, type, value, correct, unmapped⟩ := declarations
  have matching : matchingBlock.Uses .matchCorrect := .named none (by decide +kernel)
  have mapping : mappingBlock.Uses .mapResponse := .located rfl
  refine ⟨document, answered, accepted, stored, ?_, ?_⟩
  · have scores := (matching.respond_scores accepted (.stored .fresh stored) found role based
      declared outcome type .standard (.ofSeed 0)).1 rfl (by decide) (by decide)
    have pairs := List.Forall₂.cons (Scalar.Same.swapped "D" "C")
      (.cons (Scalar.Same.refl (.pair "A" "B")) .nil)
    apply scores.1
    rw [value, correct]
    exact ⟨rfl, rfl, .multiple rfl (.swap _ _ _) pairs⟩
  · have scores := (mapping.respond_scores accepted (.stored .fresh stored) found role based
      declared outcome type .standard (.ofSeed 0)).2 _ rfl
    rw [← unmapped]
    apply scores.2
    rw [value]
    rfl

end Standard

end Assessment
