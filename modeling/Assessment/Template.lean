import Assessment.Execution

/-!
# Templates of processing

A block of processing without rules of its own takes those of a template.  The name of
the template is mapped to a location, and a loader gives the rules stored there.  The
standard templates score the variable `RESPONSE` and write `SCORE`.
-/

namespace Assessment

/-- What a loader finds at a location: rules, nothing, or something it cannot read. -/
abbrev Loader (m : Type → Type) := String → m (Except String (Option (List Rule)))

namespace Template

/-- A rule that scores one of two expressions. -/
def scoreIf (guard yes no : Expression) : List Rule :=
  [.condition .response
    (.arm guard [.set .outcomeValue "SCORE" yes]
      (.otherwise [.set .outcomeValue "SCORE" no]))]

/-- One point if the response is the correct one. -/
def matchCorrect : List Rule :=
  scoreIf (.apply .identical [.valueOf "RESPONSE", .correctOf "RESPONSE"])
    (.baseValue (.float 1.0)) (.baseValue (.float 0.0))

/-- The mapped score of the response, and no points without a response. -/
def mapped (score : Expression) : List Rule :=
  scoreIf (.apply .isNull [.valueOf "RESPONSE"]) (.baseValue (.float 0.0)) score

/-- The templates that are always there, by location. -/
def standard : Dictionary (List Rule) :=
  Dictionary.ofList
    [("builtin:match_correct", matchCorrect),
      ("builtin:map_response", mapped (.mapResponse "RESPONSE")),
      ("builtin:map_response_point", mapped (.mapResponsePoint "RESPONSE"))]

/-- The versions of the standard whose template names are known. -/
def versions : List String := ["qti_v2p0", "qti_v2p1", "qti_v2p2"]

/-- The locations of the standard templates, by all the names that they have. -/
def standardLocations : Dictionary String :=
  Dictionary.ofList <| versions.flatMap fun version =>
    ["match_correct", "map_response", "map_response_point"].flatMap fun template =>
      let name := "http://www.imsglobal.org/question/" ++ version ++ "/rptemplates/" ++ template
      [(name, "builtin:" ++ template), (name ++ ".xml", "builtin:" ++ template)]

/-- The locations that templates are known under. -/
def locations (settings : Settings) : Dictionary String :=
  standardLocations.overlay settings.templates

/-- A loader of templates that are held in a dictionary. -/
def loaderOf {m : Type → Type} [Monad m] (templates : Dictionary (List Rule)) : Loader m :=
  fun location => pure (.ok (templates.get? location))

end Template

namespace Processing

/-- Where to look for the rules of a block: where its template is known to be, and then
where the block says. -/
def candidates (locations : Dictionary String) (processing : Processing) : List String :=
  (processing.template.bind locations.get?).toList ++ processing.templateLocation.toList

/-- The rules at the first location that has some. -/
def loadFirst {m : Type → Type} [Monad m] (loader : Loader m) (name : String) :
    List String → m (Except RuleError (List Rule))
  | [] => pure (.error (.templateNotFound name))
  | location :: rest => do
      match ← loader location with
      | .error reason => return .error (.templateFailed name reason)
      | .ok (some rules) => return .ok rules
      | .ok none => loadFirst loader name rest

/-- The rules that a block runs: its own ones, if it has any or names no template, and
else those of its template. -/
def resolve {m : Type → Type} [Monad m] (locations : Dictionary String) (loader : Loader m)
    (processing : Processing) : m (Except RuleError (List Rule)) :=
  match processing.template.or processing.templateLocation with
  | none => pure (.ok processing.rules)
  | some name =>
      if processing.rules.isEmpty then
        loadFirst loader name (processing.candidates locations)
      else pure (.ok processing.rules)

end Processing

end Assessment
