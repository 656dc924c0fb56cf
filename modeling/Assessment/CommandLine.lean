import Assessment.CommandLine.Arguments
import Assessment.Configuration
import Assessment.Document
import Assessment.Engine
import Assessment.FilePath
import Assessment.Json.Printer
import Assessment.Template

/-!
# The program

The program reads an assessment document and either sums it up or processes an attempt
at it.  It sees the outside only through a function that reads files, and gives back
what it prints and its exit code.
-/

namespace Assessment

/-- What is found under a path. -/
inductive FileContent where
  | absent
  | unreadable (reason : String)
  | text (content : String)
  deriving DecidableEq, Repr

/-- What the program can see of the outside: files, and sources of randomness for runs
without a seed. -/
structure Surroundings (m : Type → Type) where
  read : String → m FileContent
  chance : ProcessingKind → RandomSource

/-- What the program prints and how it ends. -/
structure ProgramResult where
  exit : UInt8
  output : String
  errors : String
  deriving DecidableEq, Repr

namespace Program

/-- A step of the program, which may end it with a message. -/
abbrev Step (m : Type → Type) := ExceptT String m

/-- Lines of output, each of which ends with a line break. -/
def lines (content : List String) : String :=
  String.join (content.map (· ++ "\n"))

section Reading

variable {m : Type → Type} [Monad m]

def loadDocument (surroundings : Surroundings m) (path : String) : Step m Document := do
  match ← surroundings.read path with
  | .text content =>
      match Document.ofText content with
      | .ok document => return document
      | .error error => throw ("error: invalid document " ++ path ++ ": " ++ error.message)
  | _ => throw ("error: document file not found: " ++ path)

/-- The settings of a file, or the default ones without a file.  A seed among the
arguments goes before the one of the file. -/
def loadSettings (surroundings : Surroundings m) (request : Request) : Step m Settings := do
  let settings ← match request.config with
    | none => pure Settings.default
    | some path => do
        match ← surroundings.read path with
        | .text content =>
            match Settings.read? content with
            | some settings => pure settings
            | none => throw ("error: invalid config " ++ path ++ ": not a settings file")
        | _ => throw ("error: config file not found: " ++ path)
  return { settings with seed := request.seed.or settings.seed }

/-- Assigns the responses of a file to the variables of the store. -/
def bindResponses (surroundings : Surroundings m) (path : String) (store : Store) :
    Step m Store := do
  match ← surroundings.read path with
  | .text content =>
      match Json.read? (some Json.documentDepth) content with
      | none => throw ("error: invalid JSON in " ++ path ++ ": not a JSON text")
      | some json =>
          match store.bindingsOfJson json with
          | .error error =>
              throw ("error: invalid responses " ++ path ++ ": " ++ error.message)
          | .ok bindings =>
              match store.bind bindings with
              | .ok store => return store
              | .error error => throw ("error: " ++ error.message)
  | _ => throw ("error: responses file not found: " ++ path)

/-- Locations that begin with `builtin:` are those of the standard templates. -/
def isBuiltin (location : String) : Bool :=
  "builtin:".toList.isPrefixOf location.toList

/-- The path of a template file, as seen from the directory of the document. -/
def templatePath (directory location : String) : String :=
  let scheme := "file://".toList
  let text := location.toList
  let path := if scheme.isPrefixOf text then text.drop scheme.length else text
  FilePath.join directory (String.ofList path)

/-- Loads the standard templates and those in files. -/
def templateLoader (surroundings : Surroundings m) (directory : String) : Loader m :=
  fun location =>
    if isBuiltin location then pure (.ok (Template.standard.get? location))
    else do
      let path := templatePath directory location
      match ← surroundings.read path with
      | .absent => return .ok none
      | .unreadable reason => return .error ("cannot read " ++ path ++ ": " ++ reason)
      | .text content =>
          match Json.read? (some Json.documentDepth) content with
          | none => return .error ("invalid JSON in " ++ path ++ ": not a JSON text")
          | some json =>
              match Rule.templateOfJson .response json with
              | .ok rules => return .ok (some rules)
              | .error error => return .error error.message

end Reading

/-! ## Checking -/

/-- What a block of processing contains. -/
def blockSummary (locations : Dictionary String) : Option Processing → Json
  | none => .null
  | some processing =>
      let orNull := fun (text : Option String) => match text with
        | some text => Json.string text
        | none => .null
      let known := match processing.template with
        | some name => Json.bool (locations.contains name)
        | none => .null
      .ofFields
        [("rules", .integer processing.ruleCount), ("template", orNull processing.template),
          ("templateLocation", orNull processing.templateLocation),
          ("templateKnown", known)]

/-- What a block of processing contains, in words. -/
def blockLine (locations : Dictionary String) (name : String) :
    Option Processing → String
  | none => "  " ++ name ++ ": none"
  | some processing =>
      if !processing.rules.isEmpty then
        let count := processing.ruleCount
        "  " ++ name ++ s!": {count} rule(s)"
      else
        match processing.template, processing.templateLocation with
        | some template, _ =>
            let known := if locations.contains template then "known" else "unmapped"
            "  " ++ name ++ ": template " ++ template ++ " (" ++ known ++ ")"
        | none, some location => "  " ++ name ++ ": template at " ++ location
        | none, none => "  " ++ name ++ ": empty"

def summaryJson (locations : Dictionary String) (document : Document) : Json :=
  let declaration := fun (v : Variable) => Json.ofFields
    [("identifier", .string v.identifier), ("role", .string v.role.name),
      ("type", .string v.type.text)]
  .ofFields
    [("identifier", .string document.identifier),
      ("declarations", .array (document.declarations.map declaration)),
      ("templateProcessing", blockSummary locations document.templateProcessing),
      ("responseProcessing", blockSummary locations document.responseProcessing),
      ("outcomeProcessing", blockSummary locations document.outcomeProcessing),
      ("rules", .integer document.ruleCount)]

def summaryLines (locations : Dictionary String) (document : Document) : List String :=
  let declaration := fun (v : Variable) =>
    "  " ++ v.role.name ++ " " ++ v.identifier ++ ": " ++ v.type.text
  let declared := document.declarations.length
  let count := document.ruleCount
  ["Document: " ++ document.identifier, s!"Declarations: {declared}"] ++
    document.declarations.map declaration ++
    ["Processing:",
      blockLine locations "template" document.templateProcessing,
      blockLine locations "response" document.responseProcessing,
      blockLine locations "outcome" document.outcomeProcessing,
      s!"Rules: {count}"]

/-- The summary of a document in the wanted format. -/
def summary (format : OutputFormat) (document : Document) : String :=
  let locations := Template.locations Settings.default
  match format with
  | .json => lines [(summaryJson locations document).pretty 0]
  | .text => lines (summaryLines locations document)

/-! ## Processing -/

/-- A run that did not fail. -/
structure CompletedRun where
  kind : ProcessingKind
  report : Report
  trace : List String

def failureMessage (kind : ProcessingKind) (error : ProcessingError) : String :=
  let title := "error: " ++ ProcessingKind.title kind ++ " failed"
  let failures := error.failures.map fun failure => "\n  " ++ failure.message
  let message := title ++ String.join failures
  if failures.isEmpty then message ++ ": " ++ error.message else message

section Running

variable {m : Type → Type} [Monad m]

/-- Runs a block of processing, if there is one, after those that ran before. -/
def runBlock (surroundings : Surroundings m) (settings : Settings) (loader : Loader m)
    (kind : ProcessingKind) (processing : Option Processing)
    (before : Store × List CompletedRun) : Step m (Store × List CompletedRun) := do
  match processing with
  | none => return before
  | some processing =>
      let (store, runs) := before
      let resolved ← (processing.resolve (Template.locations settings) loader : m _)
      let source := match settings.seed with
        | some seed => RandomSource.ofSeed seed
        | none => surroundings.chance kind
      let result :=
        (Processor.ofKind kind).run ⟨settings, Registry.standard⟩ source resolved store
      match result.outcome with
      | .ok report =>
          return (result.store, runs ++ [⟨kind, report, result.processor.trace.toList⟩])
      | .error error => throw (failureMessage kind error)

/-- Processes a document: template processing, the responses of the attempt, response
processing and outcome processing. -/
def processDocument (surroundings : Surroundings m) (request : Request)
    (document : Document) : Step m (Store × List CompletedRun) := do
  let settings ← loadSettings surroundings request
  let directory := (FilePath.parent? request.document).getD "."
  let loader := templateLoader surroundings directory
  let run := runBlock surroundings settings loader
  let (store, runs) ← run .template document.templateProcessing (document.newStore, [])
  let store ← match request.responses with
    | some path => bindResponses surroundings path store
    | none => pure store
  let state ← run .response document.responseProcessing (store, runs)
  run .outcome document.outcomeProcessing state

end Running

def runJson (withTrace : Bool) (run : CompletedRun) : Json :=
  let fields : List (String × Json) :=
    [("kind", .string (ProcessingKind.title run.kind)), ("exited", .bool run.report.exited),
      ("attempts", .integer run.report.attempts),
      ("constraintSatisfied", .bool run.report.constraintSatisfied)]
  let trace : List (String × Json) :=
    if withTrace then [("trace", .array (run.trace.map .string))] else []
  .ofFields (fields ++ trace)

def runLines (withTrace : Bool) (run : CompletedRun) : List String :=
  let early := if run.report.exited then " (exited early)" else ""
  let attempts := run.report.attempts
  let again := if 1 < attempts then s!" after {attempts} attempts" else ""
  let unsatisfied :=
    if run.report.constraintSatisfied then "" else ", template constraints unsatisfied"
  let line := ProcessingKind.title run.kind ++ ": completed" ++ early ++ again ++ unsatisfied
  line :: if withTrace then run.trace.map ("  " ++ ·) else []

def variableLine (v : Variable) : String :=
  "  " ++ v.identifier ++ " (" ++ v.role.name ++ " " ++ v.type.text ++ ") = " ++ v.value.text

/-- The report on a processed document in the wanted format. -/
def report (request : Request) (document : Document) (store : Store)
    (runs : List CompletedRun) : String :=
  match request.output with
  | .json =>
      lines [(Json.ofFields
        [("identifier", .string document.identifier),
          ("runs", .array (runs.map (runJson request.trace))),
          ("state", store.toJson)]).pretty 0]
  | .text =>
      lines (runs.flatMap (runLines request.trace) ++
        "Variables:" :: store.declared.map variableLine)

/-! ## The whole program -/

section Whole

variable {m : Type → Type} [Monad m]

/-- What a request prints if nothing ends it before. -/
def answer (surroundings : Surroundings m) (request : Request) : Step m String := do
  let document ← loadDocument surroundings request.document
  match request.command with
  | .check => return summary request.output document
  | .process =>
      let (store, runs) ← processDocument surroundings request document
      return report request document store runs

/-- A message in the wanted format. -/
def errorText (format : OutputFormat) (message : String) : String :=
  match format with
  | .text => lines [message]
  | .json => lines [(Json.ofFields [("error", .string message)]).compact]

/-- Answers a request.  A quiet program prints nothing. -/
def serve (surroundings : Surroundings m) (request : Request) : m ProgramResult := do
  match ← (answer surroundings request).run with
  | .ok output => return ⟨0, if request.quiet then "" else output, ""⟩
  | .error message =>
      return ⟨1, "", if request.quiet then "" else errorText request.output message⟩

def usage : List String :=
  ["usage: qti [--output text|json] [--quiet] check DOCUMENT",
    "       qti [--output text|json] [--quiet] process DOCUMENT [--responses FILE]",
    "           [--config FILE] [--seed NUMBER] [--trace]"]

/-- Runs the program on its arguments. -/
def run (surroundings : Surroundings m) (arguments : List String) : m ProgramResult :=
  match Arguments.read? arguments with
  | some request => serve surroundings request
  | none => pure ⟨2, "", lines usage⟩

end Whole

end Program

end Assessment
