import Assessment.Number.Integer

/-!
# Arguments of the command line

The program checks a document or processes it.  The options on the report may stand
before or after the name of the command, those on processing only after it, and values
behind an equals sign or as the next argument.
-/

namespace Assessment

inductive OutputFormat where
  | text
  | json
  deriving DecidableEq, Repr

inductive Command where
  | check
  | process
  deriving DecidableEq, Repr

/-- What is to be done, and how it is to be reported. -/
structure Request where
  command : Command
  document : String
  responses : Option String
  config : Option String
  seed : Option Nat
  trace : Bool
  output : OutputFormat
  quiet : Bool
  deriving DecidableEq, Repr

namespace Arguments

/-- How the answer is to be reported, as far as the arguments say. -/
structure Reporting where
  output : Option OutputFormat
  quiet : Bool

def Reporting.none : Reporting :=
  ⟨.none, false⟩

/-- The options and names found so far.  Reporting has two parts: what stands before the
command, and what was found on the side of the command that the reader is on. -/
structure Found where
  command : Option Command
  document : Option String
  responses : Option String
  config : Option String
  seed : Option Nat
  trace : Bool
  before : Reporting
  reporting : Reporting

def Found.none : Found :=
  ⟨.none, .none, .none, .none, .none, false, Reporting.none, Reporting.none⟩

/-- The command, behind which reporting may be given anew. -/
def Found.setCommand (found : Found) (command : Command) : Found :=
  { found with
    command := some command
    before := found.reporting
    reporting := Reporting.none }

/-- The format behind the command goes before the one in front of it. -/
def Found.output (found : Found) : OutputFormat :=
  (found.reporting.output.or found.before.output).getD .text

def Found.quiet (found : Found) : Bool :=
  found.reporting.quiet || found.before.quiet

/-- The options that take a value. -/
inductive ValueOption where
  | responses
  | config
  | seed
  | output
  deriving DecidableEq

def valueOption? (found : Found) (name : String) : Option ValueOption :=
  match name with
  | "--output" => some .output
  | "--responses" => if found.command = some .process then some .responses else none
  | "--config" => if found.command = some .process then some .config else none
  | "--seed" => if found.command = some .process then some .seed else none
  | _ => none

/-- An unsigned number of 64 bits; a plus sign may precede it. -/
def seed? (text : String) : Option Nat :=
  let digits := match text.toList with
    | '+' :: rest => rest
    | rest => rest
  if digits.isEmpty || !digits.all Char.isDigit then none
  else
    let value := digits.foldl (fun value c => 10 * value + (c.toNat - '0'.toNat)) 0
    if value < Nat.pow 2 64 then some value else none

/-- A path; the empty text is none. -/
def path? (text : String) : Option String :=
  if text.isEmpty then none else some text

def format? (text : String) : Option OutputFormat :=
  match text with
  | "text" => some .text
  | "json" => some .json
  | _ => none

/-- Records the value of an option, which may occur once. -/
def Found.setValue? (found : Found) (option : ValueOption) (value : String) : Option Found :=
  match option with
  | .responses => do
      let path ← path? value
      if found.responses.isSome then .none else some { found with responses := path }
  | .config => do
      let path ← path? value
      if found.config.isSome then .none else some { found with config := path }
  | .seed => do
      let seed ← seed? value
      if found.seed.isSome then .none else some { found with seed }
  | .output => do
      let format ← format? value
      if found.reporting.output.isSome then .none
      else some { found with reporting := { found.reporting with output := format } }

/-- Records an argument that is no option: the command and then the document. -/
def Found.addName? (found : Found) (name : String) : Option Found :=
  match found.command, found.document with
  | .none, _ =>
      match name with
      | "check" => some (found.setCommand .check)
      | "process" => some (found.setCommand .process)
      | _ => .none
  | some _, .none => do
      let path ← path? name
      return { found with document := path }
  | some _, some _ => .none

/-- Records a switch, which may occur once. -/
def Found.setSwitch? (found : Found) (name : String) : Option Found :=
  match name with
  | "--quiet" =>
      if found.reporting.quiet then .none
      else some { found with reporting := { found.reporting with quiet := true } }
  | "--trace" =>
      if found.trace || found.command ≠ some .process then .none
      else some { found with trace := true }
  | _ => .none

/-- The name of an option and the value behind its equals sign. -/
def splitValue? (argument : String) : Option (String × String) :=
  let text := argument.toList
  let name := text.takeWhile (· != '=')
  match text.drop name.length with
  | _ :: value => some (String.ofList name, String.ofList value)
  | [] => none

def isOption (argument : String) : Bool :=
  match argument.toList with
  | '-' :: _ :: _ => true
  | _ => false

/-- Takes the arguments one by one.  Behind `--`, which has to follow the command, there are
only names. -/
def collect? : (onlyNames : Bool) → Found → List String → Option Found
  | _, found, [] => some found
  | true, found, name :: rest => do
      let found ← found.addName? name
      collect? true found rest
  | false, found, argument :: rest =>
      if argument == "--" then
        if found.command.isSome then collect? true found rest else none
      else if !isOption argument then do
        let found ← found.addName? argument
        collect? false found rest
      else
        match splitValue? argument with
        | some (name, value) => do
            let option ← valueOption? found name
            let found ← found.setValue? option value
            collect? false found rest
        | none =>
            match valueOption? found argument, rest with
            | some option, value :: rest =>
                if isOption value then none
                else do
                  let found ← found.setValue? option value
                  collect? false found rest
            | some _, [] => none
            | none, rest => do
                let found ← found.setSwitch? argument
                collect? false found rest

/-- The request that the arguments make, if they make one. -/
def read? (arguments : List String) : Option Request := do
  let found ← collect? false Found.none arguments
  let command ← found.command
  let document ← found.document
  return {
    command
    document
    responses := found.responses
    config := found.config
    seed := found.seed
    trace := found.trace
    output := found.output
    quiet := found.quiet }

end Arguments

end Assessment
