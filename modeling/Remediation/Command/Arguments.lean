import Remediation.Command.Basic
import Remediation.Number.Radix

/-!
The arguments of the command line. Options stand before or behind the name of a command; one that
is given at both places counts as it is given behind. Arguments are taken from left to right, and the
first one that makes no sense, or that asks for help, decides.
-/

namespace Remediation

/-- Why arguments are no invocation. -/
inductive ArgumentsReply where
  /-- The arguments make no sense. -/
  | usage
  | help
  | version
  deriving DecidableEq, Repr

/-- What can be set by an option, or by an argument that stands for itself. -/
inductive Setting where
  | project
  | region
  | endpoint
  | concurrency
  | logLevel
  | logFile
  | policy
  | dryRun
  | output
  | showExcluded
  | file
  deriving DecidableEq, Repr

namespace Setting

/-- The names of the options that take a value. -/
def valued? (isRun : Bool) (name : String) : Option Setting :=
  match name with
  | "project" => some .project
  | "region" => some .region
  | "endpoint" => some .endpoint
  | "concurrency" => some .concurrency
  | "log-level" => some .logLevel
  | "log-file" => some .logFile
  | "policy" => if isRun then some .policy else none
  | "output" => if isRun then some .output else none
  | _ => none

/-- The names of the options that take no value. -/
def switch? (isRun : Bool) (name : String) : Option Setting :=
  match name with
  | "dry-run" => if isRun then some .dryRun else none
  | "show-excluded" => if isRun then some .showExcluded else none
  | _ => none

/-- The letters of the options that have one. All of them take a value. -/
def letter? (letter : Char) : Option Setting :=
  match letter with
  | 'p' => some .project
  | 'r' => some .region
  | _ => none

def logLevel? (name : String) : Option LogLevel :=
  match name with
  | "off" => some .off
  | "error" => some .error
  | "warn" => some .warn
  | "info" => some .info
  | "debug" => some .debug
  | "trace" => some .trace
  | _ => none

def format? (name : String) : Option ReportFormat :=
  match name with
  | "table" => some .table
  | "json" => some .json
  | _ => none

/-- A count of 64 bits, which may have a plus sign. -/
def count? (text : String) : Option Nat :=
  let digits :=
    match text.toList with
    | '+' :: rest => rest
    | cs => cs
  (digitsIn? 10 digits).filter (· < UInt64.size)

/-- Whether a text may be the value of a setting. -/
def accepts (setting : Setting) (value : String) : Bool :=
  match setting with
  | .concurrency => (count? value).isSome
  | .logLevel => (logLevel? value).isSome
  | .output => (format? value).isSome
  | .logFile | .file => !value.isEmpty
  | _ => true

end Setting

/-- What has been set so far. -/
abbrev Assignments := List (Setting × String)

namespace Assignments

/-- Sets something that has not been set yet. -/
def set (assigned : Assignments) (setting : Setting) (value : String)
    : Except ArgumentsReply Assignments :=
  if (assigned.lookup setting).isSome || !setting.accepts value then .error .usage
  else .ok ((setting, value) :: assigned)

end Assignments

/-- Where arguments are read: before the name of a command or behind it. -/
inductive Place where
  | top
  | behind (command : String)
  deriving DecidableEq, Repr

namespace Place

def isRun (place : Place) : Bool :=
  place == .behind "run"

/-- Whether an argument that is no option may stand here. -/
def takesFile (place : Place) : Bool :=
  place == .behind "run" || place == .behind "validate"

end Place

/-- The names of the commands. -/
def commandNames : List String := ["run", "validate", "resources", "config"]

/-- What reading arguments at a place leaves: what was set, and behind the name of a command
that name and the other arguments. -/
structure Reading where
  assigned : Assignments
  command : Option (String × List String)

namespace Arguments

/-- Reads letters of options written together. The rest of the letters is the value of an option
that takes one; with no rest the value is still to come. -/
def readLetters (place : Place) (assigned : Assignments)
    : List Char → Except ArgumentsReply (Assignments × Option Setting)
  | [] => .ok (assigned, none)
  | 'h' :: _ => .error .help
  | letter :: rest =>
      if letter = 'V' ∧ place = .top then .error .version
      else
        match Setting.letter? letter, rest with
        | none, _ => .error .usage
        | some setting, [] =>
            if (assigned.lookup setting).isSome then .error .usage else .ok (assigned, some setting)
        | some setting, '=' :: value =>
            (assigned.set setting (String.ofList value)).map (·, none)
        | some setting, value => (assigned.set setting (String.ofList value)).map (·, none)

/-- Reads an option by its name, which an equals sign parts from a value. -/
def readName (place : Place) (assigned : Assignments) (cs : List Char)
    : Except ArgumentsReply (Assignments × Option Setting) :=
  let name := String.ofList (cs.takeWhile (· ≠ '='))
  let value := (cs.dropWhile (· ≠ '=')).tail?.map String.ofList
  match Setting.valued? place.isRun name, Setting.switch? place.isRun name, value with
  | some setting, _, some value => (assigned.set setting value).map (·, none)
  | some setting, _, none =>
      if (assigned.lookup setting).isSome then .error .usage else .ok (assigned, some setting)
  | none, some setting, none => (assigned.set setting "").map (·, none)
  | none, some _, some _ => .error .usage
  | none, none, none =>
      if name = "help" then .error .help
      else if name = "version" ∧ place = .top then .error .version
      else .error .usage
  | none, none, some _ => .error .usage

/-- Sets the file of a command. -/
def readFile (place : Place) (assigned : Assignments) (argument : String)
    : Except ArgumentsReply Assignments :=
  if place.takesFile then assigned.set .file argument else .error .usage

/-- Reads arguments behind two hyphens, none of which is an option. -/
def readPlain (place : Place) (assigned : Assignments)
    : List String → Except ArgumentsReply Assignments
  | [] => .ok assigned
  | argument :: rest => do
      let assigned ← readFile place assigned argument
      readPlain place assigned rest

/-- The reply to a request for help on commands. -/
def helpReply (names : List String) : ArgumentsReply :=
  if names.all (fun name => name = "help" || commandNames.contains name) then .help else .usage

/-- Reads arguments. A setting that waits takes the next one as its value, unless it looks like
an option. -/
def read (place : Place) (assigned : Assignments)
    : Option Setting → List String → Except ArgumentsReply Reading
  | some _, [] => .error .usage
  | none, [] => .ok ⟨assigned, none⟩
  | waiting, argument :: rest =>
      match waiting, argument.toList with
      | some _, '-' :: _ :: _ => .error .usage
      | some setting, _ => do
          let assigned ← assigned.set setting argument
          read place assigned none rest
      | none, ['-', '-'] => do
          let assigned ← readPlain place assigned rest
          .ok ⟨assigned, none⟩
      | none, '-' :: '-' :: name => do
          let (assigned, waiting) ← readName place assigned name
          read place assigned waiting rest
      | none, '-' :: letter :: letters => do
          let (assigned, waiting) ← readLetters place assigned (letter :: letters)
          read place assigned waiting rest
      | none, _ =>
          if place = .top then
            if argument = "help" then .error (helpReply rest)
            else if commandNames.contains argument then .ok ⟨assigned, some (argument, rest)⟩
            else .error .usage
          else do
            let assigned ← readFile place assigned argument
            read place assigned none rest

end Arguments

namespace Assignments

def value? (assigned : Assignments) (setting : Setting) : Option String :=
  assigned.lookup setting

def options (assigned : Assignments) : CommonOptions :=
  {
    project := assigned.value? .project,
    region := assigned.value? .region,
    endpoint := assigned.value? .endpoint,
    concurrency := (assigned.value? .concurrency).bind Setting.count?,
    logLevel := ((assigned.value? .logLevel).bind Setting.logLevel?).getD .warn,
    logFile := assigned.value? .logFile
  }

/-- The command of a name. -/
def command (assigned : Assignments) (name : String) : Except ArgumentsReply Command :=
  match name, assigned.value? .file with
  | "run", some file =>
      let format := ((assigned.value? .output).bind Setting.format?).getD .table
      .ok
        (.run file (assigned.value? .policy) (assigned.value? .dryRun).isSome format
          (assigned.value? .showExcluded).isSome)
  | "validate", some file => .ok (.validate file)
  | "resources", _ => .ok .resources
  | "config", _ => .ok .config
  | _, _ => .error .usage

end Assignments

/-- The invocation that arguments stand for. -/
def Invocation.parse (arguments : List String) : Except ArgumentsReply Invocation := do
  let before ← Arguments.read .top [] none arguments
  match before.command with
  | none => .error .usage
  | some (name, rest) => do
      let behind ← Arguments.read (.behind name) [] none rest
      let assigned := behind.assigned ++ before.assigned
      let command ← assigned.command name
      .ok ⟨assigned.options, command⟩

end Remediation
