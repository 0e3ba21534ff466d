import Remediation.Run.Table

/-!
The commands of the program and the options that every command takes.
-/

namespace Remediation

/-- How much is logged. -/
inductive LogLevel where
  | off
  | error
  | warn
  | info
  | debug
  | trace
  deriving DecidableEq, Repr

/-- What a user asks for. -/
inductive Command where
  /-- Runs the policies of a document, or the one of a name. -/
  | run (file : String) (policy : Option String) (dryRun : Bool) (format : ReportFormat)
      (showExcluded : Bool)
  /-- Checks a document without calling any service. -/
  | validate (file : String)
  /-- Lists the resource types that policies can be about. -/
  | resources
  /-- Saves the given project and region as defaults. -/
  | config
  deriving DecidableEq, Repr

/-- The options that every command takes. -/
structure CommonOptions where
  project : Option String := none
  region : Option String := none
  endpoint : Option String := none
  concurrency : Option Nat := none
  logLevel : LogLevel := .warn
  logFile : Option String := none
  deriving DecidableEq, Repr

/-- A command with its options. -/
structure Invocation where
  options : CommonOptions
  command : Command
  deriving DecidableEq, Repr

end Remediation
