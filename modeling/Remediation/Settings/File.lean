import Remediation.Document.Shape
import Remediation.Json.Printer
import Remediation.Json.Reader
import Remediation.Settings.Basic

/-!
The file of the settings, a JSON text. A file that cannot be read counts as one without settings,
and saving writes every setting, also those that are not set.
-/

namespace Remediation

open Document

/-- The text is not a file of settings. -/
inductive SettingsError where
  | unreadable
  deriving DecidableEq, Repr

def SettingsError.message : SettingsError → String
  | .unreadable => "Failed to parse config"

namespace Settings

/-- The settings in a file, each of which may be left out. -/
def fieldSpecs : List FieldSpec :=
  ["project_id", "region", "endpoints", "concurrency", "max_depth"].map (fun name =>
    { name := name, hasDefault := true })

/-- Takes one setting from a file. -/
def take (settings : Settings) (field : String) (node : Node) : Shaped Empty Settings :=
  match field with
  | "project_id" => do
      let project ← optional (text .jsonText) node
      .ok { settings with projectId := project }
  | "region" => do
      let region ← optional (text .jsonText) node
      .ok { settings with region := region }
  | "endpoints" => do
      let endpoints ← table .jsonText (text .jsonText) node
      .ok { settings with endpoints := endpoints }
  | "concurrency" => do
      let concurrency ← optional (count .jsonText) node
      .ok { settings with concurrency := concurrency }
  | _ => do
      let maxDepth ← optional (count .jsonText) node
      .ok { settings with maxDepth := maxDepth }

/-- Reads the text of a file. -/
def parse (source : String) : Except SettingsError Settings :=
  match Json.readMembers source with
  | none => .error .unreadable
  | some json =>
      match record .jsonText "Config" fieldSpecs take {} (.json json) with
      | .ok settings => .ok settings
      | .error _ => .error .unreadable

/-- Settings as a JSON value, in the order in which they are written. -/
def toJson (settings : Settings) : Json :=
  .object
    [
      ("project_id", .ofOption .string settings.projectId),
      ("region", .ofOption .string settings.region),
      ("endpoints", .object (settings.endpoints.map (fun (service, url) => (service, .string url)))),
      ("concurrency", .ofOption .ofNat settings.concurrency),
      ("max_depth", .ofOption .ofNat settings.maxDepth)
    ]

/-- The text that saving writes. -/
def render (settings : Settings) : String :=
  settings.toJson.pretty

/-- The settings of the file, if there is one. -/
def load (file : Option String) : Settings :=
  match file.map parse with
  | some (.ok settings) => settings
  | _ => {}

/-- Whether there is a file whose text is none of settings. -/
def isIgnored (file : Option String) : Bool :=
  match file.map parse with
  | some (.error _) => true
  | _ => false

/-- The warning about a file at a path that is ignored. -/
def ignoredMessage (shownPath : String) : String :=
  s!"Ignoring unreadable config {shownPath}: {SettingsError.unreadable.message}"

/-- Saves given defaults besides the settings of the file. Answers the settings and the text of
the file afterwards; without anything given the file stays as it is. -/
def saveDefaults (project region : Option String) (file : Option String)
    : Settings × Option String :=
  let settings := (load file).withDefaults project region
  (settings, if project.isSome || region.isSome then some settings.render else file)

end Settings

end Remediation
