import Remediation.Table
import Remediation.Text.Blank

/-!
Settings: what a user has chosen once for all runs. A setting given with a command counts more
than one that was saved, and one that was saved counts more than the environment.
-/

namespace Remediation

/-- The variables of the environment that are looked at. -/
structure Environment where
  token : Option String := none
  project : Option String := none
  region : Option String := none
  deriving DecidableEq, Repr

/-- The saved settings. -/
structure Settings where
  projectId : Option String := none
  region : Option String := none
  /-- The endpoint of each service that has one of its own. -/
  endpoints : Table String := []
  concurrency : Option Nat := none
  maxDepth : Option Nat := none
  deriving DecidableEq, Repr

namespace Settings

/-- The region of a user who has not chosen any. -/
def fallbackRegion : String := "cn-north-4"

/-- The project that counts, where the first argument was given with a command. -/
def effectiveProject (given : Option String) (settings : Settings) (environment : Environment)
    : Option String :=
  given.or (settings.projectId.or (environment.project.filter (!·.isEmpty)))

/-- The region that counts, where the first argument was given with a command. -/
def effectiveRegion (given : Option String) (settings : Settings) (environment : Environment)
    : String :=
  (given.or (settings.region.or (environment.region.filter (!·.isEmpty)))).getD fallbackRegion

/-- The settings with those replaced that are given. -/
def withDefaults (settings : Settings) (project region : Option String) : Settings :=
  {
    settings with
    projectId := project.or settings.projectId,
    region := region.or settings.region
  }

end Settings

/-- What proves to a service who asks. It is issued elsewhere and only passed on. -/
structure Credentials where
  /-- Empty for services that need no proof. -/
  token : String
  deriving DecidableEq, Repr

namespace Credentials

/-- The credentials of the environment: its token without the white space around it, unless
nothing is left. -/
def ofEnvironment? (environment : Environment) : Option Credentials :=
  ((environment.token.map trimmed).filter (!·.isEmpty)).map Credentials.mk

/-- What is told a user whose environment has no credentials. -/
def missingMessage : String :=
  "No auth token set. Export HUAWEI_AUTH_TOKEN with a valid IAM token"

/-- The text that may be shown of credentials. It says only whether there is a token. -/
def redacted (credentials : Credentials) : String :=
  let shown := if credentials.token.isEmpty then "<none>" else "<redacted>"
  "Credentials \x7b token: \"" ++ shown ++ "\" \x7d"

end Credentials

end Remediation
