import Remediation.Command.Arguments
import Remediation.Command.Completion

/-!
The program: it looks around, carries out the command of its arguments and writes down what the
command leaves behind. It is attached to no network, so no request reaches a server, no run has a
report, and its clock may stand still.
-/

namespace Remediation.Program

/-- What arguments may look like. -/
def usage : String :=
  "Usage: cloudmend [OPTIONS] <COMMAND>\n\n"
    ++ "Commands:\n"
    ++ "  run <FILE>       Run the policies of a document\n"
    ++ "  validate <FILE>  Check a document without calling any service\n"
    ++ "  resources        List the resource types policies can target\n"
    ++ "  config           Save --project and --region as defaults\n\n"
    ++ "Options:\n"
    ++ "  -p, --project <PROJECT>          Project to use\n"
    ++ "  -r, --region <REGION>            Region to use\n"
    ++ "      --endpoint <ENDPOINT>        Send every service's calls to this endpoint\n"
    ++ "      --concurrency <CONCURRENCY>  Maximum concurrent action calls\n"
    ++ "      --log-level <LOG_LEVEL>      off, error, warn, info, debug or trace\n"
    ++ "      --log-file <LOG_FILE>        Write logs to this file instead of stderr\n\n"
    ++ "Options of run:\n"
    ++ "      --policy <POLICY>            Only run the named policy\n"
    ++ "      --dry-run                    Evaluate filters but skip every action\n"
    ++ "      --output <OUTPUT>            table or json\n"
    ++ "      --show-excluded              Also list the resources the filters excluded\n"

/-- What the system says of a fault. -/
def faultText : IO.Error → String
  | .noFileOrDirectory .. => "No such file or directory (os error 2)"
  | .permissionDenied .. => "Permission denied (os error 13)"
  | .inappropriateType .. => "Is a directory (os error 21)"
  | .userError _ => "stream did not contain valid UTF-8"
  | error => toString error

/-- Does something, or tells what is in the way. -/
def attempt (action : IO α) : IO (Except String α) := do
  try
    pure (.ok (← action))
  catch error =>
    pure (.error (faultText error))

/-- The directory that a file is in, if its path has one. -/
def directory? (path : String) : Option String :=
  let name := (path.toList.reverse.takeWhile (· ≠ '/')).length
  if name < path.length then some (String.ofList (path.toList.take (path.length - name - 1)))
  else none

/-- Where the file of the settings is. -/
def settingsPath? : IO (Option String) := do
  let configured ← IO.getEnv "XDG_CONFIG_HOME"
  let home ← IO.getEnv "HOME"
  let directory :=
    (configured.filter (·.startsWith "/")).or ((home.filter (!·.isEmpty)).map (· ++ "/.config"))
  pure (directory.map (· ++ "/cloudmend/config.json"))

/-- The path of the document that a command is about. -/
def documentPath? : Command → Option String
  | .run file _ _ _ _ => some file
  | .validate file => some file
  | _ => none

/-- Opens a file for more text at its end. -/
def openLog (path : String) : IO (Option String) := do
  if let some directory := directory? path then
    let _ ← attempt (IO.FS.createDirAll directory)
  match ← attempt (IO.FS.withFile path .append (fun _ => pure ())) with
  | .ok _ => pure none
  | .error cause => pure (some cause)

/-- What a command finds. -/
def surroundings (invocation : Invocation) : IO Surroundings := do
  let path? ← settingsPath?
  let settingsFile ←
    match path? with
    | some path => Except.toOption <$> attempt (IO.FS.readFile path)
    | none => pure none
  let document ←
    match documentPath? invocation.command with
    | some path => attempt (IO.FS.readFile path)
    | none => pure (.ok "")
  let logFault ←
    match invocation.options.logFile with
    | some path => openLog path
    | none => pure none
  let environment : Environment :=
    {
      token := ← IO.getEnv "HUAWEI_AUTH_TOKEN",
      project := ← IO.getEnv "HUAWEI_PROJECT_ID",
      region := ← IO.getEnv "HUAWEI_DEFAULT_REGION"
    }
  pure
    {
      environment := environment,
      settingsPath := path?,
      settingsFile := settingsFile,
      fileText := fun _ => document,
      logFault := fun _ => logFault
    }

/-- A machine without a network, whose clock stands still. -/
def machine : Machine Unit :=
  {
    transport := Http.Transport.unreachable,
    now := pure ⟨0, 0⟩,
    freshId := pure ⟨0⟩
  }

/-- Writes the file of the settings if its text has changed. -/
def saveSettings (before : Surroundings) (after : Completion) : IO Unit := do
  match before.settingsPath, after.settingsFile with
  | some path, some text =>
      if before.settingsFile ≠ some text then
        if let some directory := directory? path then
          IO.FS.createDirAll directory
        IO.FS.writeFile path text
  | _, _ => pure ()

/-- Carries out an invocation and answers the status to end with. -/
def run (invocation : Invocation) : IO UInt32 := do
  let found ← surroundings invocation
  let (completion, _) := (invocation.perform found machine).run ⟨(), [], false⟩
  saveSettings found completion
  (← IO.getStdout).putStr completion.output
  (← IO.getStderr).putStr completion.errors
  pure completion.status.toUInt32

/-- Carries out arguments and answers the status to end with. -/
def start (arguments : List String) : IO UInt32 := do
  match Invocation.parse arguments with
  | .ok invocation => run invocation
  | .error .help => do
      IO.print usage
      pure 0
  | .error .version => do
      IO.println "cloudmend 0.1.0"
      pure 0
  | .error .usage => do
      (← IO.getStderr).putStr usage
      pure 2

end Remediation.Program

/-- Carries out arguments, or answers them with what arguments may look like. -/
def main (arguments : List String) : IO UInt32 :=
  Remediation.Program.start arguments
