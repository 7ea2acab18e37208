import TypedTemplates.Command.Help
import TypedTemplates.Command.Render
import TypedTemplates.Settings.Load

/-!
# A run of the program

`run` gives the outcome of the program for any arguments on any host. A subcommand first loads the settings and
makes the log file anew if one is configured; when it is done, its events are in that file.
-/

namespace TypedTemplates.Command

/-- What `doctor` writes about settings. -/
def doctorReport (env : Environment) (settings : Settings) : String :=
  let config := match settings.source? with
    | some path => path.text
    | none => "(defaults, " ++ env.settingsPath.text ++ " not found)"
  let file := match settings.logging.file? with
    | some path => "logging.file: " ++ path.text ++ "\n"
    | none => ""
  "OK   " ++ programName ++ " doctor\nversion: " ++ version ++ "\nconfig: " ++ config ++ "\nstore: " ++
    settings.storePath.text ++ "\nnamespace: " ++ settings.storeKey ++ "\nlogging.level: " ++
    settings.logging.level ++ "\n" ++ file

/-- Carries out a subcommand under settings. -/
def perform (host : Host) (settings : Settings) : Subcommand → Outcome
  | .doctor => ⟨0, doctorReport host.environment settings, [], [], host.disk⟩
  | .check file => check host.disk settings file
  | .vars file asJson => vars host.disk settings file asJson
  | .render file assignments batch asJson => render host.disk host.terminal settings file assignments batch asJson

/-- The settings under which an invocation runs. -/
def settingsFor (host : Host) (invocation : Invocation) : Except Failure Settings :=
  match Settings.load host.disk host.environment invocation.configPath? with
  | .ok settings => .ok { settings with storePath := invocation.storePath?.getD settings.storePath }
  | .error e =>
    .error (.settings e (if invocation.configPath?.isSome then none else some host.environment.settingsPath))

/-- What the log file lets through. -/
def fileThreshold (logging : Logging) : Log.Threshold :=
  .ofWord .debug (logging.fileLevel?.getD logging.level)

/-- What standard error lets through. -/
def errorThreshold (logging : Logging) : Log.Threshold :=
  .ofWord .warn logging.level

/-- Makes an empty log file, if one is configured. -/
def openLog (disk : Disk) (logging : Logging) : Except FileError Unit × Disk :=
  match logging.file? with
  | some path => disk.write path ""
  | none => (.ok (), disk)

/-- The disk with the events in the log file, if one is configured, as far as they can be written. If the file lets none
of them through, it is not written again. -/
def closeLog (disk : Disk) (logging : Logging) (events : List Log.Event) : Disk :=
  match logging.file?, Log.text (fileThreshold logging) events with
  | none, _ | _, "" => disk
  | some path, text => (disk.write path text).2

/-- What is said if the log file cannot be made. -/
def logNotice (logging : Logging) (cause : FileError) : String :=
  "Failed to create log file " ++ ((logging.file?.map Path.text).getD "") ++ ": " ++ cause.message

/-- The settings of an invocation and the disk with its log opened, or the outcome if that fails. -/
def start (host : Host) (invocation : Invocation) : Except Outcome (Settings × Disk) :=
  match settingsFor host invocation with
  | .error f => .error ⟨1, f.report none, [], [], host.disk⟩
  | .ok settings =>
    match openLog host.disk settings.logging with
    | (.error cause, disk) => .error ⟨1, "", [logNotice settings.logging cause], [], disk⟩
    | (.ok (), disk) => .ok (settings, disk)

/-- Carries out an invocation. -/
def invoke (host : Host) (invocation : Invocation) : Outcome :=
  match start host invocation with
  | .error outcome => outcome
  | .ok (settings, disk) =>
    let outcome := perform { host with disk := disk } settings invocation.command
    { outcome with disk := closeLog outcome.disk settings.logging outcome.events }

/-- The variables for which an invocation prompts if there is a terminal. -/
def questions (host : Host) (invocation : Invocation) : List Variable :=
  match invocation.command, start host invocation with
  | .render file assignments false asJson, .ok (settings, disk) =>
    match untilPrompts disk settings file assignments asJson with
    | .ok r => r.missing
    | .error _ => []
  | _, _ => []

/-- Runs the program. -/
def run (host : Host) (arguments : List String) : Outcome :=
  match Request.ofArguments arguments with
  | .error e => ⟨2, "", ["error: " ++ e.message], [], host.disk⟩
  | .ok (.help topic) => ⟨0, help topic, [], [], host.disk⟩
  | .ok .version => ⟨0, versionLine, [], [], host.disk⟩
  | .ok (.run invocation) => invoke host invocation

end TypedTemplates.Command
