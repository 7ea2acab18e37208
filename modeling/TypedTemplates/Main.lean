import TypedTemplates.Command.Run

/-!
# The program

The command line works on a copy of the files that it may need, asks its questions, and then brings about what the
run has found: the changed files, the output, and the lines on standard error.
-/

namespace TypedTemplates.Program

/-- The text of the path to a place. -/
def pathTo (place : Place) : String :=
  "/" ++ "/".intercalate place

/-- What stands at a place. -/
def lookAt (place : Place) : IO (Option Node) := do
  let path := pathTo place
  try
    return some (.file (Content.ofBytes (← IO.FS.readBinFile path)))
  catch _ =>
    try
      let _ ← IO.FS.realPath path
      return some .directory
    catch _ => return none

/-- Adds to the disk what stands on the way along the names. -/
def explore (disk : Disk) (place : Place) : List String → IO Disk
  | [] => return disk
  | name :: names => do
    let next := FileTree.step place name
    match ← lookAt next with
    | some node => explore { disk with tree := if next = [] then disk.tree else disk.tree.set next node } next names
    | none => return disk

def reach (disk : Disk) (path : Path) : IO Disk :=
  explore disk (disk.start path) path.names

/-- Adds the values of variables to an environment. -/
def askFor (env : Environment) : List String → IO Environment
  | [] => return env
  | name :: names => do
    match ← IO.getEnv name with
    | some value => askFor { env with values := env.values.insert name value } names
    | none => askFor env names

/-- The home directory in a line of the list of users, if it is the line of the user with that number. -/
def homeIn? (user line : String) : Option String :=
  match line.splitOn ":" with
  | [_, _, number, _, _, home, _] => if number = user then some home else none
  | _ => none

/-- What the system knows about the user of this process. -/
def account : IO Account := do
  try
    let status ← IO.FS.lines "/proc/self/status"
    let users ← IO.FS.lines "/etc/passwd"
    let user := (status.toList.filterMap fun line =>
      match line.splitOn "\t" with
      | "Uid:" :: number :: _ => some number
      | _ => none).head?
    return ⟨user.bind fun user => users.toList.findSome? (homeIn? user)⟩
  catch _ => return ⟨none⟩

/-- The names of the variables in the paths of a settings file. -/
def namesIn (disk : Disk) (path : Path) : List String :=
  match (disk.read path).toOption.bind SettingsDocument.ofText? with
  | some document =>
    (document.store.path?.toList ++ document.logging.file?.toList).flatMap fun text => Expansion.names text.toList
  | none => []

/-- The file that a subcommand works on. -/
def fileOf : Subcommand → List Path
  | .doctor => []
  | .check file | .vars file _ | .render file _ _ _ => [file]

/-- The parts of the host that an invocation can reach, without a terminal. -/
def hostFor (invocation : Invocation) : IO Host := do
  let current ← IO.currentDir
  let env ← askFor { values := [], account := ← account } ["HOME", "XDG_CONFIG_HOME", "XDG_DATA_HOME"]
  let disk ← explore ⟨⟨[]⟩, (Path.mk current.toString).names⟩ [] (Path.mk current.toString).names
  let settingsPath := invocation.configPath?.getD env.settingsPath
  let disk ← reach disk settingsPath
  let env ← askFor env (namesIn disk settingsPath)
  match Command.settingsFor ⟨disk, env, .absent⟩ invocation with
  | .error _ => return ⟨disk, env, .absent⟩
  | .ok settings =>
    let paths := settings.storePath :: settings.logging.file?.toList ++ fileOf invocation.command
    return ⟨← paths.foldlM reach disk, env, .absent⟩

/-- Asks for the values of the variables until input comes to its end. -/
def ask (input : IO.FS.Stream) : List Variable → IO (List String)
  | [] => return []
  | v :: vs => do
    IO.eprint (v.name ++ " (" ++ v.type.token ++ "): ")
    let line := (← input.getLine).toList
    if line.contains '\n' then return String.ofList (line.takeWhile (· ≠ '\n')) :: (← ask input vs)
    else return []

/-- The terminal of a run, with the answers to its questions. -/
def terminalFor (questions : List Variable) : IO Terminal := do
  let input ← IO.getStdin
  if ← input.isTty then
    if ← (← IO.getStderr).isTty then
      let answers ← ask input questions
      return if answers.length < questions.length then .closing answers else .answering answers
    else return .mute
  else return .absent

/-- Makes what stands on one disk and not yet on the other. -/
def bringAbout (before after : Disk) : IO Unit :=
  after.tree.nodes.reverse.forM fun (place, node) => do
    if before.tree.node? place ≠ some node then
      match node with
      | .directory => IO.FS.createDirAll (pathTo place)
      | .file (.text s) => IO.FS.writeFile (pathTo place) s
      | .file (.bytes bs) => IO.FS.writeBinFile (pathTo place) ⟨bs.toArray⟩

/-- Writes what a run writes and gives its exit code. -/
def conclude (outcome : Outcome) : IO UInt32 := do
  outcome.notices.forM IO.eprintln
  IO.print outcome.output
  return outcome.exitCode.toUInt32

end TypedTemplates.Program

open TypedTemplates in
def main (arguments : List String) : IO UInt32 := do
  match Request.ofArguments arguments with
  | .ok (.run invocation) =>
    let host ← Program.hostFor invocation
    let host := { host with terminal := ← Program.terminalFor (Command.questions host invocation) }
    let outcome := Command.invoke host invocation
    Program.bringAbout host.disk outcome.disk
    if let .ok settings := Command.settingsFor host invocation then
      IO.eprint (Log.text (Command.errorThreshold settings.logging) outcome.events)
    Program.conclude outcome
  | _ => Program.conclude (Command.run ⟨⟨⟨[]⟩, []⟩, ⟨[]⟩, .absent⟩ arguments)
