import TypedTemplates.Command.Failure
import TypedTemplates.Log.Observed
import TypedTemplates.Text.Table

/-!
# Looking at a template

The subcommands `check` and `vars` read a template against the configured store without writing to it.
-/

namespace TypedTemplates.Command

open Json (Value)

/-- The text of the template in a file, and the configured store. -/
def prepare (disk : Disk) (settings : Settings) (file : Path) : Except Failure (String × JsonFileStore) :=
  match disk.read file with
  | .error cause => .error (.unreadable file cause)
  | .ok template =>
    match JsonFileStore.load disk settings.storePath settings.storeKey with
    | .error e => .error (.store e)
    | .ok store => .ok (template, store)

/-- The variables of the template in a file, with the values that the store holds. -/
def inspect (disk : Disk) (settings : Settings) (file : Path) : Except Failure VariableSet × List Log.Event :=
  match prepare disk settings file with
  | .error f => (.error f, [])
  | .ok (template, store) =>
    let attached := Engine.attach (ReadOnly.mk (StoreOnDisk.mk store disk)) template
    let events := Log.loading disk store ++ Log.attaching template attached
    match attached with
    | (.error e, _) => (.error (.store e), events)
    | (.ok (), engine) =>
      match engine.error with
      | some e => (.error (.malformed file e), events)
      | none => (.ok engine.vars, events)

/-- What `check` writes about a template with so many variables. -/
def checkReport (file : Path) (count : Nat) : String :=
  "OK   " ++ programName ++ " check\n" ++ file.text ++ ": " ++ Log.number count ++ " variable" ++
    (if count = 1 then "" else "s") ++ "\n"

def check (disk : Disk) (settings : Settings) (file : Path) : Outcome :=
  match inspect disk settings file with
  | (.error f, events) => .failed .check f [] events disk
  | (.ok vars, events) => ⟨0, checkReport file vars.size, [], events, disk⟩

/-- The variables as a table, or a line that says that there are none. -/
def variableTable (vars : VariableSet) : String :=
  if vars.isEmpty then "(no variables)\n"
  else
    Text.table ["Name", "Type", "Value"] (vars.toList.map fun v => [v.name, v.type.token, v.value]) ++ "\n"

def vars (disk : Disk) (settings : Settings) (file : Path) (asJson : Bool) : Outcome :=
  match inspect disk settings file with
  | (.error f, events) => .failed .vars f [] events disk
  | (.ok vars, events) =>
    let output := if asJson then vars.toJson.text .indented ++ "\n" else variableTable vars
    ⟨0, output, [], events, disk⟩

end TypedTemplates.Command
