import TypedTemplates.Settings.Basic
import TypedTemplates.Settings.Document
import TypedTemplates.Settings.Expansion

/-!
# Loading settings

Settings come from the file that was named, which must be there; or from the file at its usual place; or, if that is
not there, they are the standard ones. What the file leaves out is standard, too.
-/

namespace TypedTemplates

namespace Settings

/-- The path that a text in a settings file stands for. -/
def expand (env : Environment) (text : String) : Except SettingsError Path :=
  match env.expand? text with
  | some path => .ok path
  | none => .error .noExpansion

/-- The settings of a document. -/
def ofDocument (env : Environment) (source : Path) (document : SettingsDocument) : Except SettingsError Settings := do
  let storePath ← match document.store.path? with
    | some text => expand env text
    | none => pure env.storePath
  let file? ← match document.logging.file? with
    | some text => (expand env text).map some
    | none => pure none
  return {
    source? := source
    storePath := storePath
    storeKey := document.store.storeKey?.getD defaultNamespace
    logging := ⟨document.logging.level, document.logging.fileLevel?, file?⟩ }

/-- The settings in a file. -/
def ofFile (disk : Disk) (env : Environment) (path : Path) : Except SettingsError Settings :=
  if disk.contains path then
    match disk.read path with
    | .error cause => .error (.unreadable path cause)
    | .ok text =>
      match SettingsDocument.ofText? text with
      | none => .error (.malformed path)
      | some document =>
        if document.version = 1 then ofDocument env path document
        else .error (.unsupportedVersion document.version)
  else .error (.missing path)

/-- The settings that hold for a command, which may have been given the path of their file. -/
def load (disk : Disk) (env : Environment) (path? : Option Path) : Except SettingsError Settings :=
  match path? with
  | some path => ofFile disk env path
  | none => if disk.contains env.settingsPath then ofFile disk env env.settingsPath else .ok (standard env)

end Settings

end TypedTemplates
