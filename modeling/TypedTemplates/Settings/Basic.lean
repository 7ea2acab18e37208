import TypedTemplates.Decimal.Digits
import TypedTemplates.Disk.Tree
import TypedTemplates.Settings.Environment
import TypedTemplates.Store.Basic

/-!
# Settings

Where the values of variables are kept, and what is logged. `Settings.standard` is what holds without a settings
file.
-/

namespace TypedTemplates

structure Logging where
  level : String := "warn"
  /-- The level of the log file, if it is not that of the rest. -/
  fileLevel? : Option String := none
  file? : Option Path := none
  deriving DecidableEq, Repr

structure Settings where
  /-- The file from which the settings were read. -/
  source? : Option Path
  storePath : Path
  /-- The key under which the store file holds the values. -/
  storeKey : String
  logging : Logging
  deriving DecidableEq, Repr

def Settings.standard (env : Environment) : Settings :=
  ⟨none, env.storePath, defaultNamespace, {}⟩

/-- Why there are no settings. -/
inductive SettingsError where
  | missing (path : Path)
  | unreadable (path : Path) (cause : FileError)
  | malformed (path : Path)
  | unsupportedVersion (version : Nat)
  /-- A path refers to a variable that is not set. -/
  | noExpansion
  deriving DecidableEq, Repr

namespace SettingsError

/-- What went wrong. -/
def summary : SettingsError → String
  | .missing path => "config file not found at " ++ path.text
  | .unreadable path _ => "failed to read config file " ++ path.text
  | .malformed path => "failed to parse TOML in " ++ path.text
  | .unsupportedVersion version => "version " ++ String.ofList (Decimal.text version) ++ " is unsupported (expected 1)"
  | .noExpansion => "home directory not available to expand '~'"

/-- Why it went wrong, where that is told. What is wrong with a text that is no document of settings, and where in it, is
not told here, although the reader of documents would. -/
def cause? : SettingsError → Option String
  | .unreadable _ cause => some cause.message
  | .malformed _ => some "not a TOML document of settings"
  | _ => none

def message (e : SettingsError) : String :=
  match e.cause? with
  | some cause => e.summary ++ ": " ++ cause
  | none => e.summary

end SettingsError

end TypedTemplates
