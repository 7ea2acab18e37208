import TypedTemplates.Disk.Path
import TypedTemplates.Keyed

/-!
# Environment variables

The environment of a command, and the places at which it looks for its files if it is not told otherwise.
-/

namespace TypedTemplates

/-- What the system knows about the user. -/
class Account where
  /-- The home directory. It may be empty. -/
  home? : Option String
  deriving DecidableEq, Repr

/-- Nothing is known about the user unless it is given. -/
instance : Account := ⟨none⟩

structure Environment where
  values : Keyed String
  [account : Account]

namespace Environment

/-- The value of a variable, if it is set. It may be empty. -/
def get? (env : Environment) (name : String) : Option String :=
  env.values.find? name

/-- The home directory: that of the environment or, if there is none, that of the user. -/
def home? (env : Environment) : Option String :=
  ((env.get? "HOME").filter (· ≠ "")).or (env.account.home?.filter (· ≠ ""))

/-- The settings file that is read if no other is named. -/
def settingsPath (env : Environment) : Path :=
  let base := match env.get? "XDG_CONFIG_HOME" with
    | some directory => Path.mk directory
    | none => (Path.mk (env.home?.getD "~")).join ".config"
  (base.join "easy-templates").join "config.toml"

/-- The store file that is used if no other is configured. -/
def storePath (env : Environment) : Path :=
  let base := match env.get? "XDG_DATA_HOME", env.home? with
    | some directory, _ => Path.mk directory
    | none, some home => (Path.mk home).join ".local/share"
    | none, none => ⟨"."⟩
  (base.join "easy-templates").join "variables.json"

end Environment

end TypedTemplates
