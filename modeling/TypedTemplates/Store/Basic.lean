import TypedTemplates.Disk.Tree
import TypedTemplates.Template.Variable

/-!
# Variable stores

A variable store keeps the values of variables between sessions. `get?` answers the value last kept under a name and
`save` replaces the whole mapping by that of a set of variables; it may fail. A store is lawful if a save that
succeeds makes `get?` answer exactly the saved set, and one that fails changes no answer.
-/

namespace TypedTemplates

inductive StoreError where
  /-- A file or directory cannot be read or written. -/
  | access (path : Path) (cause : FileError)
  /-- The text of the file is not that of a store. -/
  | parse (path : Path)
  deriving DecidableEq, Repr

namespace StoreError

/-- What went wrong and where. -/
def summary : StoreError → String
  | .access path _ => "failed to access variable store " ++ path.text
  | .parse path => "failed to parse variable store " ++ path.text

/-- Why it went wrong. -/
def cause : StoreError → String
  | .access _ cause => cause.message
  | .parse _ => "not a JSON object of variable records"

def message (e : StoreError) : String :=
  e.summary ++ ": " ++ e.cause

end StoreError

class VariableStore (σ : Type) where
  /-- The value kept under a name. -/
  get? : σ → String → Option String
  /-- Replaces all that is kept, and gives the store after it; it may fail. -/
  save : σ → VariableSet → Except StoreError Unit × σ

open VariableStore in
class LawfulVariableStore (σ : Type) [VariableStore σ] : Prop where
  get?_save_of_ok (s : σ) (vs : VariableSet) (h : (save s vs).1 = .ok ()) :
    get? (save s vs).2 = vs.value?
  get?_save_of_error (s : σ) (vs : VariableSet) (e : StoreError) (h : (save s vs).1 = .error e) :
    get? (save s vs).2 = get? s

/-- The name under which values are kept if no other is configured. -/
def defaultNamespace : String := "easy-templates-variables"

end TypedTemplates
