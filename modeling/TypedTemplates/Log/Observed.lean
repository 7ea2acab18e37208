import TypedTemplates.Engine
import TypedTemplates.Log.Event
import TypedTemplates.Store.JsonFile
import TypedTemplates.Text.Quoted

/-!
# What is logged

The events of parsing a template, of loading and saving a store, and of editing. They are told from what goes into a
step and what comes out of it.
-/

namespace TypedTemplates.Log

def number (n : Nat) : String :=
  String.ofList (Decimal.text n)

/-! ### Templates -/

/-- The events of parsing a template. -/
def parsing (template : String) : List Event :=
  match Template.declarations template with
  | .ok ds => [⟨.debug, "parsed template", [("placeholders", number ds.length),
      ("variables", number (Template.seeded (fun _ => none) ds).size)]⟩]
  | .error .mismatchedBrackets =>
    [⟨.debug, "bracket count mismatch", [("open", number (Template.countPairs '{' template.toList)),
      ("close", number (Template.countPairs '}' template.toList))]⟩]
  | .error _ => []

/-- The events of a template error. -/
def fault : Option TemplateError → List Event
  | none => []
  | some e =>
    let position := match e.position? with
      | some n => "Some(" ++ number n ++ ")"
      | none => "None"
    [⟨.warn, "template error: " ++ e.message, [("position", position)]⟩]

/-! ### Stores -/

/-- The events of loading a store. A file that is there and blank is passed over in silence. -/
def loading (disk : Disk) (store : JsonFileStore) : List Event :=
  match disk.read store.path with
  | .ok text =>
    if text.toList.all Text.isBlank then []
    else [⟨.debug, "loaded variable store", [("path", store.path.text), ("namespace", Text.quoted store.key),
      ("entries", number store.entries.length)]⟩]
  | .error _ => [⟨.debug, "variable store not found, starting empty", [("path", store.path.text)]⟩]

/-- A store that says what is logged when it has been saved. -/
class Observed (σ : Type) where
  saved : σ → List Event

instance : Observed StoreOnDisk where
  saved s := [⟨.debug, "saved variable store", [("path", s.store.path.text), ("entries", number s.store.entries.length)]⟩]

instance {σ : Type} : Observed (ReadOnly σ) where
  saved _ := []

/-! ### Editing -/

variable {σ : Type} [VariableStore σ] [Observed σ]

/-- The events of beginning to edit a template, from the result of that step. -/
def attaching (template : String) : Except StoreError Unit × Engine σ → List Event
  | (.ok (), e) => parsing template ++ fault e.error ++ if e.error.isNone then Observed.saved e.store else []
  | (.error _, _) => parsing template

/-- The events of giving a variable another value, from the result of that step. -/
def assigning (name : String) : Except StoreError Bool × Engine σ → List Event
  | (.ok true, e) => Observed.saved e.store
  | (.ok false, _) => [⟨.debug, "ignoring value for unknown variable", [("name", Text.quoted name)]⟩]
  | (.error _, _) => []

end TypedTemplates.Log
