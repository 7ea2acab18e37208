import TypedTemplates.Json.Document
import TypedTemplates.Store.Memory
import TypedTemplates.Template.Record
import TypedTemplates.Text.Blank

/-!
# Stores in JSON files

A `JsonFileStore` keeps its entries under one key of a JSON object in a file. What stands under the other keys when
the file is loaded is written back with every save. A file that is missing or blank holds nothing.
-/

namespace TypedTemplates

open Json (Value)

/-- A store as it was loaded from its file or last saved to it. -/
structure JsonFileStore where
  path : Path
  /-- The key of the object under which the entries stand. -/
  key : String
  entries : Keyed Variable
  /-- What stands under the other keys. -/
  others : Keyed Value

namespace JsonFileStore

/-- The variables of records, under the keys of the records. -/
def entriesOfMembers? : List (String × Value) → Option (Keyed Variable)
  | [] => some []
  | (key, value) :: rest =>
    match Variable.ofJson? value, entriesOfMembers? rest with
    | some v, some vs => some ((key, v) :: vs)
    | _, _ => none

/-- The entries in the object under the key of the store. -/
def entriesOf? : Option Value → Option (Keyed Variable)
  | none => some []
  | some (.object members) => entriesOfMembers? members
  | some _ => none

/-- The store in a text that is not blank. -/
def ofText? (path : Path) (key text : String) : Option JsonFileStore :=
  match Value.ofText? text with
  | some (.object root) =>
    (entriesOf? (Keyed.find? key root)).map fun entries => ⟨path, key, entries, Keyed.erase key root⟩
  | _ => none

/-- Loads the store from the file at the path. -/
def load (disk : Disk) (path : Path) (key : String) : Except StoreError JsonFileStore :=
  if disk.contains path then
    match disk.read path with
    | .error cause => .error (.access path cause)
    | .ok text =>
      if text.toList.all Text.isBlank then .ok ⟨path, key, [], []⟩
      else
        match ofText? path key text with
        | some store => .ok store
        | none => .error (.parse path)
  else .ok ⟨path, key, [], []⟩

/-- The object that a save writes: the other keys as they were loaded, and the variables under the key. -/
def root (s : JsonFileStore) (vs : VariableSet) : Value :=
  .object (Keyed.insert s.key vs.toJson.sorted s.others)

/-- Makes the directory of a file, unless the path names a file in the working directory. -/
def makeParent (disk : Disk) (path : Path) : Except StoreError Unit × Disk :=
  match path.parent? with
  | none => (.ok (), disk)
  | some parent =>
    if parent.text = "" then (.ok (), disk)
    else
      match disk.makeDirectories parent with
      | (.ok (), disk) => (.ok (), disk)
      | (.error cause, disk) => (.error (.access parent cause), disk)

/-- Writes the variables to the file. Only if that succeeds are they the entries of the store. -/
def save (s : JsonFileStore) (disk : Disk) (vs : VariableSet) : Except StoreError Unit × JsonFileStore × Disk :=
  match makeParent disk s.path with
  | (.error e, disk) => (.error e, s, disk)
  | (.ok (), disk) =>
    match disk.write s.path ((s.root vs).text .indented) with
    | (.error cause, disk) => (.error (.access s.path cause), s, disk)
    | (.ok (), disk) => (.ok (), { s with entries := vs.entries }, disk)

end JsonFileStore

/-- A store in a file together with the disk that holds the file. -/
structure StoreOnDisk where
  store : JsonFileStore
  disk : Disk

instance : VariableStore StoreOnDisk where
  get? s name := (s.store.entries.find? name).map (·.value)
  save s vs :=
    let (result, store, disk) := s.store.save s.disk vs
    (result, ⟨store, disk⟩)

instance : LawfulVariableStore StoreOnDisk where
  get?_save_of_ok s vs h := by
    funext name
    simp only [VariableStore.save, JsonFileStore.save] at h ⊢
    split at h
    · cases h
    · split at h
      · cases h
      · simp [VariableStore.get?, vs.find?_entries, VariableSet.value?, *]
  get?_save_of_error s vs e h := by
    funext name
    simp only [VariableStore.save, JsonFileStore.save] at h ⊢
    split at h
    · simp [VariableStore.get?, *]
    · split at h
      · simp [VariableStore.get?, *]
      · cases h

end TypedTemplates
