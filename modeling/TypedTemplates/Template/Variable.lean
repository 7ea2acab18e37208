import TypedTemplates.Template.VarType

/-!
# Variables and sets of variables

A `VariableSet` lists variables in the order in which their names were first put in, and no name occurs twice:
that is part of the type. `insert?` refuses a name that is taken and `setValue?` one that is absent.
-/

namespace TypedTemplates

structure Variable where
  name : String
  type : VarType
  value : String
  deriving DecidableEq, Repr

/-- Variables with distinct names, in order of first insertion. -/
structure VariableSet where
  toList : List Variable
  nodup_names : (toList.map (·.name)).Nodup

namespace VariableSet

def empty : VariableSet := ⟨[], List.nodup_nil⟩

instance : Inhabited VariableSet := ⟨empty⟩

def names (s : VariableSet) : List String :=
  s.toList.map (·.name)

def size (s : VariableSet) : Nat :=
  s.toList.length

def isEmpty (s : VariableSet) : Bool :=
  s.toList.isEmpty

def contains (s : VariableSet) (name : String) : Bool :=
  s.names.contains name

/-- The variable of that name. -/
def get? (s : VariableSet) (name : String) : Option Variable :=
  s.toList.find? fun v => v.name == name

/-- The value of the variable of that name. -/
def value? (s : VariableSet) (name : String) : Option String :=
  (s.get? name).map (·.value)

theorem contains_iff {s : VariableSet} {name : String} : s.contains name = true ↔ name ∈ s.names := by
  simp [contains]

private theorem nodup_append_new {l : List Variable} {v : Variable} (h : (l.map (·.name)).Nodup)
    (hv : v.name ∉ l.map (·.name)) : ((l ++ [v]).map (·.name)).Nodup := by
  rw [List.map_append, List.nodup_append]
  refine ⟨h, by simp, ?_⟩
  intro a ha b hb
  simp only [List.map_cons, List.map_nil, List.mem_singleton] at hb
  rintro rfl
  exact hv (hb ▸ ha)

/-- The set with the variable added at the end, or nothing if its name is taken. -/
def insert? (s : VariableSet) (v : Variable) : Option VariableSet :=
  if h : v.name ∈ s.names then none
  else some ⟨s.toList ++ [v], nodup_append_new s.nodup_names h⟩

/-- The set with the variable added at the end, or unchanged if its name is taken. -/
def insert (s : VariableSet) (v : Variable) : VariableSet :=
  (s.insert? v).getD s

/-- The variables in order, without those whose name came before. -/
def ofList (vs : List Variable) : VariableSet :=
  vs.foldl insert empty

private theorem map_name_setValue (l : List Variable) (name value : String) :
    (l.map fun v => if v.name = name then { v with value := value } else v).map (·.name) = l.map (·.name) := by
  rw [List.map_map]
  apply List.map_congr_left
  intro v _
  simp only [Function.comp_apply]
  split <;> rfl

/-- The set in which the variable of that name has that value. -/
def mapValue (s : VariableSet) (name value : String) : VariableSet where
  toList := s.toList.map fun v => if v.name = name then { v with value := value } else v
  nodup_names := by rw [map_name_setValue]; exact s.nodup_names

/-- The set in which the variable of that name has that value, or nothing if there is none. -/
def setValue? (s : VariableSet) (name value : String) : Option VariableSet :=
  if s.contains name then some (s.mapValue name value) else none

@[simp] theorem names_mapValue (s : VariableSet) (name value : String) :
    (s.mapValue name value).names = s.names :=
  map_name_setValue s.toList name value

@[simp] theorem names_empty : empty.names = [] := rfl

end VariableSet

end TypedTemplates
