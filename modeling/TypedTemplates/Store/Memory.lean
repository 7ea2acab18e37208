import TypedTemplates.Keyed
import TypedTemplates.Store.Basic

/-!
# Stores in memory

A store that keeps its entries in memory and never fails, and two stores around another one: `ReadOnly` answers from
it and keeps nothing, `Faulty` refuses the saves with given numbers.
-/

namespace TypedTemplates

/-- The entries that a save of the set leaves in a store. -/
def VariableSet.entries (vs : VariableSet) : Keyed Variable :=
  Keyed.ofList (vs.toList.map fun v => (v.name, v))

private theorem find?_map_name (name : String) (vs : List Variable) :
    Keyed.find? name (vs.map fun v => (v.name, v)) = vs.find? fun v => v.name == name := by
  induction vs with
  | nil => rfl
  | cons v rest ih => by_cases h : v.name = name <;> simp [Keyed.find?, h, ih]

theorem VariableSet.find?_entries (vs : VariableSet) (name : String) :
    vs.entries.find? name = vs.get? name := by
  have h : ((vs.toList.map fun v => (v.name, v)).map (·.1)).Nodup := by
    rw [List.map_map]
    exact vs.nodup_names
  rw [entries, Keyed.find?_ofList h, find?_map_name, get?]

structure MemoryStore where
  entries : Keyed Variable

namespace MemoryStore

def empty : MemoryStore := ⟨[]⟩

/-- The store with one more entry, in place of one of the same name. -/
def withValue (s : MemoryStore) (v : Variable) : MemoryStore :=
  ⟨s.entries.insert v.name v⟩

instance : VariableStore MemoryStore where
  get? s name := (s.entries.find? name).map (·.value)
  save _ vs := (.ok (), ⟨vs.entries⟩)

instance : LawfulVariableStore MemoryStore where
  get?_save_of_ok _ vs _ := by
    funext name
    show (vs.entries.find? name).map _ = vs.value? name
    rw [vs.find?_entries, VariableSet.value?]
  get?_save_of_error _ _ _ h := nomatch h

end MemoryStore

/-- A store that answers as another one does and keeps nothing. -/
structure ReadOnly (σ : Type) where
  store : σ

instance {σ : Type} [VariableStore σ] : VariableStore (ReadOnly σ) where
  get? s name := VariableStore.get? s.store name
  save s _ := (.ok (), s)

/-- A store that refuses the saves whose numbers are given, the first save being number 0. -/
structure Faulty (σ : Type) where
  store : σ
  /-- Where its errors say that it is. -/
  path : Path
  refused : List Nat
  /-- How many saves there have been. -/
  saves : Nat

instance {σ : Type} [VariableStore σ] : VariableStore (Faulty σ) where
  get? s name := VariableStore.get? s.store name
  save s vs :=
    if s.refused.contains s.saves then
      (.error (.access s.path .refused), { s with saves := s.saves + 1 })
    else
      let (result, store) := VariableStore.save s.store vs
      (result, { s with store := store, saves := s.saves + 1 })

instance {σ : Type} [VariableStore σ] [LawfulVariableStore σ] : LawfulVariableStore (Faulty σ) where
  get?_save_of_ok s vs h := by
    simp only [VariableStore.save] at h ⊢
    split at h
    · cases h
    · next hr =>
      rw [if_neg hr]
      exact LawfulVariableStore.get?_save_of_ok s.store vs h
  get?_save_of_error s vs e h := by
    simp only [VariableStore.save] at h ⊢
    split at h
    · next hr =>
      rw [if_pos hr]
      rfl
    · next hr =>
      rw [if_neg hr]
      exact LawfulVariableStore.get?_save_of_error s.store vs e h

end TypedTemplates
