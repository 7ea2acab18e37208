import TypedTemplates.Template.Variable

/-!
# Look-up in sets of variables

A set made of a list of variables holds the first variable of each name, in the order of the list
(`toList_ofList`). In every set a variable is found under its name (`get?_of_mem`), and `mapValue` changes
the value under one name only (`value?_mapValue`). Where sets are put together, the first one counts
(`value?_union`), and the order in which one set is listed does not matter (`get?_ofList_of_perm`).
-/

namespace TypedTemplates

/-! ### The first item of each key -/

section FirstOfEachKey

variable {α β : Type}

theorem eraseDupsBy_map (f : α → β) (r : β → β → Bool) (as : List α) :
    (as.map f).eraseDupsBy r = (as.eraseDupsBy fun a b => r (f a) (f b)).map f := by
  match as with
  | [] => rfl
  | a :: as =>
    rw [List.map_cons, List.eraseDupsBy_cons, List.eraseDupsBy_cons, List.map_cons, List.filter_map,
      eraseDupsBy_map f r (as.filter _)]
    rfl
termination_by as.length
decreasing_by exact Nat.lt_succ_of_le (List.length_filter_le _ _)

variable [BEq β] [LawfulBEq β]

/-- Looking for a key finds the same item in the list and among the first items of each key. -/
theorem find?_eraseDupsBy (key : α → β) (k : β) (as : List α) :
    (as.eraseDupsBy fun a b => key a == key b).find? (fun a => key a == k) = as.find? fun a => key a == k := by
  match as with
  | [] => rfl
  | a :: as =>
    rw [List.eraseDupsBy_cons, List.find?_cons, List.find?_cons, find?_eraseDupsBy key k (as.filter _)]
    cases ha : key a == k with
    | true => rfl
    | false =>
      -- no item with the key `k` is filtered out, since the head has another key
      have hp : ∀ b, (decide ((key b == key a) = false) && key b == k) = (key b == k) := by
        intro b
        cases hb : key b == k with
        | false => simp
        | true => rw [eq_of_beq hb, BEq.comm, ha]; rfl
      rw [List.find?_filter]
      simp only [Bool.decide_and, Bool.decide_eq_true, hp]
termination_by as.length
decreasing_by exact Nat.lt_succ_of_le (List.length_filter_le _ _)

end FirstOfEachKey

namespace VariableSet

theorem insert?_of_mem {s : VariableSet} {v : Variable} (h : v.name ∈ s.names) : s.insert? v = none :=
  dif_pos h

theorem insert_of_mem {s : VariableSet} {v : Variable} (h : v.name ∈ s.names) : s.insert v = s := by
  rw [insert, insert?_of_mem h, Option.getD_none]

theorem insert?_of_not_mem {s : VariableSet} {v : Variable} (h : v.name ∉ s.names) :
    s.insert? v = some (s.insert v) := by
  simp [insert, insert?, h]

theorem toList_insert_of_not_mem {s : VariableSet} {v : Variable} (h : v.name ∉ s.names) :
    (s.insert v).toList = s.toList ++ [v] := by
  simp [insert, insert?, h]

theorem names_insert_of_not_mem {s : VariableSet} {v : Variable} (h : v.name ∉ s.names) :
    (s.insert v).names = s.names ++ [v.name] := by
  rw [names, toList_insert_of_not_mem h, List.map_append]
  rfl

private theorem toList_foldl_insert (s : VariableSet) (vs : List Variable) :
    (vs.foldl insert s).toList =
      s.toList ++ (vs.filter fun v => v.name ∉ s.names).eraseDupsBy fun v w => v.name == w.name := by
  induction vs generalizing s with
  | nil => simp
  | cons v vs ih =>
    rw [List.foldl_cons, ih]
    by_cases h : v.name ∈ s.names
    · rw [insert_of_mem h, List.filter_cons_of_neg (by simpa using h)]
    · rw [toList_insert_of_not_mem h, List.filter_cons_of_pos (by simpa using h), List.eraseDupsBy_cons,
        List.filter_filter, List.append_assoc, List.singleton_append]
      have hp : ∀ w : Variable, decide (w.name ∉ (s.insert v).names) =
          (decide ((w.name == v.name) = false) && decide (w.name ∉ s.names)) := by
        intro w
        simp [names_insert_of_not_mem h, Bool.and_comm]
      simp only [hp]

theorem eq_of_toList_eq {s t : VariableSet} (h : s.toList = t.toList) : s = t := by
  cases s
  cases t
  rw [mk.injEq]
  exact h

theorem toList_ofList (vs : List Variable) :
    (ofList vs).toList = vs.eraseDupsBy fun v w => v.name == w.name := by
  rw [ofList, toList_foldl_insert, List.filter_eq_self.2 (by simp)]
  rfl

theorem get?_of_mem {s : VariableSet} {v : Variable} (h : v ∈ s.toList) : s.get? v.name = some v := by
  obtain ⟨vs, hnodup⟩ := s
  replace h : v ∈ vs := h
  show (vs.find? fun w => w.name == v.name) = some v
  induction vs with
  | nil => simp at h
  | cons w vs ih =>
    rw [List.map_cons, List.nodup_cons] at hnodup
    rcases List.mem_cons.1 h with rfl | h
    · simp
    · have hne : w.name ≠ v.name := by
        intro he
        exact hnodup.1 (he ▸ List.mem_map_of_mem h)
      rw [List.find?_cons_of_neg (by simpa using hne)]
      exact ih hnodup.2 h

theorem exists_mem_of_value? {s : VariableSet} {name value : String} (h : s.value? name = some value) :
    ∃ v ∈ s.toList, v.name = name ∧ v.value = value := by
  obtain ⟨v, hv, rfl⟩ := Option.map_eq_some_iff.1 h
  exact ⟨v, List.mem_of_find?_eq_some hv, by simpa using List.find?_some hv, rfl⟩

theorem mem_names_iff {s : VariableSet} {name : String} :
    name ∈ s.names ↔ ∃ value, s.value? name = some value := by
  constructor
  · intro h
    obtain ⟨v, hv, rfl⟩ := List.mem_map.1 h
    exact ⟨v.value, by rw [value?, get?_of_mem hv, Option.map_some]⟩
  · rintro ⟨value, h⟩
    obtain ⟨v, hv, rfl, -⟩ := exists_mem_of_value? h
    exact List.mem_map_of_mem hv

theorem get?_mapValue (s : VariableSet) (name value other : String) :
    (s.mapValue name value).get? other =
      (s.get? other).map fun v => if v.name = name then { v with value := value } else v := by
  have hname : ((fun v => v.name == other) ∘
      fun v : Variable => if v.name = name then { v with value := value } else v) = fun v => v.name == other := by
    funext v
    simp only [Function.comp_apply]
    split <;> rfl
  rw [get?, mapValue, List.find?_map, hname]
  rfl

theorem mapValue_of_not_mem {s : VariableSet} {name : String} (value : String) (h : name ∉ s.names) :
    s.mapValue name value = s := by
  refine eq_of_toList_eq ((List.map_congr_left ?_).trans (List.map_id _))
  intro v hv
  have hne : v.name ≠ name := fun he => h (he ▸ List.mem_map_of_mem hv)
  rw [if_neg hne, id]

theorem setValue?_of_mem {s : VariableSet} {name : String} (value : String) (h : name ∈ s.names) :
    s.setValue? name value = some (s.mapValue name value) :=
  if_pos (contains_iff.2 h)

theorem setValue?_of_not_mem {s : VariableSet} {name : String} (value : String) (h : name ∉ s.names) :
    s.setValue? name value = none :=
  if_neg (by rwa [contains_iff])

theorem value?_mapValue {s : VariableSet} {name : String} (value : String) (h : name ∈ s.names) (other : String) :
    (s.mapValue name value).value? other = if other = name then some value else s.value? other := by
  rw [value?, get?_mapValue, Option.map_map]
  cases hv : s.get? other with
  | none =>
    have hne : other ≠ name := by
      rintro rfl
      obtain ⟨v, hs⟩ := mem_names_iff.1 h
      simp [value?, hv] at hs
    simp [hne, value?, hv]
  | some v =>
    have hn : v.name = other := by simpa using List.find?_some hv
    by_cases he : other = name <;> simp [value?, hv, hn, he]

theorem value?_eq_none_iff {s : VariableSet} {name : String} : s.value? name = none ↔ name ∉ s.names := by
  rw [mem_names_iff, not_exists, Option.eq_none_iff_forall_ne_some]

theorem contains_eq_false_iff {s : VariableSet} {name : String} : s.contains name = false ↔ name ∉ s.names := by
  rw [← contains_iff, Bool.not_eq_true]

/-! ### Sets put together -/

/-- The set with the variables of another one added whose names are not taken. -/
def union (s t : VariableSet) : VariableSet :=
  t.toList.foldl insert s

theorem get?_insert (s : VariableSet) (v : Variable) (name : String) :
    (s.insert v).get? name = (s.get? name).or ([v].find? fun w => w.name == name) := by
  by_cases h : v.name ∈ s.names
  · rw [insert_of_mem h]
    by_cases hn : v.name = name
    · -- the name is taken, so there is something to be found
      obtain ⟨value, hv⟩ := mem_names_iff.1 (hn ▸ h)
      obtain ⟨w, hw, -⟩ := Option.map_eq_some_iff.1 hv
      rw [hw, Option.some_or]
    · simp [hn]
  · rw [get?, toList_insert_of_not_mem h, List.find?_append]
    rfl

theorem get?_foldl_insert (s : VariableSet) (vs : List Variable) (name : String) :
    (vs.foldl insert s).get? name = (s.get? name).or (vs.find? fun v => v.name == name) := by
  induction vs generalizing s with
  | nil => simp
  | cons v vs ih =>
    rw [List.foldl_cons, ih, get?_insert, Option.or_assoc, ← List.find?_append]
    rfl

theorem get?_ofList (vs : List Variable) (name : String) :
    (ofList vs).get? name = vs.find? fun v => v.name == name := by
  rw [get?, toList_ofList, find?_eraseDupsBy]

theorem value?_union (s t : VariableSet) (name : String) :
    (s.union t).value? name = (s.value? name).or (t.value? name) := by
  rw [value?, union, get?_foldl_insert, Option.map_or]
  rfl

theorem get?_eq_some_iff {s : VariableSet} {name : String} {v : Variable} :
    s.get? name = some v ↔ v ∈ s.toList ∧ v.name = name := by
  constructor
  · intro h
    exact ⟨List.mem_of_find?_eq_some h, by simpa using List.find?_some h⟩
  · rintro ⟨hv, rfl⟩
    exact get?_of_mem hv

/-- The order in which variables are put into a set makes no difference to a look-up. -/
theorem get?_ofList_of_perm {s : VariableSet} {vs : List Variable} (h : vs.Perm s.toList) :
    (ofList vs).get? = s.get? := by
  have hnodup : (vs.map (·.name)).Nodup := (h.map _).nodup_iff.2 s.nodup_names
  funext name
  rw [get?_ofList]
  show (⟨vs, hnodup⟩ : VariableSet).get? name = _
  ext v
  rw [get?_eq_some_iff, get?_eq_some_iff, h.mem_iff]

end VariableSet

end TypedTemplates
