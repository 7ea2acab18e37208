import TypedTemplates.Proofs.Template.Declared

/-!
# Changes to a set of variables

A change asks a set to take in a variable or to give a value to a name. It is refused where the name is taken, and
where there is none. What a change does is said once (`change_insert_of_mem` up to `change_setValue_of_not_mem`).
After every run of changes the names stand in the order in which they were first put in (`names_changed`), and a
variable has its first type and the last value that was given to it since (`get?_changed_of_eq_some`), so a set is a
map that remembers the order of insertion (`ordered_map_of_changes`).
-/

namespace TypedTemplates.VariableSet

/-- Something that a set of variables is asked to do. -/
inductive Change where
  | insert (v : Variable)
  | setValue (name value : String)
  deriving DecidableEq, Repr

/-- The variable that is to be put in. -/
def Change.inserted? : Change → Option Variable
  | .insert v => some v
  | .setValue _ _ => none

/-- The value that a change gave to a name, if the answer says that it was made. -/
def Change.given? (name : String) : Change × Bool → Option String
  | (.setValue n value, true) => if n = name then some value else none
  | _ => none

/-- The set after the change, or nothing if the change is refused. -/
def change? (s : VariableSet) : Change → Option VariableSet
  | .insert v => s.insert? v
  | .setValue name value => s.setValue? name value

/-- Makes the change, and answers whether it was made. One that is refused leaves the set as it is. -/
def change (s : VariableSet) (c : Change) : Bool × VariableSet :=
  match s.change? c with
  | some t => (true, t)
  | none => (false, s)

/-- The set after the changes. -/
def changed (s : VariableSet) (changes : List Change) : VariableSet :=
  changes.foldl (fun s c => (s.change c).2) s

/-- The changes, each with its answer, one after the other. -/
def log (s : VariableSet) : List Change → List (Change × Bool)
  | [] => []
  | c :: changes => (c, (s.change c).1) :: (s.change c).2.log changes

theorem changed_cons (s : VariableSet) (c : Change) (changes : List Change) :
    s.changed (c :: changes) = (s.change c).2.changed changes := rfl

theorem changed_append (s : VariableSet) (xs ys : List Change) : s.changed (xs ++ ys) = (s.changed xs).changed ys :=
  List.foldl_append

/-! ### Views of a set -/

theorem isSome_get? (s : VariableSet) (name : String) : (s.get? name).isSome = s.contains name := by
  rw [Bool.eq_iff_iff, contains_iff, names, List.mem_map, get?, List.find?_isSome]
  simp

theorem map_get?_names (s : VariableSet) : s.names.map s.get? = s.toList.map some := by
  rw [names, List.map_map]
  exact List.map_congr_left fun v hv => get?_of_mem hv

/-! ### What a change does -/

variable {s : VariableSet} {name : String}

theorem change_insert_of_mem {v : Variable} (h : v.name ∈ s.names) : s.change (.insert v) = (false, s) := by
  rw [change, change?, insert?_of_mem h]

theorem change_insert_of_not_mem {v : Variable} (h : v.name ∉ s.names) :
    s.change (.insert v) = (true, s.insert v) := by
  rw [change, change?, insert?_of_not_mem h]

theorem change_setValue_of_mem (value : String) (h : name ∈ s.names) :
    s.change (.setValue name value) = (true, s.mapValue name value) := by
  rw [change, change?, setValue?_of_mem value h]

theorem change_setValue_of_not_mem (value : String) (h : name ∉ s.names) :
    s.change (.setValue name value) = (false, s) := by
  rw [change, change?, setValue?_of_not_mem value h]

theorem change_insert_snd (s : VariableSet) (v : Variable) : (s.change (.insert v)).2 = s.insert v := by
  by_cases h : v.name ∈ s.names
  · rw [change_insert_of_mem h, insert_of_mem h]
  · rw [change_insert_of_not_mem h]

theorem change_setValue_snd (s : VariableSet) (name value : String) :
    (s.change (.setValue name value)).2 = s.mapValue name value := by
  by_cases h : name ∈ s.names
  · rw [change_setValue_of_mem value h]
  · rw [change_setValue_of_not_mem value h, mapValue_of_not_mem value h]

/-- A value reaches the variable of its name. -/
theorem get?_mapValue_self (s : VariableSet) (name value : String) :
    (s.mapValue name value).get? name = (s.get? name).map fun v => { v with value := value } := by
  rw [get?_mapValue]
  refine Option.map_congr fun v hv => ?_
  rw [if_pos (get?_eq_some_iff.1 hv).2]

/-- A value touches no variable of another name. -/
theorem get?_mapValue_of_ne (s : VariableSet) (value : String) {other : String} (h : other ≠ name) :
    (s.mapValue name value).get? other = s.get? other := by
  rw [get?_mapValue]
  cases hv : s.get? other with
  | none => rfl
  | some v =>
    have hv : v.name = other := (get?_eq_some_iff.1 hv).2
    rw [Option.map_some, if_neg (hv ▸ h)]

/-! ### Names after a run -/

theorem names_insert_congr {s t : VariableSet} (h : s.names = t.names) (v : Variable) :
    (s.insert v).names = (t.insert v).names := by
  by_cases hv : v.name ∈ s.names
  · rw [insert_of_mem hv, insert_of_mem (h ▸ hv), h]
  · rw [names_insert_of_not_mem hv, names_insert_of_not_mem (h ▸ hv), h]

/-- Names depend on the variables that are put in and on no value. -/
theorem names_changed {s t : VariableSet} (h : s.names = t.names) (changes : List Change) :
    (s.changed changes).names = ((changes.filterMap Change.inserted?).foldl insert t).names := by
  induction changes generalizing s t with
  | nil => exact h
  | cons c changes ih =>
    rw [changed_cons]
    cases c with
    | insert v =>
      rw [change_insert_snd]
      exact ih (names_insert_congr h v)
    | setValue name value =>
      rw [change_setValue_snd]
      exact ih ((names_mapValue s name value).trans h)

theorem names_ofList (vs : List Variable) : (ofList vs).names = (vs.map (·.name)).eraseDups := by
  rw [names, toList_ofList]
  exact (eraseDupsBy_map (·.name) (· == ·) vs).symm

theorem names_changed_empty (changes : List Change) :
    (empty.changed changes).names = ((changes.filterMap Change.inserted?).map (·.name)).eraseDups := by
  rw [names_changed rfl, ← ofList, names_ofList]

theorem mem_names_changed_empty {changes : List Change} :
    name ∈ (empty.changed changes).names ↔ ∃ v, .insert v ∈ changes ∧ v.name = name := by
  rw [names_changed_empty, List.mem_eraseDups, List.mem_map]
  simp only [List.mem_filterMap]
  constructor
  · rintro ⟨v, ⟨c, hc, hcv⟩, rfl⟩
    cases c with
    | insert w => exact ⟨v, Option.some.inj hcv ▸ hc, rfl⟩
    | setValue n value => cases hcv
  · rintro ⟨v, hv, rfl⟩
    exact ⟨v, ⟨_, hv, rfl⟩, rfl⟩

/-! ### A variable from its first insertion on -/

theorem get?_change_of_eq_some {v : Variable} (h : s.get? name = some v) (c : Change) :
    (s.change c).2.get? name =
      some { v with value := (Change.given? name (c, (s.change c).1)).getD v.value } := by
  cases c with
  | insert w =>
    rw [change_insert_snd, get?_insert, h, Option.some_or]
    rfl
  | setValue n value =>
    by_cases hn : n = name
    · subst hn
      have hmem : n ∈ s.names := by
        rw [← contains_iff, ← isSome_get?, h]
        rfl
      rw [change_setValue_of_mem value hmem, get?_mapValue_self, h, Option.map_some]
      simp [Change.given?]
    · have hnone : Change.given? name (.setValue n value, (s.change (.setValue n value)).1) = none := by
        cases (s.change (.setValue n value)).1 <;> simp [Change.given?, hn]
      rw [change_setValue_snd, get?_mapValue_of_ne s value (Ne.symm hn), h, hnone]
      rfl

/-- A variable keeps its name and type, and has the last value that was given to it. -/
theorem get?_changed_of_eq_some {v : Variable} (h : s.get? name = some v) (changes : List Change) :
    (s.changed changes).get? name =
      some { v with value := (((s.log changes).filterMap (Change.given? name)).getLast?).getD v.value } := by
  induction changes generalizing s v with
  | nil => exact h
  | cons c changes ih =>
    -- the value of the first change is left just if no later one gives another
    rw [changed_cons, ih (get?_change_of_eq_some h c), log]
    cases hg : Change.given? name (c, (s.change c).1) with
    | none => rw [List.filterMap_cons_none hg, Option.getD_none]
    | some value => rw [List.filterMap_cons_some hg, List.getLast?_cons, Option.getD_some, Option.getD_some]

theorem get?_insert_self {v : Variable} (h : v.name ∉ s.names) : (s.insert v).get? v.name = some v :=
  get?_of_mem (by simp [toList_insert_of_not_mem h])

/-- A variable that is put in under a new name keeps its name and type, and has the last value given to it since. -/
theorem get?_changed_of_first {before later : List Change} {v : Variable}
    (hfirst : ∀ w, .insert w ∈ before → w.name ≠ v.name) :
    (empty.changed (before ++ .insert v :: later)).get? v.name =
      some { v with value := ((((empty.changed (before ++ [.insert v])).log later).filterMap
        (Change.given? v.name)).getLast?).getD v.value } := by
  have habsent : v.name ∉ (empty.changed before).names := by
    rw [mem_names_changed_empty]
    rintro ⟨w, hw, hn⟩
    exact hfirst w hw hn
  have hbegun : empty.changed (before ++ [.insert v]) = (empty.changed before).insert v := by
    rw [changed_append, changed_cons, change_insert_snd]
    rfl
  rw [List.append_cons, changed_append]
  refine get?_changed_of_eq_some ?_ later
  rw [hbegun]
  exact get?_insert_self habsent

/-! ### Every run -/

/-- After every run of changes from the empty set the names are distinct and in the order in which they were first
put in. A variable has the name and type of the first variable that was put in under its name, and the last value
that was given to it since, or else the one it came with. A variable is taken in just if its name is absent, a value
just if its name is there, and neither touches the other variables. All views of the set agree. -/
theorem ordered_map_of_changes (changes : List Change) :
    let s := empty.changed changes
    (s.names.Nodup ∧ s.names = ((changes.filterMap Change.inserted?).map (·.name)).eraseDups) ∧
    (∀ before v later, changes = before ++ .insert v :: later → (∀ w, .insert w ∈ before → w.name ≠ v.name) →
      let since := (empty.changed (before ++ [.insert v])).log later
      s.get? v.name = some { v with value := ((since.filterMap (Change.given? v.name)).getLast?).getD v.value }) ∧
    (∀ v, ((s.change (.insert v)).1 = true ↔ v.name ∉ s.names) ∧
      ((s.change (.insert v)).1 = true → (s.change (.insert v)).2.toList = s.toList ++ [v]) ∧
      ((s.change (.insert v)).1 = false → (s.change (.insert v)).2 = s)) ∧
    (∀ name value, ((s.change (.setValue name value)).1 = true ↔ name ∈ s.names) ∧
      (s.change (.setValue name value)).2.names = s.names ∧
      (s.change (.setValue name value)).2.signature = s.signature ∧
      (s.change (.setValue name value)).2.get? name = (s.get? name).map (fun v => { v with value := value }) ∧
      ∀ other, other ≠ name → (s.change (.setValue name value)).2.get? other = s.get? other) ∧
    (s.toList.map (·.name) = s.names ∧ s.toList.map some = s.names.map s.get? ∧ s.size = s.names.length ∧
      (s.isEmpty = true ↔ s.size = 0) ∧
      ∀ name, s.contains name = (s.get? name).isSome ∧ (s.contains name = true ↔ name ∈ s.names)) := by
  intro s
  refine ⟨⟨s.nodup_names, names_changed_empty changes⟩, ?_, ?_, ?_, ?_⟩
  · rintro before v later hchanges hfirst since
    rw [show s = empty.changed changes from rfl, hchanges]
    exact get?_changed_of_first hfirst
  · intro v
    by_cases h : v.name ∈ s.names
    · simp [change_insert_of_mem h, h]
    · simp [change_insert_of_not_mem h, toList_insert_of_not_mem h, h]
  · intro name value
    rw [change_setValue_snd]
    refine ⟨?_, s.names_mapValue name value, s.signature_mapValue name value, s.get?_mapValue_self name value,
      fun other h => s.get?_mapValue_of_ne value h⟩
    by_cases h : name ∈ s.names
    · simp [change_setValue_of_mem value h, h]
    · simp [change_setValue_of_not_mem value h, h]
  · refine ⟨rfl, s.map_get?_names.symm, ?_, ?_, fun name => ⟨(s.isSome_get? name).symm, contains_iff⟩⟩
    · rw [size, names, List.length_map]
    · rw [isEmpty, size, List.isEmpty_iff, List.length_eq_zero_iff]

example : (empty.changed [.setValue "a" "w", .insert ⟨"b", .url, "u"⟩, .insert ⟨"a", .text, ""⟩, .setValue "a" "x",
    .insert ⟨"b", .number, "1"⟩, .setValue "c" "y"]).toList = [⟨"b", .url, "u"⟩, ⟨"a", .text, "x"⟩] := by decide

end TypedTemplates.VariableSet
