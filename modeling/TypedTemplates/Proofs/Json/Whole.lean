import TypedTemplates.Proofs.Json.Literal
import TypedTemplates.Proofs.Keyed
import TypedTemplates.Json.Document

/-!
# Values without fractions

The values all of whose numbers are integers of 64 bits (`Value.Whole`) are the ones that are certain to be read
back from their texts. Putting the members of a value in order keeps it whole and makes it no deeper, and a second
time changes nothing (`Value.Whole.sorted`, `Value.depth_sorted_le`, `Value.sorted_sorted`).
-/

namespace TypedTemplates.Json

/-- A value all of whose numbers are whole. -/
inductive Value.Whole : Value → Prop where
  | null : Whole .null
  | bool (b : Bool) : Whole (.bool b)
  | number {n : Number} (h : n.IsWhole) : Whole (.number n)
  | string (s : String) : Whole (.string s)
  | array {items : List Value} (h : ∀ v ∈ items, Whole v) : Whole (.array items)
  | object {members : List (String × Value)} (h : ∀ m ∈ members, Whole m.2) : Whole (.object members)

mutual

/-- The tree of the text that is written for a value. -/
def Value.toTree : Value → Tree
  | .null => .null
  | .bool b => .bool b
  | .number n => .number n.literal
  | .string s => .string (symbols s)
  | .array items => .array (Value.toTrees items)
  | .object members => .object (Value.toMemberTrees members)

def Value.toTrees : List Value → List Tree
  | [] => []
  | v :: vs => v.toTree :: Value.toTrees vs

def Value.toMemberTrees : List (String × Value) → List (List Symbol × Tree)
  | [] => []
  | (k, v) :: ms => (symbols k, v.toTree) :: Value.toMemberTrees ms

end

/-- The number of arrays and objects around the innermost part of a value, the value itself included. -/
def Value.depth (v : Value) : Nat :=
  v.toTree.depth

theorem Value.depth_array_le_iff {items : List Value} {n : Nat} :
    (Value.array items).depth ≤ n + 1 ↔ ∀ v ∈ items, v.depth ≤ n := by
  show Tree.depthOfItems (Value.toTrees items) + 1 ≤ n + 1 ↔ _
  induction items with
  | nil => simp [Value.toTrees, Tree.depthOfItems]
  | cons v vs ih =>
    simp only [Value.toTrees, Tree.depthOfItems, List.forall_mem_cons, ← ih]
    show max v.depth _ + 1 ≤ n + 1 ↔ _
    omega

theorem Value.depth_object_le_iff {members : List (String × Value)} {n : Nat} :
    (Value.object members).depth ≤ n + 1 ↔ ∀ m ∈ members, m.2.depth ≤ n := by
  show Tree.depthOfMembers (Value.toMemberTrees members) + 1 ≤ n + 1 ↔ _
  induction members with
  | nil => simp [Value.toMemberTrees, Tree.depthOfMembers]
  | cons m ms ih =>
    simp only [Value.toMemberTrees, Tree.depthOfMembers, List.forall_mem_cons, ← ih]
    show max m.2.depth _ + 1 ≤ n + 1 ↔ _
    omega

theorem Value.sortedItems_eq_map (items : List Value) : Value.sortedItems items = items.map Value.sorted := by
  induction items with
  | nil => rfl
  | cons v vs ih => rw [Value.sortedItems, ih, List.map_cons]

theorem Value.sortedMembers_eq_map (members : List (String × Value)) :
    Value.sortedMembers members = members.map fun m => (m.1, m.2.sorted) := by
  induction members with
  | nil => rfl
  | cons m ms ih => rw [Value.sortedMembers, ih, List.map_cons]

theorem Value.sorted_array (items : List Value) : (Value.array items).sorted = .array (items.map Value.sorted) := by
  rw [Value.sorted, Value.sortedItems_eq_map]

/-- The members of an object are put in order, and so are the members of each of them. -/
theorem Value.sorted_object (members : List (String × Value)) :
    (Value.object members).sorted = .object ((Keyed.ofList members).map fun m => (m.1, m.2.sorted)) := by
  rw [Value.sorted, Value.sortedMembers_eq_map, Keyed.map_ofList]

theorem Value.sorted_object_eq {members : Keyed Value} (hascending : members.Ascending)
    (h : ∀ m ∈ members, m.2.sorted = m.2) : (Value.object members).sorted = .object members := by
  have hmap : (members.map fun m => (m.1, m.2.sorted)) = members.map id := by
    apply List.map_congr_left
    intro m hm
    rw [h m hm]
    rfl
  rw [Value.sorted_object, hascending.ofList_eq, hmap, List.map_id]

theorem Value.of_sorted_object_eq {members : Keyed Value} (h : (Value.object members).sorted = .object members) :
    members.Ascending ∧ ∀ m ∈ members, ∃ v : Value, m.2 = v.sorted := by
  have hmembers : Keyed.ofList (members.map fun m => (m.1, m.2.sorted)) = members := by
    rw [Value.sorted_object, Keyed.map_ofList] at h
    exact Value.object.inj h
  constructor
  · rw [← hmembers]
    exact Keyed.ascending_ofList _
  · intro m hm
    rw [← hmembers] at hm
    obtain ⟨w, _, rfl⟩ := List.mem_map.1 (Keyed.mem_of_mem_ofList hm)
    exact ⟨w.2, rfl⟩

/-- What holds of the items of every array and of the members of every object that it holds of holds of all values. -/
@[elab_as_elim]
theorem Value.induction {P : Value → Prop} (null : P .null) (bool : ∀ b, P (.bool b)) (number : ∀ n, P (.number n))
    (string : ∀ s, P (.string s)) (array : ∀ items, (∀ v ∈ items, P v) → P (.array items))
    (object : ∀ members, (∀ m ∈ members, P m.2) → P (.object members)) (v : Value) : P v :=
  match v with
  | .null => null
  | .bool b => bool b
  | .number n => number n
  | .string s => string s
  | .array items => array items fun v _ => Value.induction null bool number string array object v
  | .object members => object members fun m _ => Value.induction null bool number string array object m.2
termination_by sizeOf v
decreasing_by
  · have := List.sizeOf_lt_of_mem ‹v ∈ items›
    simp only [Value.array.sizeOf_spec]
    omega
  · have := List.sizeOf_lt_of_mem ‹m ∈ members›
    obtain ⟨k, w⟩ := m
    simp only [Prod.mk.sizeOf_spec] at this
    simp only [Value.object.sizeOf_spec]
    omega

theorem Value.sorted_sorted (v : Value) : v.sorted.sorted = v.sorted := by
  induction v using Value.induction with
  | null | bool _ | number _ | string _ => rfl
  | array items ih =>
    rw [Value.sorted_array, Value.sorted_array, List.map_map]
    congr 1
    exact List.map_congr_left ih
  | object members ih =>
    rw [Value.sorted_object, Keyed.map_ofList]
    refine Value.sorted_object_eq (Keyed.ascending_ofList _) ?_
    intro m hm
    obtain ⟨w, hw, rfl⟩ := List.mem_map.1 (Keyed.mem_of_mem_ofList hm)
    exact ih w hw

theorem Value.depth_sorted_le {v : Value} {n : Nat} (h : v.depth ≤ n) : v.sorted.depth ≤ n := by
  induction v using Value.induction generalizing n with
  | null | bool _ | number _ | string _ => exact h
  | array items ih =>
    cases n with
    | zero => exact absurd h (by simp [Value.depth, Value.toTree, Tree.depth])
    | succ n =>
      rw [Value.sorted_array, Value.depth_array_le_iff]
      rw [Value.depth_array_le_iff] at h
      intro v hv
      obtain ⟨w, hw, rfl⟩ := List.mem_map.1 hv
      exact ih w hw (h w hw)
  | object members ih =>
    cases n with
    | zero => exact absurd h (by simp [Value.depth, Value.toTree, Tree.depth])
    | succ n =>
      rw [Value.sorted_object, Value.depth_object_le_iff]
      rw [Value.depth_object_le_iff] at h
      intro m hm
      obtain ⟨w, hw, rfl⟩ := List.mem_map.1 hm
      have hmem := Keyed.mem_of_mem_ofList hw
      exact ih w hmem (h w hmem)

private theorem depthOfItems_of_values? {ts : List Tree} {vs : List Value} (h : Tree.values? ts = some vs)
    (ih : ∀ v ∈ vs, ∀ t : Tree, t.value? = some v → v.depth = t.depth) :
    Tree.depthOfItems (Value.toTrees vs) = Tree.depthOfItems ts := by
  induction ts generalizing vs with
  | nil =>
    rw [Tree.values?, Option.some.injEq] at h
    subst h
    rfl
  | cons t ts iht =>
    rw [Tree.values?] at h
    split at h
    · next v vs' hv hvs =>
      rw [Option.some.injEq] at h
      subst h
      obtain ⟨ihv, ihvs⟩ := List.forall_mem_cons.1 ih
      have hdepth : v.toTree.depth = t.depth := ihv t hv
      rw [Value.toTrees, Tree.depthOfItems, Tree.depthOfItems, iht hvs ihvs, hdepth]
    · cases h

private theorem depthOfMembers_of_members? {ts : List (List Symbol × Tree)} {ms : List (String × Value)}
    (h : Tree.members? ts = some ms) (ih : ∀ m ∈ ms, ∀ t : Tree, t.value? = some m.2 → m.2.depth = t.depth) :
    Tree.depthOfMembers (Value.toMemberTrees ms) = Tree.depthOfMembers ts := by
  induction ts generalizing ms with
  | nil =>
    rw [Tree.members?, Option.some.injEq] at h
    subst h
    rfl
  | cons t ts iht =>
    rw [Tree.members?] at h
    split at h
    · next k v ms' hk hv hms =>
      rw [Option.some.injEq] at h
      subst h
      obtain ⟨ihv, ihms⟩ := List.forall_mem_cons.1 ih
      have hdepth : v.toTree.depth = t.2.depth := ihv t.2 hv
      rw [Value.toMemberTrees, Tree.depthOfMembers, Tree.depthOfMembers, iht hms ihms, hdepth]
    · cases h

/-- A value is as deep as a tree that means it. -/
theorem Value.depth_of_value? {v : Value} {t : Tree} (h : t.value? = some v) : v.depth = t.depth := by
  induction v using Value.induction generalizing t with
  | null | bool _ | number _ | string _ => cases t <;> simp_all [Tree.value?, Value.depth, Value.toTree, Tree.depth]
  | array items ih =>
    cases t with
    | array ts =>
      have hitems : Tree.values? ts = some items := by simpa [Tree.value?] using h
      have hdepth := depthOfItems_of_values? hitems fun v hv t => ih v hv
      rw [Value.depth, Value.toTree, Tree.depth, Tree.depth, hdepth]
    | _ => simp [Tree.value?] at h
  | object members ih =>
    cases t with
    | object ts =>
      have hmembers : Tree.members? ts = some members := by simpa [Tree.value?] using h
      have hdepth := depthOfMembers_of_members? hmembers fun m hm t => ih m hm
      rw [Value.depth, Value.toTree, Tree.depth, Tree.depth, hdepth]
    | _ => simp [Tree.value?] at h

theorem Value.Whole.sorted {v : Value} (h : v.Whole) : v.sorted.Whole := by
  induction h with
  | null => exact .null
  | bool b => exact .bool b
  | number h => exact .number h
  | string s => exact .string s
  | array h ih =>
    rw [Value.sorted_array]
    refine .array ?_
    intro v hv
    obtain ⟨w, hw, rfl⟩ := List.mem_map.1 hv
    exact ih w hw
  | object h ih =>
    rw [Value.sorted_object]
    refine .object ?_
    intro m hm
    obtain ⟨w, hw, rfl⟩ := List.mem_map.1 hm
    exact ih w (Keyed.mem_of_mem_ofList hw)

end TypedTemplates.Json
