import TypedTemplates.Proofs.Json.RoundTrip
import TypedTemplates.Template.Record
import Mathlib.Data.List.Forall2

/-!
# Reading records back

A variable is the one of its own record (`Variable.ofJson?_toJson`). Records are whole and flat, and their members
stand in order, so they are not changed by being written to a file and read back. A record can also be read from the
tree of its text, in which members that do not count need not have values; for what is written as a text that comes to
the same (`Variable.ofTree?_toTree`). So the text of a variable is that of a record of it, and the text of a set that of
an object with one such record for each name, in the order of the set (`records_read_back`).
-/

namespace TypedTemplates

open Json (Tree Value)

theorem Keyed.find?_filter {α : Type} {key : String} {p : String → Bool} (h : p key = true) (pairs : Keyed α) :
    find? key (pairs.filter fun m => p m.1) = find? key pairs := by
  induction pairs with
  | nil => rfl
  | cons m rest ih =>
    by_cases hm : m.1 = key
    · simp [find?, hm, h]
    · by_cases hp : p m.1 = true
      · simp [find?, hm, hp, ih]
      · simp [find?, hm, hp, ih]

namespace Variable

theorem whole_toJson (v : Variable) : v.toJson.Whole := by
  refine .object ?_
  intro m hm
  simp only [List.mem_cons, List.not_mem_nil, or_false] at hm
  rcases hm with rfl | rfl | rfl
  · exact .string _
  · exact .string _
  · exact .string _

theorem sorted_toJson (v : Variable) : v.toJson.sorted = v.toJson := by
  refine Value.sorted_object_eq ?_ ?_
  · have hname : "name" < "type" ∧ "name" < "value" ∧ "type" < "value" := by decide
    rw [Keyed.Ascending]
    simp only [List.pairwise_cons, List.forall_mem_cons]
    exact ⟨⟨hname.1, hname.2.1, by simp⟩, ⟨hname.2.2, by simp⟩, by simp, List.Pairwise.nil⟩
  · intro m hm
    simp only [List.mem_cons, List.not_mem_nil, or_false] at hm
    rcases hm with rfl | rfl | rfl <;> rfl

theorem depth_toJson (v : Variable) : v.toJson.depth = 1 := rfl

/-- A variable is read back from its record. -/
theorem ofJson?_toJson (v : Variable) : ofJson? v.toJson = some v := by
  simp [ofJson?, toJson, ofMembers?, memberNames, List.countP_cons, textMember?, Keyed.find?, VarType.toJson,
    VarType.ofJson?]

/-! ### Records as trees -/

/-- The variable of a tree that is a record. -/
def ofTree? : Tree → Option Variable
  | .object members => (readMembers? members).bind ofMembers?
  | tree => tree.value?.bind ofJson?

theorem ofText?_eq (text : String) : ofText? text = (Tree.ofText? text).bind ofTree? := by
  unfold ofText?
  split
  · next members htree => rw [htree]; rfl
  · next tree hnot htree =>
    rw [htree, Option.bind_some, ofTree?]
    exact fun members h => hnot members h
  · next hnone => rw [hnone]; rfl

/-- Members that a record does not read make no difference to it. -/
theorem ofMembers?_filter (members : List (String × Value)) :
    ofMembers? (members.filter fun m => memberNames.contains m.1) = ofMembers? members := by
  have hread : ∀ key ∈ memberNames, memberNames.contains key = true := fun key => List.contains_iff_mem.2
  have hfind : ∀ key ∈ memberNames,
      Keyed.find? key (members.filter fun m => memberNames.contains m.1) = Keyed.find? key members :=
    fun key hkey => Keyed.find?_filter (hread key hkey) members
  have hcount : ∀ key ∈ memberNames,
      ((members.filter fun m => memberNames.contains m.1).countP fun m => m.1 == key) =
        members.countP fun m => m.1 == key := by
    intro key hkey
    rw [List.countP_filter]
    congr 1
    funext m
    by_cases hm : m.1 = key
    · rw [hm, hread key hkey, Bool.and_true]
    · simp [hm]
  have htwice : (memberNames.any fun key =>
        ((members.filter fun m => memberNames.contains m.1).countP fun m => m.1 == key) > 1) =
      memberNames.any fun key => (members.countP fun m => m.1 == key) > 1 := by
    rw [Bool.eq_iff_iff, List.any_eq_true, List.any_eq_true]
    refine exists_congr fun key => and_congr_right fun hkey => ?_
    rw [hcount key hkey]
  rw [ofMembers?, ofMembers?, htwice, textMember?, textMember?, textMember?, textMember?,
    hfind "name" (by decide), hfind "type" (by decide), hfind "value" (by decide)]

theorem readMembers?_toMemberTrees {members : List (String × Value)} (h : ∀ m ∈ members, m.2.Whole) :
    readMembers? (Value.toMemberTrees members) = some (members.filter fun m => memberNames.contains m.1) := by
  induction members with
  | nil => rfl
  | cons m ms ih =>
    obtain ⟨hm, hms⟩ := List.forall_mem_cons.1 h
    rw [Value.toMemberTrees, readMembers?, Json.string?_symbols]
    by_cases hread : memberNames.contains m.1 = true
    · simp only [hread, if_true, hm.value?_toTree, ih hms, List.filter_cons_of_pos]
    · simp only [hread, Bool.false_eq_true, if_false, ih hms, List.filter_cons]

/-- The tree that is written for a whole value is a record of the same variable as the value. -/
theorem ofTree?_toTree {v : Value} (h : v.Whole) : ofTree? v.toTree = ofJson? v := by
  cases h with
  | object hmembers =>
    rw [Value.toTree, ofTree?, readMembers?_toMemberTrees hmembers, Option.bind_some, ofMembers?_filter, ofJson?]
  | null => rfl
  | bool b => rfl
  | string s => simp [Value.toTree, ofTree?, Tree.value?, Json.string?_symbols]
  | number hn => simp [Value.toTree, ofTree?, Tree.value?, hn.number?_literal]
  | array hitems =>
    have hvalue := (Value.Whole.array hitems).value?_toTree
    rw [Value.toTree] at hvalue ⊢
    rw [ofTree?, hvalue, Option.bind_some]
    intro members hmembers
    cases hmembers

/-- A variable is read back from the text of its record. -/
theorem ofText?_text (v : Variable) (layout : Json.Layout) : ofText? (v.toJson.text layout) = some v := by
  rw [ofText?_eq, Tree.ofText?_text v.whole_toJson, Option.bind_some, ofTree?_toTree v.whole_toJson, ofJson?_toJson]

end Variable

namespace VariableSet

theorem whole_toJson (s : VariableSet) : s.toJson.Whole := by
  refine .object ?_
  intro m hm
  obtain ⟨v, _, rfl⟩ := List.mem_map.1 hm
  exact v.whole_toJson

/-- The members `m` that hold a record of the variable `v` under its name. -/
def Records (m : List Json.Symbol × Tree) (v : Variable) : Prop :=
  Json.string? m.1 = some v.name ∧ Variable.ofTree? m.2 = some v ∧ m.2.value?.bind Variable.ofJson? = some v

theorem records_toMemberTrees (vs : List Variable) :
    List.Forall₂ Records (Value.toMemberTrees (vs.map fun v => (v.name, v.toJson))) vs := by
  induction vs with
  | nil => exact .nil
  | cons v vs ih =>
    refine .cons ⟨Json.string?_symbols v.name, ?_, ?_⟩ ih
    · rw [Variable.ofTree?_toTree v.whole_toJson, v.ofJson?_toJson]
    · rw [v.whole_toJson.value?_toTree, Option.bind_some, v.ofJson?_toJson]

/-- The text of a set is that of an object with the record of each variable under its name, in the order of the set. -/
theorem ofText?_text (s : VariableSet) (layout : Json.Layout) :
    ∃ members, Tree.ofText? (s.toJson.text layout) = some (.object members) ∧
      List.Forall₂ Records members s.toList :=
  ⟨_, Tree.ofText?_text s.whole_toJson layout, records_toMemberTrees s.toList⟩

end VariableSet

/-- Each variable is read back from the text of its record; the text of a set is that of an object whose keys are the
names of the set, each once and in order, with records from which the variables are read back; and what was read from
any other form of a record is read again from the record that is written for it. -/
theorem Variable.records_read_back (layout : Json.Layout) :
    (∀ v : Variable, ofText? (v.toJson.text layout) = some v) ∧
    (∀ s : VariableSet, ∃ members, Tree.ofText? (s.toJson.text layout) = some (.object members) ∧
      members.map (fun m => Json.string? m.1) = s.names.map some ∧ s.names.Nodup ∧
      List.Forall₂ VariableSet.Records members s.toList) ∧
    (∀ text v, ofText? text = some v → ofText? (v.toJson.text layout) = some v) := by
  refine ⟨fun v => v.ofText?_text layout, fun s => ?_, fun _ v _ => v.ofText?_text layout⟩
  obtain ⟨members, htree, hrecords⟩ := s.ofText?_text layout
  refine ⟨members, htree, ?_, s.nodup_names, hrecords⟩
  have hkeys : List.Forall₂ (fun m v => Json.string? m.1 = some v.name) members s.toList :=
    hrecords.imp fun _ _ h => h.1
  rw [VariableSet.names, List.map_map, ← List.forall₂_eq_eq_eq]
  exact List.forall₂_map_left_iff.2 (List.forall₂_map_right_iff.2 hkeys)

/-- Records in other forms: with a member more and in another order, with the type as an object, and as an array. -/
theorem Variable.records_read_back_lenient :
    ofText? "\x7b\"more\": [1e999], \"value\": \"\\u0000\\\"\", \"type\": \x7b\"url\": null\x7d, \"name\": \"a\"\x7d" =
      some ⟨"a", .url, "\x00\""⟩ ∧
    ofText? "[\"b\", \"text\"]" = some ⟨"b", .text, ""⟩ ∧
    ofText? ((⟨"a", .url, "\x00\""⟩ : Variable).toJson.text .compact) = some ⟨"a", .url, "\x00\""⟩ ∧
    ofText? ((⟨"b", .text, ""⟩ : Variable).toJson.text .indented) = some ⟨"b", .text, ""⟩ := by
  have hobject : ofText?
      "\x7b\"more\": [1e999], \"value\": \"\\u0000\\\"\", \"type\": \x7b\"url\": null\x7d, \"name\": \"a\"\x7d" =
        some ⟨"a", .url, "\x00\""⟩ := by decide +kernel
  have harray : ofText? "[\"b\", \"text\"]" = some ⟨"b", .text, ""⟩ := by decide +kernel
  exact ⟨hobject, harray, (records_read_back .compact).2.2 _ _ hobject, (records_read_back .indented).2.2 _ _ harray⟩

end TypedTemplates
