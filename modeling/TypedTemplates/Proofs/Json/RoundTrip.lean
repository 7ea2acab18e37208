import TypedTemplates.Proofs.Json.Whole

/-!
# Reading values back

A whole value is read back from either of its texts: the reader takes exactly the text of the value
(`Value.Whole.readsBack`) and finds the tree that was written (`Tree.ofText?_text`), whose meaning is the value
(`Value.Whole.value?_toTree`). A document that is no deeper than a reader admits gives the value with its members in
order (`Value.ofText?_text`).
-/

namespace TypedTemplates.Json

/-! ### The text of a value -/

theorem skipSeparators_lineBreak (layout : Layout) (depth : Nat) (cs : List Char) :
    skipSeparators (layout.lineBreak depth ++ cs) = skipSeparators cs := by
  cases layout with
  | compact => rfl
  | indented =>
    show skipSeparators (List.replicate (2 * depth) ' ' ++ cs) = skipSeparators cs
    induction 2 * depth with
    | zero => rfl
    | succ n ih => exact ih

theorem readTree_congr {cs cs' : List Char} (h : skipSeparators cs = skipSeparators cs') (fuel : Nat) :
    readTree fuel cs = readTree fuel cs' := by
  cases fuel with
  | zero => rfl
  | succ fuel => rw [readTree, readTree, h]

theorem readItems_congr {cs cs' : List Char} (h : skipSeparators cs = skipSeparators cs') (fuel : Nat) :
    readItems fuel cs = readItems fuel cs' := by
  cases fuel with
  | zero => rfl
  | succ fuel => rw [readItems, readItems, readTree_congr h]

theorem readMembers_congr {cs cs' : List Char} (h : skipSeparators cs = skipSeparators cs') (fuel : Nat) :
    readMembers fuel cs = readMembers fuel cs' := by
  have hmember : ∀ fuel, readMember fuel cs = readMember fuel cs' := by
    intro fuel
    cases fuel with
    | zero => rfl
    | succ fuel => rw [readMember, readMember, h]
  cases fuel with
  | zero => rfl
  | succ fuel => rw [readMembers, readMembers, hmember]

theorem endsValue_lineBreak (layout : Layout) (depth : Nat) {c : Char} {rest : List Char}
    (h : c ∈ [',', ']', '}', '\n']) : EndsValue (layout.lineBreak depth ++ c :: rest) := by
  cases layout with
  | compact => exact endsValue_cons h
  | indented => exact endsValue_cons (by simp)

/-- A value is read back from its text, wherever the text stands and whatever follows the value there. -/
def Value.ReadsBack (v : Value) : Prop :=
  ∀ (layout : Layout) (depth fuel : Nat) (rest : List Char), 4 * (v.write layout depth).length < fuel →
    EndsValue rest → readTree fuel (v.write layout depth ++ rest) = some (v.toTree, rest)

theorem Number.IsWhole.readTree_text {n : Number} (h : n.IsWhole) (fuel : Nat) {rest : List Char}
    (hrest : EndsValue rest) : readTree (fuel + 1) (n.text ++ rest) = some (.number n.literal, rest) := by
  have hdispatch : ∀ c ∈ ['-', '0', '1', '2', '3', '4', '5', '6', '7', '8', '9'], ∀ cs,
      readTree (fuel + 1) (c :: cs) = (readNumber (c :: cs)).map fun read => (.number read.1, read.2) := by
    simp only [List.mem_cons, List.not_mem_nil, or_false]
    rintro c (rfl | rfl | rfl | rfl | rfl | rfl | rfl | rfl | rfl | rfl | rfl) cs <;> rfl
  obtain ⟨c, cs, hc, htext⟩ := h.exists_text_eq_cons
  have hread := h.readNumber_text hrest
  rw [htext, List.cons_append] at hread ⊢
  rw [hdispatch c hc, hread]
  rfl

/-- The items of an array are read back up to its closing bracket. -/
theorem readItems_write {v : Value} {vs : List Value} (h : ∀ w ∈ v :: vs, w.ReadsBack) (layout : Layout)
    (depth outer : Nat) (rest : List Char) {fuel : Nat}
    (hfuel : 4 * ((v.write layout depth).length + (Value.writeItems layout depth vs).length) + 1 < fuel) :
    readItems fuel (v.write layout depth ++ (Value.writeItems layout depth vs ++
      (layout.lineBreak outer ++ ']' :: rest))) = some (v.toTree :: Value.toTrees vs, rest) := by
  obtain ⟨hv, hvs⟩ := List.forall_mem_cons.1 h
  induction vs generalizing v fuel with
  | nil =>
    obtain ⟨fuel, rfl⟩ : ∃ k, fuel = k + 1 := ⟨fuel - 1, by omega⟩
    rw [readItems, Value.writeItems, List.nil_append,
      hv layout depth fuel _ (by omega) (endsValue_lineBreak layout outer (by simp))]
    simp only [skipSeparators_lineBreak]
    rfl
  | cons w ws ih =>
    obtain ⟨fuel, rfl⟩ : ∃ k, fuel = k + 1 := ⟨fuel - 1, by omega⟩
    obtain ⟨hw, hws⟩ := List.forall_mem_cons.1 hvs
    simp only [Value.writeItems, List.length_cons, List.length_append] at hfuel
    have hless : 4 * ((w.write layout depth).length + (Value.writeItems layout depth ws).length) + 1 < fuel := by
      omega
    have hrest := ih hvs hless hw hws
    rw [readItems, Value.writeItems]
    simp only [List.cons_append, List.append_assoc]
    rw [hv layout depth fuel _ (by omega) (endsValue_cons (by simp))]
    show (readItems fuel _).map _ = _
    rw [readItems_congr (skipSeparators_lineBreak layout depth _), hrest]
    rfl

/-- An array that has been opened is not taken for an empty one if items follow. -/
theorem skipSeparators_ne_close {fuel : Nat} {cs : List Char} {r : List Tree × List Char}
    (h : readItems fuel cs = some r) (rest : List Char) : skipSeparators cs ≠ ']' :: rest := by
  intro hclose
  have hnone : ∀ fuel, readTree fuel (']' :: rest) = none := by
    intro fuel
    cases fuel <;> rfl
  have hskip : skipSeparators cs = skipSeparators (']' :: rest) := hclose
  rw [readItems_congr hskip] at h
  cases fuel with
  | zero => cases h
  | succ fuel =>
    rw [readItems, hnone] at h
    cases h

theorem readMember_write {k : String} {v : Value} (h : v.ReadsBack) (layout : Layout) (depth : Nat)
    {rest : List Char} (hrest : EndsValue rest) {fuel : Nat}
    (hfuel : 4 * ((literal k).length + (v.write layout depth).length) < fuel) :
    readMember fuel (literal k ++ (layout.colon ++ (v.write layout depth ++ rest))) =
      some ((symbols k, v.toTree), rest) := by
  obtain ⟨fuel, rfl⟩ : ∃ k, fuel = k + 1 := ⟨fuel - 1, by omega⟩
  have hlength : (literal k).length = (k.toList.flatMap escaped).length + 2 := by simp [literal]
  have hvalue := h layout depth fuel rest (by omega) hrest
  have hquote : literal k ++ (layout.colon ++ (v.write layout depth ++ rest)) =
      '"' :: (k.toList.flatMap escaped ++ '"' :: (layout.colon ++ (v.write layout depth ++ rest))) := by
    simp [literal]
  rw [hquote, readMember]
  have hopen : ∀ cs, skipSeparators ('"' :: cs) = '"' :: cs := fun _ => rfl
  simp only [hopen, readString_literal]
  cases layout with
  | compact =>
    show (readTree fuel (v.write .compact depth ++ rest)).map _ = _
    rw [hvalue]
    rfl
  | indented =>
    have hblank : skipSeparators (' ' :: (v.write .indented depth ++ rest)) =
        skipSeparators (v.write .indented depth ++ rest) := rfl
    show (readTree fuel (' ' :: (v.write .indented depth ++ rest))).map _ = _
    rw [readTree_congr hblank, hvalue]
    rfl

/-- The members of an object are read back up to its closing brace. -/
theorem readMembers_write {k : String} {v : Value} {ms : List (String × Value)} (hv : v.ReadsBack)
    (h : ∀ m ∈ ms, m.2.ReadsBack) (layout : Layout) (depth outer : Nat) (rest : List Char) {fuel : Nat}
    (hfuel : 4 * ((literal k).length + (v.write layout depth).length +
      (Value.writeMembers layout depth ms).length) + 1 < fuel) :
    readMembers fuel (literal k ++ (layout.colon ++ (v.write layout depth ++
      (Value.writeMembers layout depth ms ++ (layout.lineBreak outer ++ '}' :: rest))))) =
      some ((symbols k, v.toTree) :: Value.toMemberTrees ms, rest) := by
  induction ms generalizing k v fuel with
  | nil =>
    obtain ⟨fuel, rfl⟩ : ∃ k, fuel = k + 1 := ⟨fuel - 1, by omega⟩
    rw [readMembers, Value.writeMembers, List.nil_append,
      readMember_write hv layout depth (endsValue_lineBreak layout outer (by simp)) (by omega)]
    simp only [skipSeparators_lineBreak]
    rfl
  | cons m ms ih =>
    obtain ⟨fuel, rfl⟩ : ∃ k, fuel = k + 1 := ⟨fuel - 1, by omega⟩
    obtain ⟨hm, hms⟩ := List.forall_mem_cons.1 h
    simp only [Value.writeMembers, List.length_cons, List.length_append] at hfuel
    have hless : 4 * ((literal m.1).length + (m.2.write layout depth).length +
        (Value.writeMembers layout depth ms).length) + 1 < fuel := by
      omega
    have hrest := ih hm hms hless
    rw [readMembers, Value.writeMembers]
    simp only [List.cons_append, List.append_assoc]
    rw [readMember_write hv layout depth (endsValue_cons (by simp)) (by omega)]
    show (readMembers fuel _).map _ = _
    rw [readMembers_congr (skipSeparators_lineBreak layout depth _), hrest]
    rfl

/-! ### Whole values -/

theorem Value.readsBack_string (s : String) : (Value.string s).ReadsBack := by
  intro layout depth fuel rest hfuel _
  obtain ⟨fuel, rfl⟩ : ∃ k, fuel = k + 1 := ⟨fuel - 1, by omega⟩
  have htext : (Value.string s).write layout depth ++ rest = '"' :: (s.toList.flatMap escaped ++ '"' :: rest) := by
    simp [Value.write, literal]
  rw [htext]
  show (readString _).map _ = _
  rw [readString_literal]
  rfl

theorem Value.readsBack_array {items : List Value} (h : ∀ v ∈ items, v.ReadsBack) : (Value.array items).ReadsBack := by
  intro layout depth fuel rest hfuel _
  obtain ⟨fuel, rfl⟩ : ∃ k, fuel = k + 1 := ⟨fuel - 1, by omega⟩
  cases items with
  | nil => rfl
  | cons v vs =>
    simp only [Value.write, List.length_cons, List.length_append, List.length_nil] at hfuel
    have hless : 4 * ((v.write layout (depth + 1)).length +
        (Value.writeItems layout (depth + 1) vs).length) + 1 < fuel := by
      omega
    have hitems := readItems_write h layout (depth + 1) depth rest hless
    have hopen := skipSeparators_ne_close hitems
    have hbracket : ∀ cs, skipSeparators ('[' :: cs) = '[' :: cs := fun _ => rfl
    simp only [Value.write, List.cons_append, List.append_assoc, List.nil_append]
    rw [readTree]
    -- the array is not taken for an empty one, by `hopen`
    simp only [hbracket, skipSeparators_lineBreak]
    rw [readItems_congr (skipSeparators_lineBreak layout (depth + 1) _), hitems]
    rfl

theorem Value.readsBack_object {members : List (String × Value)} (h : ∀ m ∈ members, m.2.ReadsBack) :
    (Value.object members).ReadsBack := by
  intro layout depth fuel rest hfuel _
  obtain ⟨fuel, rfl⟩ : ∃ k, fuel = k + 1 := ⟨fuel - 1, by omega⟩
  cases members with
  | nil => rfl
  | cons m ms =>
    obtain ⟨hm, hms⟩ := List.forall_mem_cons.1 h
    simp only [Value.write, List.length_cons, List.length_append, List.length_nil] at hfuel
    have hless : 4 * ((literal m.1).length + (m.2.write layout (depth + 1)).length +
        (Value.writeMembers layout (depth + 1) ms).length) + 1 < fuel := by
      omega
    have hmembers := readMembers_write hm hms layout (depth + 1) depth rest hless
    have hquote : skipSeparators (layout.lineBreak (depth + 1) ++ (literal m.1 ++ (layout.colon ++
        (m.2.write layout (depth + 1) ++ (Value.writeMembers layout (depth + 1) ms ++
          (layout.lineBreak depth ++ '}' :: rest)))))) = literal m.1 ++ (layout.colon ++
        (m.2.write layout (depth + 1) ++ (Value.writeMembers layout (depth + 1) ms ++
          (layout.lineBreak depth ++ '}' :: rest)))) := by
      rw [skipSeparators_lineBreak]
      rfl
    have hbrace : ∀ cs, skipSeparators ('{' :: cs) = '{' :: cs := fun _ => rfl
    simp only [Value.write, List.cons_append, List.append_assoc, List.nil_append]
    rw [readTree]
    simp only [hbrace, hquote]
    show (readMembers fuel _).map _ = _
    rw [readMembers_congr (skipSeparators_lineBreak layout (depth + 1) _), hmembers]
    rfl

theorem Value.Whole.readsBack {v : Value} (h : v.Whole) : v.ReadsBack := by
  induction h with
  | null =>
    intro layout depth fuel rest hfuel _
    obtain ⟨fuel, rfl⟩ : ∃ k, fuel = k + 1 := ⟨fuel - 1, by omega⟩
    rfl
  | bool b =>
    intro layout depth fuel rest hfuel _
    obtain ⟨fuel, rfl⟩ : ∃ k, fuel = k + 1 := ⟨fuel - 1, by omega⟩
    cases b <;> rfl
  | number h =>
    intro layout depth fuel rest hfuel hrest
    obtain ⟨fuel, rfl⟩ : ∃ k, fuel = k + 1 := ⟨fuel - 1, by omega⟩
    exact h.readTree_text fuel hrest
  | string s => exact Value.readsBack_string s
  | array _ ih => exact Value.readsBack_array ih
  | object _ ih => exact Value.readsBack_object ih

theorem values?_toTrees {items : List Value} (h : ∀ v ∈ items, v.toTree.value? = some v) :
    Tree.values? (Value.toTrees items) = some items := by
  induction items with
  | nil => rfl
  | cons v vs ih =>
    obtain ⟨hv, hvs⟩ := List.forall_mem_cons.1 h
    rw [Value.toTrees, Tree.values?, hv, ih hvs]

theorem members?_toMemberTrees {members : List (String × Value)} (h : ∀ m ∈ members, m.2.toTree.value? = some m.2) :
    Tree.members? (Value.toMemberTrees members) = some members := by
  induction members with
  | nil => rfl
  | cons m ms ih =>
    obtain ⟨hm, hms⟩ := List.forall_mem_cons.1 h
    rw [Value.toMemberTrees, Tree.members?, string?_symbols, hm, ih hms]

/-- The tree that is written for a whole value means that value. -/
theorem Value.Whole.value?_toTree {v : Value} (h : v.Whole) : v.toTree.value? = some v := by
  induction h with
  | null | bool _ => rfl
  | number h => simp [Value.toTree, Tree.value?, h.number?_literal]
  | string s => simp [Value.toTree, Tree.value?, string?_symbols]
  | array _ ih => rw [Value.toTree, Tree.value?, values?_toTrees ih, Option.map_some]
  | object _ ih => rw [Value.toTree, Tree.value?, members?_toMemberTrees ih, Option.map_some]

/-- The text of a whole value has the tree that was written. -/
theorem Tree.ofText?_text {v : Value} (h : v.Whole) (layout : Layout) : Tree.ofText? (v.text layout) = some v.toTree := by
  have hlength : (v.text layout).length = (v.write layout 0).length := by
    rw [Value.text, String.length_ofList]
  have hread := h.readsBack layout 0 (4 * (v.text layout).length + 4) [] (by omega) endsValue_nil
  rw [Tree.ofText?, Value.text, String.toList_ofList, ← Value.text]
  rw [List.append_nil] at hread
  rw [hread]
  rfl

/-- A whole value that is not nested too deep is the value of its text, up to the order of members. -/
theorem Value.ofText?_text {v : Value} (h : v.Whole) (hdepth : v.depth ≤ maxDepth) (layout : Layout) :
    Value.ofText? (v.text layout) = some v.sorted := by
  have hfits : v.toTree.depth ≤ maxDepth := hdepth
  rw [Value.ofText?, Tree.ofText?_text h]
  simp only [hfits, if_true, h.value?_toTree, Option.map_some]

/-- The value of a document has its members in order and is not nested too deep. -/
theorem Value.of_ofText? {text : String} {v : Value} (h : Value.ofText? text = some v) :
    v.sorted = v ∧ v.depth ≤ maxDepth := by
  unfold Value.ofText? at h
  split at h
  · next t _ =>
    split at h
    · next hdepth =>
      obtain ⟨w, hw, rfl⟩ := Option.map_eq_some_iff.1 h
      rw [← Value.depth_of_value? hw] at hdepth
      exact ⟨w.sorted_sorted, Value.depth_sorted_le hdepth⟩
    · cases h
  · cases h

end TypedTemplates.Json
