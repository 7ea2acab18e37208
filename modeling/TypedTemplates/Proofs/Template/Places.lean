import TypedTemplates.Proofs.Template.Layout

/-!
# Where placeholders stand

The place of a placeholder is the text before it. The places of a layout give the offsets of its placeholders both in
characters (`Layout.fieldsFrom_eq`) and in bytes (`Layout.placeholdersFrom_eq`), and a number of bytes is that of one
text only among those with which a text can begin (`eq_of_byteLength_eq`). Placeholders are listed from the left
(`Layout.placesFrom_pairwise`).
-/

namespace TypedTemplates.Template

theorem byteLength_pos {cs : List Char} (h : cs ≠ []) : 0 < byteLength cs := by
  cases cs with
  | nil => exact absurd rfl h
  | cons c cs => exact Nat.add_pos_left c.utf8Size_pos _

/-- Two beginnings of a text that have equally many bytes are the same. -/
theorem eq_of_byteLength_eq {xs ys as bs : List Char} (h : xs ++ as = ys ++ bs)
    (hlength : byteLength xs = byteLength ys) : xs = ys := by
  induction xs generalizing ys with
  | nil =>
    by_contra hne
    have := byteLength_pos (Ne.symm hne)
    rw [byteLength] at hlength
    omega
  | cons x xs ih =>
    cases ys with
    | nil =>
      have := byteLength_pos (List.cons_ne_nil x xs)
      rw [hlength, byteLength] at this
      omega
    | cons y ys =>
      rw [List.cons_append, List.cons_append, List.cons.injEq] at h
      obtain ⟨rfl, h⟩ := h
      rw [byteLength, byteLength, Nat.add_left_cancel_iff] at hlength
      rw [ih h hlength]

namespace Layout

/-- The marks with the text before each, of a layout that `before` precedes. -/
def placesFrom (before : List Char) : Layout → List (List Char × Mark)
  | last _ => []
  | cons literal m rest => (before ++ literal, m) :: rest.placesFrom (before ++ literal ++ m.source)

theorem map_mark_placesFrom (before : List Char) (l : Layout) : (l.placesFrom before).map (·.2) = l.marks := by
  induction l generalizing before with
  | last literal => rfl
  | cons literal m rest ih => rw [placesFrom, List.map_cons, ih, marks]

theorem fieldsFrom_eq (before : List Char) (l : Layout) :
    l.fieldsFrom before.length = (l.placesFrom before).map fun p => (p.1.length, p.2.field) := by
  induction l generalizing before with
  | last literal => rfl
  | cons literal m rest ih =>
    have hrest := ih (before ++ literal ++ m.source)
    rw [List.length_append, List.length_append] at hrest
    rw [fieldsFrom, placesFrom, List.map_cons, List.length_append, hrest]

theorem placeholdersFrom_eq (before : List Char) (l : Layout) :
    l.placeholdersFrom (byteLength before) = (l.placesFrom before).map fun p =>
      ⟨p.2.field, byteLength p.1, byteLength p.1 + byteLength p.2.source⟩ := by
  induction l generalizing before with
  | last literal => rfl
  | cons literal m rest ih =>
    have hrest := ih (before ++ literal ++ m.source)
    rw [byteLength_append, byteLength_append] at hrest
    rw [placeholdersFrom, placesFrom, List.map_cons, byteLength_append, hrest]

/-- A mark stands in the text after its place. -/
theorem exists_source_eq_of_mem_placesFrom {before : List Char} {l : Layout} {p : List Char × Mark}
    (h : p ∈ l.placesFrom before) : ∃ after, before ++ l.source = p.1 ++ p.2.source ++ after := by
  induction l generalizing before with
  | last literal => simp [placesFrom] at h
  | cons literal m rest ih =>
    rw [placesFrom, List.mem_cons] at h
    rcases h with rfl | h
    · exact ⟨rest.source, by simp⟩
    · obtain ⟨after, hafter⟩ := ih h
      exact ⟨after, by rw [← hafter]; simp⟩

private theorem byteLength_le_of_mem_placesFrom {before : List Char} {l : Layout} {p : List Char × Mark}
    (h : p ∈ l.placesFrom before) : byteLength before ≤ byteLength p.1 := by
  induction l generalizing before with
  | last literal => simp [placesFrom] at h
  | cons literal m rest ih =>
    rw [placesFrom, List.mem_cons] at h
    rcases h with rfl | h
    · simp
    · have := ih h
      simp only [byteLength_append] at this
      omega

/-- Every place lies after the marks before it. -/
theorem placesFrom_pairwise_le (before : List Char) (l : Layout) :
    (l.placesFrom before).Pairwise fun p q => byteLength p.1 + byteLength p.2.source ≤ byteLength q.1 := by
  induction l generalizing before with
  | last literal => exact List.Pairwise.nil
  | cons literal m rest ih =>
    rw [placesFrom, List.pairwise_cons]
    refine ⟨?_, ih _⟩
    intro q hq
    have hle := byteLength_le_of_mem_placesFrom hq
    rwa [byteLength_append] at hle

theorem placesFrom_pairwise (before : List Char) (l : Layout) :
    (l.placesFrom before).Pairwise fun p q => byteLength p.1 < byteLength q.1 := by
  refine (placesFrom_pairwise_le before l).imp fun {p q} hle => ?_
  have hpos : 0 < byteLength p.2.source := byteLength_pos (List.cons_ne_nil _ _)
  exact Nat.lt_of_lt_of_le (Nat.lt_add_of_pos_right hpos) hle

end Layout

/-- The placeholders of a text, read off the places of its layout. -/
theorem placeholders_eq (template : String) :
    placeholders template = ((Layout.of template.toList).placesFrom []).map fun p =>
      ⟨p.2.field, byteLength p.1, byteLength p.1 + byteLength p.2.source⟩ := by
  rw [← Layout.placeholders_of]
  exact Layout.placeholdersFrom_eq [] _

end TypedTemplates.Template
