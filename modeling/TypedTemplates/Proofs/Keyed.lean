import TypedTemplates.Keyed

/-!
# Pairs in ascending order

Pairs that are built by `Keyed.insert` stand in strictly ascending order of their keys (`ascending_ofList`), and
pairs in that order are built back as they are (`Ascending.ofList_eq`). Erasing a key undoes what was inserted
under it (`erase_insert_self`).
-/

namespace TypedTemplates.Keyed

variable {α β : Type}

/-- The keys stand in strictly ascending order, so that none occurs twice. -/
def Ascending (pairs : Keyed α) : Prop :=
  pairs.Pairwise fun p q => p.1 < q.1

private theorem lt_of_not_lt_of_ne {s t : String} (h : ¬s < t) (hne : t ≠ s) : t < s := by
  rw [String.not_lt] at h
  rw [← String.not_le]
  exact fun h' => hne (String.le_antisymm h h')

theorem mem_insert {key : String} {value : α} {pairs : Keyed α} {p : String × α}
    (h : p ∈ insert key value pairs) : p = (key, value) ∨ p ∈ pairs := by
  induction pairs with
  | nil => simpa [insert] using h
  | cons q rest ih =>
    unfold insert at h
    split at h
    · simpa using h
    · split at h
      · rcases List.mem_cons.1 h with rfl | h
        · exact Or.inl rfl
        · exact Or.inr (List.mem_cons_of_mem _ h)
      · rcases List.mem_cons.1 h with rfl | h
        · exact Or.inr List.mem_cons_self
        · exact (ih h).imp_right (List.mem_cons_of_mem _)

theorem Ascending.insert {pairs : Keyed α} (h : Ascending pairs) (key : String) (value : α) :
    Ascending (insert key value pairs) := by
  induction pairs with
  | nil => simp [Keyed.insert, Ascending]
  | cons q rest ih =>
    obtain ⟨hq, hrest⟩ := List.pairwise_cons.1 h
    unfold Keyed.insert
    split
    · next hlt =>
      refine List.pairwise_cons.2 ⟨?_, h⟩
      intro p hp
      rcases List.mem_cons.1 hp with rfl | hp
      · exact hlt
      · exact String.lt_trans hlt (hq p hp)
    · next hlt =>
      split
      · next he => exact List.pairwise_cons.2 ⟨fun p hp => he ▸ hq p hp, hrest⟩
      · next hne =>
        refine List.pairwise_cons.2 ⟨?_, ih hrest⟩
        intro p hp
        rcases mem_insert hp with rfl | hp
        · exact lt_of_not_lt_of_ne hlt hne
        · exact hq p hp

theorem Ascending.insertAll {others : Keyed α} (h : Ascending others) (pairs : List (String × α)) :
    Ascending (insertAll pairs others) := by
  induction pairs generalizing others with
  | nil => exact h
  | cons p rest ih => exact ih (h.insert p.1 p.2)

theorem ascending_ofList (pairs : List (String × α)) : Ascending (ofList pairs) :=
  Ascending.insertAll List.Pairwise.nil pairs

theorem Ascending.erase {pairs : Keyed α} (h : Ascending pairs) (key : String) : Ascending (erase key pairs) :=
  h.sublist List.filter_sublist

theorem mem_of_mem_erase {key : String} {pairs : Keyed α} {p : String × α} (h : p ∈ erase key pairs) : p ∈ pairs :=
  (List.mem_filter.1 h).1

theorem mem_of_mem_insertAll {pairs : List (String × α)} {others : Keyed α} {p : String × α}
    (h : p ∈ insertAll pairs others) : p ∈ pairs ∨ p ∈ others := by
  induction pairs generalizing others with
  | nil => exact Or.inr h
  | cons q rest ih =>
    rcases ih h with h | h
    · exact Or.inl (List.mem_cons_of_mem _ h)
    · rcases mem_insert h with rfl | h
      · exact Or.inl List.mem_cons_self
      · exact Or.inr h

theorem mem_of_mem_ofList {pairs : List (String × α)} {p : String × α} (h : p ∈ ofList pairs) : p ∈ pairs := by
  rcases mem_of_mem_insertAll h with h | h
  · exact h
  · cases h

private theorem insert_eq_concat {key : String} {pairs : Keyed α} (value : α) (h : ∀ p ∈ pairs, p.1 < key) :
    insert key value pairs = pairs ++ [(key, value)] := by
  induction pairs with
  | nil => rfl
  | cons q rest ih =>
    obtain ⟨hq, hrest⟩ := List.forall_mem_cons.1 h
    have hne : q.1 ≠ key := fun he => String.lt_irrefl _ (he ▸ hq)
    simp [insert, String.lt_asymm hq, hne, ih hrest]

private theorem insertAll_eq_append {pairs : List (String × α)} {others : Keyed α} (h : Ascending (others ++ pairs)) :
    insertAll pairs others = others ++ pairs := by
  induction pairs generalizing others with
  | nil => simp [insertAll]
  | cons p rest ih =>
    have hp : ∀ q ∈ others, q.1 < p.1 := by
      intro q hq
      exact (List.pairwise_append.1 h).2.2 q hq p List.mem_cons_self
    have hrest : Ascending ((others ++ [p]) ++ rest) := by simpa using h
    show insertAll rest (insert p.1 p.2 others) = _
    rw [insert_eq_concat p.2 hp, ih hrest]
    simp

/-- Pairs that stand in ascending order are left as they are. -/
theorem Ascending.ofList_eq {pairs : Keyed α} (h : Ascending pairs) : ofList pairs = pairs := by
  have h' : Ascending ([] ++ pairs) := h
  exact insertAll_eq_append h'

theorem erase_insert_self (key : String) (value : α) (pairs : Keyed α) :
    erase key (insert key value pairs) = erase key pairs := by
  induction pairs with
  | nil => simp [insert, erase]
  | cons q rest ih =>
    unfold insert
    split
    · simp [erase]
    · split
      · next he => simp [erase, he]
      · next hne => simpa [erase, hne] using ih

theorem erase_erase_self (key : String) (pairs : Keyed α) : erase key (erase key pairs) = erase key pairs := by
  simp [erase, List.filter_filter]

theorem map_insert (f : α → β) (key : String) (value : α) (pairs : Keyed α) :
    (insert key value pairs).map (fun p => (p.1, f p.2)) = insert key (f value) (pairs.map fun p => (p.1, f p.2)) := by
  induction pairs with
  | nil => rfl
  | cons q rest ih =>
    simp only [insert, List.map_cons]
    split
    · rfl
    · split
      · rfl
      · rw [List.map_cons, ih]

/-- Values may be changed before or after the pairs are put in order. -/
theorem map_ofList (f : α → β) (pairs : List (String × α)) :
    (ofList pairs).map (fun p => (p.1, f p.2)) = ofList (pairs.map fun p => (p.1, f p.2)) := by
  have h : ∀ others : Keyed α, (insertAll pairs others).map (fun p => (p.1, f p.2)) =
      insertAll (pairs.map fun p => (p.1, f p.2)) (others.map fun p => (p.1, f p.2)) := by
    induction pairs with
    | nil => exact fun _ => rfl
    | cons p rest ih =>
      intro others
      rw [List.map_cons]
      show (insertAll rest (insert p.1 p.2 others)).map _ = insertAll _ (insert p.1 (f p.2) _)
      rw [ih, map_insert]
  exact h []

end TypedTemplates.Keyed
