/-!
# Lists of pairs with keys

Pairs of a key and a value, kept in ascending order of their keys. `Keyed.insert` puts a pair at its place and
takes the place of a pair with the same key, so a list built by `Keyed.ofList` holds each key once, with the last
value given for it.
-/

namespace TypedTemplates

/-- Values under names. -/
abbrev Keyed (α : Type) := List (String × α)

namespace Keyed

variable {α : Type}

/-- The first value under the key. -/
def find? (key : String) : Keyed α → Option α
  | [] => none
  | (k, v) :: rest => if k = key then some v else find? key rest

/-- The pairs with the value under the key, at the place where the order of keys puts it. -/
def insert (key : String) (value : α) : Keyed α → Keyed α
  | [] => [(key, value)]
  | (k, v) :: rest =>
    if key < k then (key, value) :: (k, v) :: rest
    else if k = key then (key, value) :: rest
    else (k, v) :: insert key value rest

/-- The pairs without those of the key. -/
def erase (key : String) (pairs : Keyed α) : Keyed α :=
  pairs.filter fun p => p.1 ≠ key

/-- The pairs put one after the other into others. -/
def insertAll (pairs : List (String × α)) (others : Keyed α) : Keyed α :=
  pairs.foldl (fun acc p => insert p.1 p.2 acc) others

/-- The pairs in ascending order of keys; of two with one key the later counts. -/
def ofList (pairs : List (String × α)) : Keyed α :=
  insertAll pairs []

@[simp] theorem find?_nil (key : String) : find? key ([] : Keyed α) = none := rfl

theorem find?_eq_none_of_not_mem {key : String} {pairs : Keyed α} (h : key ∉ pairs.map (·.1)) :
    find? key pairs = none := by
  induction pairs with
  | nil => rfl
  | cons p rest ih =>
    simp only [List.map_cons, List.mem_cons, not_or] at h
    simp [find?, Ne.symm h.1, ih h.2]

theorem find?_insert_self (key : String) (value : α) (pairs : Keyed α) :
    find? key (insert key value pairs) = some value := by
  induction pairs with
  | nil => simp [insert, find?]
  | cons p rest ih =>
    unfold insert
    split
    · simp [find?]
    · split
      · simp [find?]
      · next h => simp [find?, h, ih]

theorem find?_insert_of_ne {key other : String} (value : α) (pairs : Keyed α) (h : key ≠ other) :
    find? other (insert key value pairs) = find? other pairs := by
  induction pairs with
  | nil => simp [insert, find?, h]
  | cons p rest ih =>
    unfold insert
    split
    · simp [find?, h]
    · split
      · next hk => simp [find?, hk, h]
      · simp only [find?, ih]

theorem find?_erase_of_ne {key other : String} (pairs : Keyed α) (h : key ≠ other) :
    find? other (erase key pairs) = find? other pairs := by
  induction pairs with
  | nil => rfl
  | cons p rest ih =>
    by_cases hk : p.1 = key
    · have : p.1 ≠ other := hk ▸ h
      simpa [erase, find?, hk, this, h] using ih
    · by_cases ho : p.1 = other
      · simp [erase, find?, ho, Ne.symm h]
      · simpa [erase, find?, hk, ho] using ih

private theorem find?_insertAll {key : String} {pairs : List (String × α)} (others : Keyed α)
    (h : (pairs.map (·.1)).Nodup) :
    find? key (insertAll pairs others) = (find? key pairs).or (find? key others) := by
  induction pairs generalizing others with
  | nil => rfl
  | cons p rest ih =>
    obtain ⟨hp, hrest⟩ := List.nodup_cons.1 h
    show find? key (insertAll rest (insert p.1 p.2 others)) = _
    rw [ih _ hrest]
    by_cases hk : p.1 = key
    · rw [← hk, find?_insert_self, find?_eq_none_of_not_mem hp]
      simp [find?]
    · simp [find?, hk, find?_insert_of_ne _ _ hk]

/-- Where no key occurs twice, order does not matter to a look-up. -/
theorem find?_ofList {key : String} {pairs : List (String × α)} (h : (pairs.map (·.1)).Nodup) :
    find? key (ofList pairs) = find? key pairs := by
  rw [ofList, find?_insertAll [] h]
  simp

end Keyed

end TypedTemplates
