/-!
# Splitting a text at a character

`splitAt?` splits at the first place where the character stands, `splitOn` at every one.
-/

namespace TypedTemplates.Text

/-- The characters before the first `mark` and those after it. -/
def splitAt? (mark : Char) : List Char → Option (List Char × List Char)
  | [] => none
  | c :: rest =>
    if c = mark then some ([], rest)
    else (splitAt? mark rest).map fun (before, after) => (c :: before, after)

/-- The parts between the places where `mark` stands. There is always one. -/
def splitOn (mark : Char) : List Char → List (List Char)
  | [] => [[]]
  | c :: rest =>
    if c = mark then [] :: splitOn mark rest
    else
      match splitOn mark rest with
      | part :: parts => (c :: part) :: parts
      | [] => [[c]]

theorem eq_of_splitAt? {mark : Char} {cs before after : List Char}
    (h : splitAt? mark cs = some (before, after)) : cs = before ++ mark :: after := by
  induction cs generalizing before with
  | nil => simp [splitAt?] at h
  | cons c rest ih =>
    unfold splitAt? at h
    split at h
    · next hc =>
      simp only [Option.some.injEq, Prod.mk.injEq] at h
      simp [← h.1, ← h.2, hc]
    · cases hr : splitAt? mark rest with
      | none => simp [hr] at h
      | some p =>
        simp only [hr, Option.map_some, Option.some.injEq, Prod.mk.injEq] at h
        rw [ih (show splitAt? mark rest = some (p.1, after) by rw [hr, ← h.2]), ← h.1]
        rfl

theorem splitOn_ne_nil (mark : Char) (cs : List Char) : splitOn mark cs ≠ [] := by
  cases cs with
  | nil => simp [splitOn]
  | cons c rest =>
    unfold splitOn
    split
    · simp
    · split <;> simp

end TypedTemplates.Text
