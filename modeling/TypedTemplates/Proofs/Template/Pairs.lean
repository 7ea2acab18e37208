import TypedTemplates.Template.Declaration

/-!
# Pairs of braces

`HasPair c cs` says that `c` stands twice in a row in `cs`. The functions that look for pairs are described
by it: `hasOpening`, the nearest closing pair (`closing?_append`, `closing?_eq_none_iff`) and the number of
pairs counted without overlap. That number is additive at every place where no pair is cut
(`countPairs_append`), and so is the search for stray openings (`hasStrayOpening_append`).
-/

namespace TypedTemplates.Template

/-- The character stands twice in a row somewhere in the text. -/
def HasPair (c : Char) (cs : List Char) : Prop :=
  [c, c] <:+: cs

@[simp] theorem not_hasPair_nil (c : Char) : ¬ HasPair c [] := by
  simp [HasPair]

theorem hasPair_cons {c a : Char} {cs : List Char} :
    HasPair c (a :: cs) ↔ (a = c ∧ cs.head? = some c) ∨ HasPair c cs := by
  unfold HasPair
  rw [List.infix_cons_iff, List.cons_prefix_cons, eq_comm]
  cases cs with
  | nil => simp
  | cons b cs => simp [eq_comm (a := c)]

theorem hasPair_append {c : Char} {xs ys : List Char} :
    HasPair c (xs ++ ys) ↔ HasPair c xs ∨ HasPair c ys ∨ (xs.getLast? = some c ∧ ys.head? = some c) := by
  induction xs with
  | nil => simp
  | cons a xs ih =>
    rw [List.cons_append, hasPair_cons, hasPair_cons, ih]
    cases xs with
    | nil => simp [or_comm]
    | cons b xs => simp [or_assoc]

theorem not_hasPair_of_not_mem {c : Char} {cs : List Char} (h : c ∉ cs) : ¬ HasPair c cs :=
  fun hp => h (hp.subset (by simp))

theorem hasOpening_eq_true_iff {cs : List Char} : hasOpening cs = true ↔ HasPair '{' cs := by
  induction cs with
  | nil => simp [hasOpening]
  | cons c rest ih => simp [hasOpening, hasPair_cons, ih]

/-! ### The nearest closing pair -/

theorem closing?_append {body : List Char} (after : List Char) (hb : ¬ HasPair '}' body)
    (hl : body.getLast? ≠ some '}') : closing? (body ++ '}' :: '}' :: after) = some (body, after) := by
  induction body with
  | nil => simp [closing?]
  | cons c body ih =>
    rw [hasPair_cons, not_or] at hb
    have hl' : body.getLast? ≠ some '}' := by
      cases body <;> simp_all
    rw [List.cons_append, closing?, ih hb.2 hl']
    · rfl
    · rintro rest rfl hr
      cases body <;> simp_all

theorem closing?_eq_some_iff {cs body after : List Char} :
    closing? cs = some (body, after) ↔
      cs = body ++ '}' :: '}' :: after ∧ ¬ HasPair '}' body ∧ body.getLast? ≠ some '}' := by
  constructor
  · intro h
    refine ⟨eq_of_closing? h, ?_⟩
    fun_induction closing? cs generalizing body with
    | case1 => simp_all
    | case2 c rest hc ih =>
      obtain ⟨split, hsplit, heq⟩ := Option.map_eq_some_iff.1 h
      simp only [Prod.mk.injEq] at heq
      obtain ⟨rfl, rfl⟩ := heq
      obtain ⟨hb, hl⟩ := ih hsplit
      have hrest := eq_of_closing? hsplit
      -- a pair that `c` makes with the next brace would itself be the nearest closing pair
      constructor
      · rw [hasPair_cons, not_or]
        refine ⟨?_, hb⟩
        rintro ⟨rfl, hh⟩
        cases hs : split.1 with
        | nil => simp [hs] at hh
        | cons d body =>
          simp only [hs, List.head?_cons, Option.some.injEq] at hh
          exact hc _ rfl (by rw [hrest, hs, hh]; rfl)
      · cases hs : split.1 with
        | nil =>
          simp only [List.getLast?_singleton, ne_eq, Option.some.injEq]
          rintro rfl
          exact hc _ rfl (by rw [hrest, hs]; rfl)
        | cons d body => simpa [hs] using hl
    | case3 => simp at h
  · rintro ⟨rfl, hb, hl⟩
    exact closing?_append after hb hl

theorem closing?_eq_none_iff {cs : List Char} : closing? cs = none ↔ ¬ HasPair '}' cs := by
  fun_induction closing? cs with
  | case1 => simp [hasPair_cons]
  | case2 c rest hc ih =>
    rw [Option.map_eq_none_iff, ih, hasPair_cons, not_or]
    refine ⟨fun h => ⟨?_, h⟩, fun h => h.2⟩
    rintro ⟨rfl, hh⟩
    cases rest with
    | nil => simp at hh
    | cons d rest => exact hc rest rfl (by simpa using hh)
  | case3 => simp

/-! ### Counting -/

theorem countPairs_cons_of_not_pair {c a : Char} {cs : List Char} (h : a = c → cs.head? ≠ some c) :
    countPairs c (a :: cs) = countPairs c cs := by
  cases cs with
  | nil => simp [countPairs]
  | cons b cs =>
    rw [countPairs, if_neg]
    rintro ⟨ha, rfl⟩
    exact h ha rfl

theorem countPairs_pair (c : Char) (cs : List Char) : countPairs c (c :: c :: cs) = countPairs c cs + 1 := by
  simp [countPairs]

/-- Where no pair is cut, the pairs of the two parts add up. -/
theorem countPairs_append {c : Char} {xs : List Char} (ys : List Char)
    (h : xs.getLast? = some c → ys.head? ≠ some c) :
    countPairs c (xs ++ ys) = countPairs c xs + countPairs c ys := by
  fun_induction countPairs c xs with
  | case1 a b rest hab ih =>
    -- the pair is counted and its braces are used up, so only the end of what follows matters
    obtain ⟨rfl, rfl⟩ := hab
    have hr : rest.getLast? = some b → ys.head? ≠ some b := by
      intro hl
      exact h (by cases rest <;> simp_all)
    rw [List.cons_append, List.cons_append, countPairs_pair, ih hr]
    omega
  | case2 a b rest hab ih =>
    have hstep : a = c → ((b :: rest) ++ ys).head? ≠ some c := by
      rintro ha hb
      exact hab ⟨ha, by simpa using hb⟩
    rw [List.cons_append, countPairs_cons_of_not_pair hstep, ih (by simpa using h)]
  | case3 xs hx =>
    match xs, hx with
    | [], _ => simp
    | [a], _ =>
      rw [List.singleton_append, countPairs_cons_of_not_pair (by simpa using h)]
      simp
    | a :: b :: rest, hx => exact absurd rfl (hx a b rest)

theorem countPairs_eq_zero_iff {c : Char} {cs : List Char} : countPairs c cs = 0 ↔ ¬ HasPair c cs := by
  fun_induction countPairs c cs with
  | case1 a b rest hab ih => simp [hab, hasPair_cons]
  | case2 a b rest hab ih =>
    rw [ih, hasPair_cons (a := a)]
    simp only [List.head?_cons, Option.some.injEq, hab, false_or]
  | case3 xs hx =>
    match xs, hx with
    | [], _ => simp
    | [a], _ => simp [hasPair_cons]
    | a :: b :: rest, hx => exact absurd rfl (hx a b rest)

/-! ### Stray openings -/

theorem hasStrayOpening_cons_of_not_pair {a : Char} {cs : List Char} (h : a = '{' → cs.head? ≠ some '{') :
    hasStrayOpening (a :: cs) = hasStrayOpening cs := by
  rw [hasStrayOpening]
  rintro rest rfl rfl
  exact h rfl rfl

/-- A text without a pair of opening braces, that none overlaps at its end, has no part in a stray opening.
-/
theorem hasStrayOpening_append {xs : List Char} (ys : List Char) (hx : ¬ HasPair '{' xs)
    (h : xs.getLast? = some '{' → ys.head? ≠ some '{') :
    hasStrayOpening (xs ++ ys) = hasStrayOpening ys := by
  induction xs with
  | nil => rfl
  | cons a xs ih =>
    rw [hasPair_cons, not_or] at hx
    rw [List.cons_append, hasStrayOpening_cons_of_not_pair]
    · refine ih hx.2 fun hl => h ?_
      cases xs <;> simp_all
    · rintro rfl
      cases xs <;> simp_all

end TypedTemplates.Template
