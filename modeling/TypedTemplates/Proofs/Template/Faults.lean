import TypedTemplates.Proofs.Template.Declared
import TypedTemplates.Proofs.Template.Checks
import TypedTemplates.Proofs.Template.Places

/-!
# The fault that is reported

The checks of a template are a search from the left that stops early, but which of them fails first can be said of the
whole text: of its pairs of braces, of all places where two opening braces stand (`HasStray`), and of the type words of
its placeholders. `hasStrayOpening_iff` and `field?_isSome_iff` say what the search looks for. A text that passes the
first two checks is at fault only if a placeholder names no type (`parse_of_passes`), and then the first such one is
reported, with the number of characters before it.
-/

namespace TypedTemplates

theorem Text.trim_eq_nil_iff {cs : List Char} : Text.trim cs = [] ↔ ∀ c ∈ cs, Text.isBlank c = true := by
  rw [← List.dropWhile_eq_nil_iff, Text.trim, List.reverse_eq_nil_iff, List.dropWhile_eq_nil_iff]
  constructor
  · intro h
    by_contra hne
    -- the first character that is left is not blank
    have hhead := List.head_dropWhile_not Text.isBlank hne
    rw [h _ (List.mem_reverse.2 (List.head_mem hne))] at hhead
    cases hhead
  · intro h
    simp [h]

theorem Text.trim_ne_nil_iff {cs : List Char} : Text.trim cs ≠ [] ↔ ∃ c ∈ cs, Text.isBlank c = false := by
  simp [Text.trim_eq_nil_iff]

namespace Template

open Text (isBlank)

/-! ### Stray openings -/

/-- The text between the braces of a placeholder: it has no two opening braces in a row, and its first bar stands
between two texts that are not blank, the second of which has no closing brace. -/
def IsInterior (body : List Char) : Prop :=
  ¬ HasPair '{' body ∧ ∃ name token, body = name ++ '|' :: token ∧ '|' ∉ name ∧ (∃ c ∈ name, isBlank c = false) ∧
    (∃ c ∈ token, isBlank c = false) ∧ '}' ∉ token

/-- The text, as far as the nearest pair of closing braces, is the interior of a placeholder. -/
def Opens (rest : List Char) : Prop :=
  ∃ body after, rest = body ++ '}' :: '}' :: after ∧
    (∀ body' after', rest = body' ++ '}' :: '}' :: after' → body.length ≤ body'.length) ∧ IsInterior body

/-- Two opening braces stand somewhere in the text, overlapping others or not, and what follows them does not make
them a placeholder. -/
def HasStray (cs : List Char) : Prop :=
  ∃ before rest, cs = before ++ '{' :: '{' :: rest ∧ ¬ Opens rest

theorem field?_isSome_iff {body : List Char} : (field? body).isSome ↔ IsInterior body := by
  constructor
  · intro h
    obtain ⟨field, hf⟩ := Option.isSome_iff_exists.1 h
    obtain ⟨hw, hbody, -⟩ := Mark.of_field?_eq_some hf
    have hopen := Mark.body_open hw.name_open hw.token_open
    rw [hbody] at hopen
    exact ⟨hopen, _, _, hbody.symm, hw.no_bar, Text.trim_ne_nil_iff.1 hw.name_ne_nil,
      Text.trim_ne_nil_iff.1 hw.token_ne_nil, hw.token_close⟩
  · rintro ⟨hopen, name, token, rfl, hbar, hname, htoken, hclose⟩
    rw [hasPair_append, hasPair_cons, not_or, not_or, not_or] at hopen
    have hw : (Mark.mk name token).WellFormed :=
      ⟨hbar, hopen.1, Text.trim_ne_nil_iff.2 hname, hopen.2.1.2, hclose, Text.trim_ne_nil_iff.2 htoken⟩
    exact (Mark.field?_body_isSome_iff (m := ⟨name, token⟩) hbar).2 hw

theorem length_le_of_closing? {cs body after : List Char} (h : closing? cs = some (body, after))
    {body' after' : List Char} (h' : cs = body' ++ '}' :: '}' :: after') : body.length ≤ body'.length := by
  fun_induction closing? cs generalizing body body' with
  | case1 =>
    cases h
    exact Nat.zero_le _
  | case2 c rest hc ih =>
    obtain ⟨split, hsplit, heq⟩ := Option.map_eq_some_iff.1 h
    simp only [Prod.mk.injEq] at heq
    obtain ⟨rfl, rfl⟩ := heq
    cases body' with
    | nil =>
      rw [List.nil_append, List.cons.injEq] at h'
      exact absurd h'.2 (hc _ h'.1)
    | cons d body' =>
      rw [List.cons_append, List.cons.injEq] at h'
      exact Nat.succ_le_succ (ih hsplit h'.2)
  | case3 => cases h

/-- The closing pair that is found is the nearest one. -/
theorem closing?_eq_some_iff_nearest {cs body after : List Char} :
    closing? cs = some (body, after) ↔ cs = body ++ '}' :: '}' :: after ∧
      ∀ body' after', cs = body' ++ '}' :: '}' :: after' → body.length ≤ body'.length := by
  constructor
  · intro h
    exact ⟨eq_of_closing? h, fun _ _ => length_le_of_closing? h⟩
  · rintro ⟨hcs, hnearest⟩
    cases h : closing? cs with
    | none =>
      refine absurd ?_ (closing?_eq_none_iff.1 h)
      simp [hcs, hasPair_append, hasPair_cons]
    | some split =>
      have hsplit : cs = split.1 ++ '}' :: '}' :: split.2 := eq_of_closing? h
      have hlength : split.1.length = body.length :=
        Nat.le_antisymm (length_le_of_closing? h hcs) (hnearest _ _ hsplit)
      obtain ⟨hbody, hafter⟩ := List.append_inj (hsplit.symm.trans hcs) hlength
      simp only [List.cons.injEq, true_and] at hafter
      rw [← hbody, ← hafter]

theorem continuesPlaceholder_iff {rest : List Char} : continuesPlaceholder rest = true ↔ Opens rest := by
  unfold Opens
  simp only [← and_assoc, ← closing?_eq_some_iff_nearest, ← field?_isSome_iff]
  unfold continuesPlaceholder
  cases closing? rest with
  | none => simp
  | some split => simp [Prod.ext_iff]

theorem HasStray.cons_iff {c : Char} {cs : List Char} :
    HasStray (c :: cs) ↔ (c = '{' ∧ ∃ rest, cs = '{' :: rest ∧ ¬ Opens rest) ∨ HasStray cs := by
  constructor
  · rintro ⟨before, rest, heq, hrest⟩
    cases before with
    | nil =>
      rw [List.nil_append, List.cons.injEq] at heq
      exact .inl ⟨heq.1, rest, heq.2, hrest⟩
    | cons b before =>
      rw [List.cons_append, List.cons.injEq] at heq
      exact .inr ⟨before, rest, heq.2, hrest⟩
  · rintro (⟨rfl, rest, rfl, hrest⟩ | ⟨before, rest, rfl, hrest⟩)
    · exact ⟨[], rest, rfl, hrest⟩
    · exact ⟨c :: before, rest, rfl, hrest⟩

theorem hasStrayOpening_iff {cs : List Char} : hasStrayOpening cs = true ↔ HasStray cs := by
  fun_induction hasStrayOpening cs with
  | case1 rest ih =>
    rw [HasStray.cons_iff, Bool.or_eq_true, ih, Bool.not_eq_true', Bool.eq_false_iff, ne_eq, continuesPlaceholder_iff]
    simp
  | case2 c rest hc ih =>
    rw [HasStray.cons_iff, ih, or_iff_right]
    rintro ⟨rfl, rest', rfl, -⟩
    exact hc rest' rfl rfl
  | case3 => simp [HasStray]

/-! ### Type words -/

/-- The first two checks do not find fault with the text. -/
def Passes (cs : List Char) : Prop :=
  countPairs '{' cs = countPairs '}' cs ∧ ¬ (HasSpan cs ∧ HasStray cs)

/-- The type word of the placeholder names a type. -/
def Placeholder.HasType (p : Placeholder) : Prop :=
  ∃ t : VarType, String.ofList p.field.token = t.token

/-- The placeholder is the one that stands in the template after the text `before`. -/
def Placeholder.StandsAfter (p : Placeholder) (template : String) (before : List Char) : Prop :=
  ∃ m after, template.toList = before ++ Mark.source m ++ after ∧ m.WellFormed ∧ m.field = p.field ∧
    byteLength before = p.start

/-- The placeholder names no type, and all before it do. -/
def Placeholder.FirstUntyped (p : Placeholder) (template : String) : Prop :=
  p ∈ placeholders template ∧ ¬ p.HasType ∧ ∀ q ∈ placeholders template, q.start < p.start → q.HasType

theorem parse_of_passes {template : String} (h : Passes template.toList) (prior : String → Option String) :
    parse template prior = (typed ((Layout.of template.toList).fieldsFrom 0)).map (seeded prior) := by
  rw [parse, declarations]
  congr 1
  cases hs : hasStrayOpening template.toList with
  | false => exact declarationsOf_of_not_stray h.1 hs
  | true =>
    have hspan : ¬ HasSpan template.toList := fun hspan => h.2 ⟨hspan, hasStrayOpening_iff.1 hs⟩
    have hfields := (Layout.of template.toList).map_field_fieldsFrom 0
    rw [Layout.marks_of_eq_nil hspan, List.map_nil, List.map_eq_nil_iff] at hfields
    rw [declarationsOf_of_not_hasSpan h.1 hspan, hfields]
    rfl

/-- Typing fails at the first type word that names no type, and reports it. -/
theorem typed_eq_error_iff {fields : List (Nat × Field)} {e : TemplateError} :
    typed fields = .error e ↔ ∃ earlier p later, fields = earlier ++ p :: later ∧
      (∀ q ∈ earlier, ∃ t : VarType, String.ofList q.2.token = t.token) ∧
      (¬ ∃ t : VarType, String.ofList p.2.token = t.token) ∧ e = .invalidType (String.ofList p.2.token) p.1 := by
  induction fields with
  | nil => simp [typed]
  | cons p fields ih =>
    rw [typed]
    cases ht : VarType.ofToken? (String.ofList p.2.token) with
    | none =>
      have hno : ¬ ∃ t : VarType, String.ofList p.2.token = t.token := by
        rintro ⟨t, hp⟩
        rw [VarType.ofToken?_eq_some_iff.2 hp] at ht
        cases ht
      constructor
      · intro he
        cases he
        exact ⟨[], p, fields, rfl, by simp, hno, rfl⟩
      · rintro ⟨earlier, q, later, heq, hearlier, hq, rfl⟩
        cases earlier with
        | nil =>
          rw [List.nil_append, List.cons.injEq] at heq
          rw [← heq.1]
        | cons r earlier =>
          rw [List.cons_append, List.cons.injEq] at heq
          exact absurd (heq.1 ▸ hearlier r List.mem_cons_self) hno
    | some t =>
      have hp : ∃ t : VarType, String.ofList p.2.token = t.token := ⟨t, VarType.ofToken?_eq_some_iff.1 ht⟩
      have hmap : (typed fields).map (⟨String.ofList p.2.name, t⟩ :: ·) = .error e ↔ typed fields = .error e := by
        cases typed fields <;> simp [Except.map]
      show (typed fields).map _ = .error e ↔ _
      rw [hmap, ih]
      constructor
      · rintro ⟨earlier, q, later, rfl, hearlier, hq⟩
        exact ⟨p :: earlier, q, later, rfl, List.forall_mem_cons.2 ⟨hp, hearlier⟩, hq⟩
      · rintro ⟨earlier, q, later, heq, hearlier, hq, he⟩
        cases earlier with
        | nil =>
          rw [List.nil_append, List.cons.injEq] at heq
          exact absurd (heq.1 ▸ hp) hq
        | cons r earlier =>
          rw [List.cons_append, List.cons.injEq] at heq
          exact ⟨earlier, q, later, heq.2, (List.forall_mem_cons.1 hearlier).2, hq, he⟩

/-- A place in the layout of a text is where its mark stands as a placeholder. -/
private theorem standsAfter_of_mem_places {template : String} {x : List Char × Mark}
    (h : x ∈ (Layout.of template.toList).placesFrom []) :
    Placeholder.StandsAfter ⟨x.2.field, byteLength x.1, byteLength x.1 + byteLength x.2.source⟩ template x.1 := by
  obtain ⟨after, hafter⟩ := Layout.exists_source_eq_of_mem_placesFrom h
  rw [List.nil_append, Layout.source_of] at hafter
  have hmark : x.2 ∈ (Layout.of template.toList).marks := by
    rw [← Layout.map_mark_placesFrom []]
    exact List.mem_map_of_mem h
  exact ⟨x.2, after, hafter, Layout.wellFormed_of_mem_marks_ofPieces hmark, rfl, rfl⟩

/-- A text that passes the first two checks is at fault if and only if a placeholder names no type, and then for the
first such one. -/
theorem parse_eq_error_iff_of_passes {template : String} (h : Passes template.toList)
    {prior : String → Option String} {e : TemplateError} :
    parse template prior = .error e ↔ ∃ (p : Placeholder) (before : List Char), p.FirstUntyped template ∧
      p.StandsAfter template before ∧ e = .invalidType (String.ofList p.field.token) before.length := by
  have hmap : (typed ((Layout.of template.toList).fieldsFrom 0)).map (seeded prior) = .error e ↔
      typed ((Layout.of template.toList).fieldsFrom 0) = .error e := by
    cases typed ((Layout.of template.toList).fieldsFrom 0) <;> simp [Except.map]
  have hfields := Layout.fieldsFrom_eq [] (Layout.of template.toList)
  have hpairwise := Layout.placesFrom_pairwise [] (Layout.of template.toList)
  have hstands : ∀ x ∈ (Layout.of template.toList).placesFrom [], _ := fun x => standsAfter_of_mem_places
  rw [List.length_nil] at hfields
  rw [parse_of_passes h, hmap, hfields, typed_eq_error_iff]
  unfold Placeholder.FirstUntyped
  rw [placeholders_eq]
  generalize (Layout.of template.toList).placesFrom [] = places at hpairwise hstands ⊢
  constructor
  · rintro ⟨earlier, field, later, hsplit, hearlier, hfield, rfl⟩
    obtain ⟨ps, rest, rfl, rfl, hrest⟩ := List.map_eq_append_iff.1 hsplit
    obtain ⟨x, qs, rfl, rfl, -⟩ := List.map_eq_cons_iff.1 hrest
    obtain ⟨-, hlater, -⟩ := List.pairwise_append.1 hpairwise
    refine ⟨_, x.1, ⟨List.mem_map_of_mem (by simp), hfield, ?_⟩, hstands x (by simp), rfl⟩
    intro q hq hlt
    obtain ⟨y, hy, rfl⟩ := List.mem_map.1 hq
    -- a place after that of the fault is further on
    rcases List.mem_append.1 hy with hy | hy
    · exact hearlier _ (List.mem_map_of_mem hy)
    · rcases List.mem_cons.1 hy with rfl | hy
      · exact absurd hlt (Nat.lt_irrefl _)
      · exact absurd (List.rel_of_pairwise_cons hlater hy) (Nat.lt_asymm hlt)
  · rintro ⟨p, before, ⟨hp, huntyped, hfirst⟩, ⟨m, after, htext, -, -, hstart⟩, rfl⟩
    obtain ⟨x, hx, rfl⟩ := List.mem_map.1 hp
    obtain ⟨ps, qs, rfl⟩ := List.append_of_mem hx
    obtain ⟨-, -, hbefore⟩ := List.pairwise_append.1 hpairwise
    obtain ⟨m', after', htext', -⟩ := hstands x (by simp)
    have heq : before = x.1 := by
      rw [List.append_assoc] at htext htext'
      exact eq_of_byteLength_eq (htext.symm.trans htext') hstart
    subst heq
    refine ⟨_, _, _, List.map_append.trans (congrArg _ List.map_cons), ?_, huntyped, rfl⟩
    intro q hq
    obtain ⟨y, hy, rfl⟩ := List.mem_map.1 hq
    exact hfirst _ (List.mem_map_of_mem (List.mem_append_left _ hy)) (hbefore y hy x List.mem_cons_self)

/-- If a placeholder names no type, then one of them is the first. -/
theorem exists_firstUntyped {template : String} {p : Placeholder} (hp : p ∈ placeholders template)
    (huntyped : ¬ p.HasType) :
    ∃ (q : Placeholder) (before : List Char), q.FirstUntyped template ∧ q.StandsAfter template before := by
  -- the first one is the one that starts first
  induction hn : p.start using Nat.strong_induction_on generalizing p with
  | _ n ih =>
    by_cases hfirst : ∀ q ∈ placeholders template, q.start < p.start → q.HasType
    · have hmem := hp
      rw [placeholders_eq] at hmem
      obtain ⟨x, hx, rfl⟩ := List.mem_map.1 hmem
      exact ⟨_, x.1, ⟨hp, huntyped, hfirst⟩, standsAfter_of_mem_places hx⟩
    · simp only [Classical.not_forall] at hfirst
      obtain ⟨q, hq, hlt, huntyped'⟩ := hfirst
      exact ih q.start (hn ▸ hlt) hq huntyped' rfl

/-- What is reported, and why. -/
private theorem parse_cases (template : String) (prior : String → Option String) :
    (countPairs '{' template.toList ≠ countPairs '}' template.toList ∧
      parse template prior = .error .mismatchedBrackets) ∨
    (countPairs '{' template.toList = countPairs '}' template.toList ∧
      (HasSpan template.toList ∧ HasStray template.toList) ∧ parse template prior = .error .invalidFormat) ∨
    (Passes template.toList ∧ (∃ p ∈ placeholders template, ¬ p.HasType) ∧
      ∃ found position, parse template prior = .error (.invalidType found position)) ∨
    (Passes template.toList ∧ (∀ p ∈ placeholders template, p.HasType) ∧ ∃ vs, parse template prior = .ok vs) := by
  by_cases hcount : countPairs '{' template.toList = countPairs '}' template.toList
  · by_cases hstray : HasSpan template.toList ∧ HasStray template.toList
    · have hfault := declarationsOf_of_stray hcount hstray.1 (hasStrayOpening_iff.2 hstray.2)
      exact .inr (.inl ⟨hcount, hstray, parse_eq_error_iff.2 hfault⟩)
    · have h : Passes template.toList := ⟨hcount, hstray⟩
      cases hp : parse template prior with
      | error e =>
        obtain ⟨p, before, ⟨hmem, huntyped, -⟩, -, rfl⟩ := (parse_eq_error_iff_of_passes h).1 hp
        exact .inr (.inr (.inl ⟨h, ⟨p, hmem, huntyped⟩, _, _, rfl⟩))
      | ok vs =>
        refine .inr (.inr (.inr ⟨h, ?_, vs, rfl⟩))
        intro p hmem
        by_contra huntyped
        obtain ⟨q, before, hq, hbefore⟩ := exists_firstUntyped hmem huntyped
        rw [(parse_eq_error_iff_of_passes h).2 ⟨q, before, hq, hbefore, rfl⟩] at hp
        cases hp
  · exact .inl ⟨hcount, parse_eq_error_iff.2 (declarationsOf_of_unbalanced hcount)⟩

/-! ### Each fault and its cause -/

/-- A text is unbalanced if it has not as many pairs of opening as of closing braces. Else it is malformed if it has a
span, and two opening braces somewhere that make no placeholder. Else it is mistyped if a placeholder names no type.
Else it is a template. -/
theorem parse_fault_iff (template : String) (prior : String → Option String) :
    (parse template prior = .error .mismatchedBrackets ↔
      countPairs '{' template.toList ≠ countPairs '}' template.toList) ∧
    (parse template prior = .error .invalidFormat ↔
      countPairs '{' template.toList = countPairs '}' template.toList ∧
      HasSpan template.toList ∧ HasStray template.toList) ∧
    ((∃ found position, parse template prior = .error (.invalidType found position)) ↔
      countPairs '{' template.toList = countPairs '}' template.toList ∧
      ¬ (HasSpan template.toList ∧ HasStray template.toList) ∧ ∃ p ∈ placeholders template, ¬ p.HasType) ∧
    ((∃ vs, parse template prior = .ok vs) ↔
      countPairs '{' template.toList = countPairs '}' template.toList ∧
      ¬ (HasSpan template.toList ∧ HasStray template.toList) ∧ ∀ p ∈ placeholders template, p.HasType) := by
  rcases parse_cases template prior with ⟨hcount, hp⟩ | ⟨hcount, hstray, hp⟩ |
    ⟨⟨hcount, hstray⟩, ⟨p, hmem, huntyped⟩, found, position, hp⟩ | ⟨⟨hcount, hstray⟩, htyped, vs, hp⟩
  · simp [hp, hcount]
  · simp [hp, hcount, hstray]
  · have hall : ¬ ∀ p ∈ placeholders template, p.HasType := fun hall => huntyped (hall p hmem)
    have hex : ∃ p ∈ placeholders template, ¬ p.HasType := ⟨p, hmem, huntyped⟩
    simp only [hp, hcount, hstray, hall, hex]
    simp
  · have hex : ¬ ∃ p ∈ placeholders template, ¬ p.HasType := fun ⟨p, hmem, huntyped⟩ => huntyped (htyped p hmem)
    simp only [hp, hcount, hstray, hex]
    simpa using htyped

/-- Where a type is at fault, the fault names the first placeholder that names no type: its position is the number of
characters before the placeholder, and the word found is its type word. Every text that passes the first two checks and
has such a placeholder is reported with the first of them. -/
theorem invalidType_iff_first (template : String) (prior : String → Option String) :
    (∀ found position, parse template prior = .error (.invalidType found position) ↔
      Passes template.toList ∧ ∃ (p : Placeholder) (before : List Char), p.FirstUntyped template ∧
        p.StandsAfter template before ∧ before.length = position ∧ String.ofList p.field.token = found) ∧
    (Passes template.toList → (∃ p ∈ placeholders template, ¬ p.HasType) →
      ∃ found position, parse template prior = .error (.invalidType found position)) := by
  constructor
  · intro found position
    by_cases h : Passes template.toList
    · rw [parse_eq_error_iff_of_passes h, and_iff_right h]
      simp only [TemplateError.invalidType.injEq, eq_comm (a := found), eq_comm (a := position)]
      simp only [and_comm (a := String.ofList _ = found)]
    · rcases parse_cases template prior with ⟨-, hp⟩ | ⟨-, -, hp⟩ | ⟨h', -⟩ | ⟨h', -⟩
      · simp [hp, h]
      · simp [hp, h]
      · exact absurd h' h
      · exact absurd h' h
  · rintro h ⟨p, hp, huntyped⟩
    obtain ⟨q, before, hq, hbefore⟩ := exists_firstUntyped hp huntyped
    exact ⟨_, _, (parse_eq_error_iff_of_passes h).2 ⟨q, before, hq, hbefore, rfl⟩⟩

end Template

end TypedTemplates
