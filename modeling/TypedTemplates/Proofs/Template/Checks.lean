import TypedTemplates.Proofs.Template.Layout
import Mathlib.Algebra.GroupWithZero.Nat

/-!
# The checks of a template

What the checks of `declarationsOf` find out about a text, said of its layout. Without a stray opening the
layout is separated (`Layout.separated_of`); the number of opening pairs is then that of the placeholders
(`Layout.Separated.countPairs_open`), and that of the closing pairs is the same only if no literal holds one
(`Layout.Separated.balanced_iff`). The four cases are `declarationsOf_of_unbalanced`,
`declarationsOf_of_not_hasSpan`, `declarationsOf_of_stray` and `declarationsOf_of_not_stray`; in the last
one only the type words are left.
-/

namespace TypedTemplates.Template

open Text (trim)

/-- Two opening braces stand in the text, and two closing ones somewhere after them. -/
def HasSpan (cs : List Char) : Prop :=
  ∃ before body after, cs = before ++ (Piece.span body).source ++ after

/-! ### Spans -/

theorem HasSpan.hasPair_open {cs : List Char} (h : HasSpan cs) : HasPair '{' cs := by
  obtain ⟨before, body, after, rfl⟩ := h
  simp [hasPair_append, Piece.source, hasPair_cons]

theorem HasSpan.of_cons {c : Char} {cs : List Char} (h : HasSpan (c :: cs)) :
    HasSpan cs ∨ (c = '{' ∧ ∃ rest, cs = '{' :: rest ∧ HasPair '}' rest) := by
  obtain ⟨before, body, after, h⟩ := h
  cases before with
  | nil =>
    simp only [Piece.source, List.nil_append, List.cons_append, List.cons.injEq] at h
    obtain ⟨rfl, rfl⟩ := h
    exact .inr ⟨rfl, _, rfl, by simp [hasPair_append, hasPair_cons]⟩
  | cons b before =>
    simp only [List.cons_append, List.cons.injEq] at h
    exact .inl ⟨before, body, after, h.2⟩

/-- A text has a span if and only if one is found among its pieces. -/
theorem hasSpan_iff_mem_pieces {cs : List Char} : HasSpan cs ↔ ∃ body, .span body ∈ pieces cs := by
  constructor
  · intro h
    fun_induction pieces cs with
    | case1 rest body after _ _ => exact ⟨body, List.mem_cons_self⟩
    | case2 rest hc ih =>
      -- nothing closes these braces, so the span begins further on
      rcases h.of_cons with h | ⟨-, rest', hr, hp⟩
      · obtain ⟨body, hb⟩ := ih h
        exact ⟨body, List.mem_cons_of_mem _ hb⟩
      · obtain rfl : rest = rest' := by simpa using hr
        exact absurd hp (closing?_eq_none_iff.1 hc)
    | case3 c rest hc ih =>
      rcases h.of_cons with h | ⟨rfl, rest', rfl, -⟩
      · obtain ⟨body, hb⟩ := ih h
        exact ⟨body, List.mem_cons_of_mem _ hb⟩
      · exact absurd rfl (hc rest' rfl)
    | case4 => exact absurd h.hasPair_open (not_hasPair_nil _)
  · rintro ⟨body, hb⟩
    obtain ⟨ps, qs, hps⟩ := List.append_of_mem hb
    refine ⟨ps.flatMap Piece.source, body, qs.flatMap Piece.source, ?_⟩
    rw [← source_pieces cs, hps]
    simp

theorem Layout.marks_of_eq_nil {cs : List Char} (h : ¬ HasSpan cs) : (of cs).marks = [] := by
  rw [hasSpan_iff_mem_pieces, not_exists] at h
  unfold of
  generalize pieces cs = ps at h
  induction ps with
  | nil => rfl
  | cons p ps ih =>
    cases p with
    | literal c =>
      rw [ofPieces, marks_prepend]
      exact ih fun body hb => h body (List.mem_cons_of_mem _ hb)
    | span body => exact absurd List.mem_cons_self (h body)

/-! ### One placeholder in a text -/

namespace Mark

theorem field?_body_isSome_iff {m : Mark} (h : '|' ∉ m.name) : (field? m.body).isSome ↔ m.WellFormed := by
  constructor
  · intro hs
    obtain ⟨field, hf⟩ := Option.isSome_iff_exists.1 hs
    have := (of_field?_eq_some hf).1
    rwa [ofBody_body h] at this
  · intro hw
    simp [hw.field?_body]

theorem continuesPlaceholder_body {m : Mark} (ys : List Char) (hn : ¬ HasPair '}' m.name)
    (ht : '}' ∉ m.token) :
    continuesPlaceholder (m.body ++ '}' :: '}' :: ys) = (field? m.body).isSome := by
  rw [continuesPlaceholder, closing?_append ys (body_close hn ht) (getLast?_body ht)]

theorem source_append (m : Mark) (ys : List Char) :
    m.source ++ ys = '{' :: '{' :: (m.body ++ '}' :: '}' :: ys) := by
  simp [source, Piece.source]

private theorem hasStrayOpening_body {m : Mark} (ys : List Char) (hm : m.WellFormed) :
    hasStrayOpening (m.body ++ '}' :: '}' :: ys) = hasStrayOpening ys := by
  have := hasStrayOpening_append ys (body_append_close_open hm) (by simp)
  simpa using this

/-- The opening braces of a placeholder are not stray, and overlapping ones only if the name after them is
blank. -/
theorem hasStrayOpening_source_append {m : Mark} (ys : List Char) (hm : m.WellFormed)
    (hc : ¬ HasPair '}' m.name) :
    hasStrayOpening (m.source ++ ys) = false ↔
      (∀ rest, m.name = '{' :: rest → trim rest ≠ []) ∧ hasStrayOpening ys = false := by
  have hcont : continuesPlaceholder (m.body ++ '}' :: '}' :: ys) = true := by
    rw [continuesPlaceholder_body ys hc hm.token_close, (field?_body_isSome_iff hm.no_bar).2 hm]
  rw [source_append, hasStrayOpening, hcont, Bool.not_true, Bool.false_or, ← hasStrayOpening_body ys hm]
  rcases hname : m.name with _ | ⟨c, n⟩
  · exact absurd (by rw [hname]; rfl) hm.name_ne_nil
  · by_cases hb : c = '{'
    · -- the overlapping pair is followed by the mark without the first brace of its name
      subst hb
      have hbody : m.body = '{' :: (Mark.mk n m.token).body := by simp [body, hname]
      have hbar : '|' ∉ n := fun h => hm.no_bar (by simp [hname, h])
      have hopen := hm.name_open
      have hclose := hc
      rw [hname, hasPair_cons, not_or] at hopen hclose
      have hw : (Mark.mk n m.token).WellFormed ↔ trim n ≠ [] :=
        ⟨fun h => h.name_ne_nil, fun h => ⟨hbar, hopen.2, h, hm.token_open, hm.token_close, hm.token_ne_nil⟩⟩
      have hstep : hasStrayOpening ('{' :: (m.body ++ '}' :: '}' :: ys)) =
          (!(field? (Mark.mk n m.token).body).isSome || hasStrayOpening (m.body ++ '}' :: '}' :: ys)) := by
        rw [hbody, List.cons_append, hasStrayOpening,
          continuesPlaceholder_body (m := ⟨n, m.token⟩) ys hclose.2 hm.token_close]
      rw [hstep, Bool.or_eq_false_iff, Bool.not_eq_false', field?_body_isSome_iff hbar, hw]
      simp
    · have hhead : (m.body ++ '}' :: '}' :: ys).head? ≠ some '{' := by simp [body, hname, hb]
      rw [hasStrayOpening_cons_of_not_pair fun _ => hhead]
      simp [hb]

theorem countPairs_open_source_append {m : Mark} (ys : List Char) (hm : m.WellFormed) :
    countPairs '{' (m.source ++ ys) = countPairs '{' ys + 1 := by
  have hl : (m.body ++ ['}', '}']).getLast? ≠ some '{' := by simp
  have hsum := countPairs_append ys fun h => absurd h hl
  rw [countPairs_eq_zero_iff.2 (body_append_close_open hm), List.append_assoc] at hsum
  rw [source_append, countPairs_pair]
  simpa using hsum

theorem countPairs_close_source_append {m : Mark} (ys : List Char) (hm : m.WellFormed)
    (hc : ¬ HasPair '}' m.name) :
    countPairs '}' (m.source ++ ys) = countPairs '}' ys + 1 := by
  have hb : ¬ HasPair '}' ('{' :: '{' :: m.body) := by
    simp [hasPair_cons, body_close hc hm.token_close]
  have hl : ('{' :: '{' :: m.body).getLast? ≠ some '}' := by
    have := getLast?_body hm.token_close
    rw [List.getLast?_cons_cons, List.getLast?_cons]
    cases h : m.body.getLast? <;> simp_all
  have := countPairs_append ('}' :: '}' :: ys) (fun h => absurd h hl)
  rw [countPairs_eq_zero_iff.2 hb, countPairs_pair] at this
  rw [source_append]
  simpa using this

end Mark

/-! ### The checks on a separated layout -/

namespace Layout

theorem Separated.hasStrayOpening_source {l : Layout} (h : l.Separated) :
    hasStrayOpening l.source = false ↔ ∀ m ∈ l.marks, ∀ rest, m.name = '{' :: rest → trim rest ≠ [] := by
  induction l with
  | last literal =>
    have := hasStrayOpening_append [] h (by simp)
    simp_all [marks, hasStrayOpening]
  | cons literal m rest ih =>
    obtain ⟨ho, hl, hm, hc, hr⟩ := h
    rw [source_cons, List.append_assoc, hasStrayOpening_append _ ho (fun h => absurd h hl),
      Mark.hasStrayOpening_source_append _ hm hc, ih hr, marks, List.forall_mem_cons]

/-- The opening pairs are those of the placeholders. -/
theorem Separated.countPairs_open {l : Layout} (h : l.Separated) :
    countPairs '{' l.source = l.marks.length := by
  induction l with
  | last literal => exact countPairs_eq_zero_iff.2 h
  | cons literal m rest ih =>
    obtain ⟨ho, hl, hm, -, hr⟩ := h
    rw [source_cons, List.append_assoc, countPairs_append _ (fun h => absurd h hl), countPairs_eq_zero_iff.2 ho,
      Mark.countPairs_open_source_append _ hm, ih hr, marks, List.length_cons]
    omega

/-- The closing pairs are those of the placeholders and those in literals. -/
theorem Separated.countPairs_close {l : Layout} (h : l.Separated) :
    countPairs '}' l.source = l.marks.length + (l.literals.map (countPairs '}')).sum := by
  induction l with
  | last literal => simp [marks, literals]
  | cons literal m rest ih =>
    obtain ⟨-, -, hm, hc, hr⟩ := h
    have hhead : (m.source ++ rest.source).head? ≠ some '}' := by simp [Mark.source_append]
    rw [source_cons, List.append_assoc, countPairs_append _ (fun _ => hhead),
      Mark.countPairs_close_source_append _ hm hc, ih hr, marks, literals, List.length_cons, List.map_cons,
      List.sum_cons]
    omega

theorem Separated.balanced_iff {l : Layout} (h : l.Separated) :
    countPairs '{' l.source = countPairs '}' l.source ↔ ∀ literal ∈ l.literals, ¬ HasPair '}' literal := by
  rw [h.countPairs_open, h.countPairs_close, Nat.left_eq_add, List.sum_eq_zero_iff_forall_eq_nat]
  simp [countPairs_eq_zero_iff]

theorem Separated.prepend {l : Layout} {c : Char} (h : l.Separated)
    (hc : c = '{' → l.source.head? ≠ some '{') :
    (l.prepend [c]).Separated := by
  cases l with
  | last literal =>
    rw [Layout.prepend, Separated, List.singleton_append, hasPair_cons, not_or]
    exact ⟨fun hp => hc hp.1 hp.2, h⟩
  | cons literal m rest =>
    obtain ⟨ho, hl, hr⟩ := h
    rw [Layout.prepend, Separated, List.singleton_append, hasPair_cons, not_or]
    refine ⟨⟨fun hp => hc hp.1 ?_, ho⟩, ?_, hr⟩
    · simp [hp.2]
    · cases literal with
      | nil =>
        simp only [List.getLast?_singleton, ne_eq, Option.some.injEq]
        exact fun hb => hc hb (by simp [Mark.source_append])
      | cons d literal => simpa using hl

theorem hasStrayOpening_of_append {xs ys : List Char} (h : hasStrayOpening (xs ++ ys) = false) :
    hasStrayOpening ys = false := by
  induction xs with
  | nil => exact h
  | cons c xs ih =>
    apply ih
    rw [List.cons_append, hasStrayOpening.eq_def] at h
    split at h <;> simp_all

/-- Without a stray opening, every pair of opening braces in the text is that of a placeholder of its
layout. -/
theorem separated_of {cs : List Char} (h : hasStrayOpening cs = false) : (of cs).Separated := by
  unfold of
  fun_induction pieces cs with
  | case1 rest body after hcl ih =>
    -- the braces that begin the span are not stray, so the span is a placeholder
    obtain ⟨hrest, hb, hl⟩ := closing?_eq_some_iff.1 hcl
    rw [hasStrayOpening, continuesPlaceholder, hcl] at h
    simp only [Bool.or_eq_false_iff, Bool.not_eq_false'] at h
    obtain ⟨field, hf⟩ := Option.isSome_iff_exists.1 h.1
    have hsplit : '{' :: rest = ('{' :: (body ++ ['}', '}'])) ++ after := by simp [hrest]
    have hafter : hasStrayOpening after = false := hasStrayOpening_of_append (hsplit ▸ h.2)
    obtain ⟨hw, hbody, -⟩ := Mark.of_field?_eq_some hf
    have hname : ¬ HasPair '}' (Mark.ofBody body).name := by
      rw [← hbody, Mark.body, hasPair_append, not_or] at hb
      exact hb.1
    simp only [ofPieces, hf]
    exact ⟨not_hasPair_nil _, by simp, hw, hname, ih hafter⟩
  | case2 rest hcl ih =>
    rw [hasStrayOpening, continuesPlaceholder, hcl] at h
    simp at h
  | case3 c rest hc ih =>
    have hsource : (ofPieces (pieces rest)).source = rest := source_of rest
    have hhead : c = '{' → rest.head? ≠ some '{' := by
      rintro rfl hh
      cases rest with
      | nil => simp at hh
      | cons d rest => exact hc rest rfl (by simpa using hh)
    rw [hasStrayOpening_cons_of_not_pair hhead] at h
    exact (ih h).prepend (by rwa [hsource])
  | case4 => exact not_hasPair_nil _

theorem map_field_fieldsFrom (offset : Nat) (l : Layout) :
    (l.fieldsFrom offset).map (·.2) = l.marks.map Mark.field := by
  induction l generalizing offset with
  | last literal => rfl
  | cons literal m rest ih => simp [fieldsFrom, marks, ih]

end Layout

/-! ### The checks in order -/

/-- Where no span is malformed, the spans are the placeholders of the layout. -/
theorem fieldsFrom?_eq_some {ps : List Piece} (offset : Nat)
    (h : ∀ body, .span body ∈ ps → (field? body).isSome) :
    fieldsFrom? offset ps = some ((Layout.ofPieces ps).fieldsFrom offset) := by
  induction ps generalizing offset with
  | nil => rfl
  | cons p ps ih =>
    have ht : ∀ body, .span body ∈ ps → (field? body).isSome := fun body hb => h body (List.mem_cons_of_mem _ hb)
    cases p with
    | literal c => simp [fieldsFrom?, Layout.ofPieces, Layout.fieldsFrom_prepend, ih _ ht]
    | span body =>
      obtain ⟨field, hf⟩ := Option.isSome_iff_exists.1 (h body List.mem_cons_self)
      obtain ⟨-, hb, hfield⟩ := Mark.of_field?_eq_some hf
      simp [fieldsFrom?, Layout.ofPieces, hf, ih _ ht, Layout.fieldsFrom, hfield, Mark.source, hb]

theorem not_mem_of_fieldsFrom?_eq_nil {offset : Nat} {ps : List Piece} (h : fieldsFrom? offset ps = some [])
    (body : List Char) : .span body ∉ ps := by
  induction ps generalizing offset with
  | nil => simp
  | cons p ps ih =>
    cases p with
    | literal c =>
      rw [List.mem_cons, not_or]
      exact ⟨Piece.noConfusion, ih h⟩
    | span b =>
      rw [fieldsFrom?] at h
      split at h <;> simp at h

/-- The types are known if every type word names one, and they are the ones named. -/
theorem typed_eq_ok_iff {fields : List (Nat × Field)} {ds : List Declaration} :
    typed fields = .ok ds ↔
      fields.map (fun p => (String.ofList p.2.name, String.ofList p.2.token)) =
        ds.map fun d => (d.name, d.type.token) := by
  induction fields generalizing ds with
  | nil => cases ds <;> simp [typed]
  | cons p fields ih =>
    obtain ⟨offset, field⟩ := p
    rw [typed]
    split
    · next hn =>
      cases ds with
      | nil => simp
      | cons d ds =>
        have : String.ofList field.token ≠ d.type.token := by
          intro he
          simp [he] at hn
        simp [this]
    · next type ht =>
      rw [VarType.ofToken?_eq_some_iff] at ht
      cases ds with
      | nil => cases htyped : typed fields <;> simp [Except.map]
      | cons d ds =>
        rw [List.map_cons, List.map_cons, List.cons.injEq, ← ih, Prod.mk.injEq, ht]
        cases htyped : typed fields with
        | error e => simp [Except.map]
        | ok ds' =>
          have htoken : type.token = d.type.token ↔ type = d.type := ⟨VarType.token_injective, congrArg _⟩
          obtain ⟨name, dtype⟩ := d
          simp [Except.map, htoken]

theorem Layout.Separated.field?_isSome {l : Layout} (h : l.Separated) {body : List Char}
    (hb : .span body ∈ pieces l.source) : (field? body).isSome := by
  rw [h.pieces_source] at hb
  induction l with
  | last literal => simp [Layout.toPieces] at hb
  | cons literal m rest ih =>
    obtain ⟨-, -, hm, -, hr⟩ := h
    simp only [Layout.toPieces, List.mem_append, List.mem_map, reduceCtorEq, and_false, exists_false, false_or,
      List.mem_cons, Piece.span.injEq] at hb
    rcases hb with rfl | hb
    · simp [hm.field?_body]
    · exact ih hr hb

theorem declarationsOf_of_unbalanced {cs : List Char} (h : countPairs '{' cs ≠ countPairs '}' cs) :
    declarationsOf cs = .error .mismatchedBrackets :=
  if_pos h

/-- Text without a span needs no more than equally many pairs. -/
theorem declarationsOf_of_not_hasSpan {cs : List Char} (hcount : countPairs '{' cs = countPairs '}' cs)
    (h : ¬ HasSpan cs) : declarationsOf cs = .ok [] := by
  have hmarks := (Layout.of cs).map_field_fieldsFrom 0
  rw [Layout.marks_of_eq_nil h, List.map_nil, List.map_eq_nil_iff] at hmarks
  rw [hasSpan_iff_mem_pieces, not_exists] at h
  have hf : fieldsFrom? 0 (pieces cs) = some ((Layout.of cs).fieldsFrom 0) :=
    fieldsFrom?_eq_some 0 fun body hb => absurd hb (h body)
  simp [declarationsOf, hcount, hf, hmarks, typed]

theorem declarationsOf_of_stray {cs : List Char} (hcount : countPairs '{' cs = countPairs '}' cs)
    (h : HasSpan cs) (hstray : hasStrayOpening cs = true) : declarationsOf cs = .error .invalidFormat := by
  rw [declarationsOf, if_neg (not_not_intro hcount)]
  split
  · rfl
  · next fields hfields =>
    have hne : fields ≠ [] := by
      rintro rfl
      obtain ⟨body, hb⟩ := hasSpan_iff_mem_pieces.1 h
      exact not_mem_of_fieldsFrom?_eq_nil hfields body hb
    simp [hstray, hne]

/-- Once the first two checks are passed, only the type words are left. -/
theorem declarationsOf_of_not_stray {cs : List Char} (hcount : countPairs '{' cs = countPairs '}' cs)
    (hstray : hasStrayOpening cs = false) : declarationsOf cs = typed ((Layout.of cs).fieldsFrom 0) := by
  have hs := Layout.separated_of hstray
  have hf : fieldsFrom? 0 (pieces cs) = some ((Layout.of cs).fieldsFrom 0) :=
    fieldsFrom?_eq_some 0 fun body hb => hs.field?_isSome (by rwa [Layout.source_of])
  simp [declarationsOf, hcount, hf, hstray]

/-- The placeholders declare these names and types. -/
theorem typed_fieldsFrom_eq_ok_iff {l : Layout} {offset : Nat} {ds : List Declaration} :
    typed (l.fieldsFrom offset) = .ok ds ↔
      (l.marks.map fun m => (m.varName, m.typeWord)) = ds.map fun d => (d.name, d.type.token) := by
  have h := congrArg (List.map fun f : Field => (String.ofList f.name, String.ofList f.token))
    (l.map_field_fieldsFrom offset)
  rw [List.map_map, List.map_map] at h
  rw [typed_eq_ok_iff]
  exact Eq.congr_left h

theorem Layout.marks_of_ne_nil {cs : List Char} (h : HasSpan cs) (hstray : hasStrayOpening cs = false) :
    (of cs).marks ≠ [] := by
  obtain ⟨body, hb⟩ := hasSpan_iff_mem_pieces.1 h
  have hs := separated_of hstray
  have hp := hs.pieces_source
  rw [source_of] at hp
  rw [hp] at hb
  cases hl : of cs with
  | last literal => simp [hl, toPieces] at hb
  | cons literal m rest => simp [marks]

end TypedTemplates.Template
