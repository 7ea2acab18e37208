import TypedTemplates.Proofs.Template.Substitution

/-!
# Filling in by stages

A text that is partly filled in has the pieces of the text it came from, with the characters of a value in place of each
placeholder that was filled in (`pieces_fillIn`): as long as no value holds an opening brace, no span begins elsewhere
than before, and a span that is left ends where it did. So filling in some variables and then others is filling in all
of them at once (`fillIn_fillIn`), and the variables may be filled in one at a time, in any order
(`render_one_at_a_time`). The text need not be a template.
-/

namespace TypedTemplates

namespace Template

/-! ### What is left to be filled in -/

/-- The value that takes the place of a piece. -/
def Piece.value? (vars : VariableSet) : Piece → Option String
  | .literal _ => none
  | .span body => (field? body).bind fun field => vars.value? (String.ofList field.name)

/-- The pieces that stand for a piece in the text with its values filled in. -/
def Piece.refill (vars : VariableSet) (p : Piece) : List Piece :=
  match p.value? vars with
  | some value => value.toList.map .literal
  | none => [p]

theorem Piece.fill_of_value? {vars : VariableSet} {p : Piece} {value : String} (h : p.value? vars = some value) :
    p.fill vars = value.toList := by
  cases p with
  | literal c => cases h
  | span body =>
    obtain ⟨field, hf, hv⟩ := Option.bind_eq_some_iff.1 h
    simp only [fill, hf, hv]

theorem Piece.fill_of_value?_eq_none {vars : VariableSet} {p : Piece} (h : p.value? vars = none) :
    p.fill vars = p.source := by
  cases p with
  | literal c => rfl
  | span body =>
    cases hf : field? body with
    | none => simp only [fill, hf]
    | some field =>
      rw [value?, hf, Option.bind_some] at h
      simp only [fill, hf, h]

theorem fillIn_congr {vars vars' : VariableSet} (h : vars.value? = vars'.value?) (cs : List Char) :
    fillIn cs vars = fillIn cs vars' := by
  have hfill : Piece.fill vars = Piece.fill vars' := by
    funext p
    cases p with
    | literal c => rfl
    | span body => simp only [Piece.fill, h]
  rw [fillIn, hfill, fillIn]

theorem fillIn_of_not_hasSpan {cs : List Char} (h : ¬ HasSpan cs) (vars : VariableSet) : fillIn cs vars = cs := by
  have hfill : (Layout.of cs).fill (Mark.fill vars) = (Layout.of cs).fill Mark.source :=
    Layout.fill_congr (by simp [Layout.marks_of_eq_nil h])
  rw [fillIn_eq, hfill]
  exact Layout.source_of cs

theorem HasSpan.hasPair_close {cs : List Char} (h : HasSpan cs) : HasPair '}' cs := by
  obtain ⟨before, body, after, rfl⟩ := h
  simp [hasPair_append, Piece.source, hasPair_cons]

/-- A span is read as such whatever follows it. -/
theorem pieces_span_append {rest body after : List Char} (h : closing? rest = some (body, after)) (ys : List Char) :
    pieces ((Piece.span body).source ++ ys) = .span body :: pieces ys := by
  obtain ⟨-, hb, hl⟩ := closing?_eq_some_iff.1 h
  have hsource : (Piece.span body).source ++ ys = '{' :: '{' :: (body ++ '}' :: '}' :: ys) := by
    simp [Piece.source]
  have hclosing := closing?_append ys hb hl
  rw [hsource, pieces]
  split
  · simp_all
  · simp_all

theorem head?_fillIn {cs : List Char} (vars : VariableSet) (h : cs.head? ≠ some '{') :
    (fillIn cs vars).head? = cs.head? := by
  cases cs with
  | nil => simp [fillIn, pieces]
  | cons c rest =>
    have hc : c ≠ '{' := by simpa using h
    rw [fillIn, Layout.pieces_cons_of_not_pair fun h => absurd h hc]
    rfl

/-- Where no value holds an opening brace, what is left of a text that is filled in is what was there before. -/
theorem pieces_fillIn {vars : VariableSet} (h : ∀ v ∈ vars.toList, '{' ∉ v.value.toList) (cs : List Char) :
    pieces (fillIn cs vars) = (pieces cs).flatMap (Piece.refill vars) := by
  unfold fillIn
  fun_induction pieces cs with
  | case1 rest body after hclosing ih =>
    rw [List.flatMap_cons, List.flatMap_cons, ← ih, Piece.refill]
    cases hv : (Piece.span body).value? vars with
    | none => rw [Piece.fill_of_value?_eq_none hv, pieces_span_append hclosing, List.singleton_append]
    | some value =>
      obtain ⟨field, -, hfield⟩ := Option.bind_eq_some_iff.1 hv
      obtain ⟨v, hmem, -, rfl⟩ := VariableSet.exists_mem_of_value? hfield
      have hbrace := h v hmem
      have hlast : v.value.toList.getLast? ≠ some '{' := fun hl => hbrace (List.mem_of_getLast? hl)
      rw [Piece.fill_of_value? hv, Layout.pieces_append _ (not_hasPair_of_not_mem hbrace) fun hl => absurd hl hlast]
  | case2 rest hclosing ih =>
    -- these braces are never closed, so no placeholder comes after them
    have hspan : ¬ HasSpan ('{' :: rest) := by
      intro hspan
      have hpair := hspan.hasPair_close
      rw [hasPair_cons] at hpair
      exact closing?_eq_none_iff.1 hclosing (hpair.resolve_left (by simp))
    have hrest : (pieces ('{' :: rest)).flatMap (Piece.fill vars) = '{' :: rest := fillIn_of_not_hasSpan hspan vars
    rw [List.flatMap_cons, List.flatMap_cons, ← ih, hrest]
    show pieces ('{' :: '{' :: rest) = _
    rw [pieces]
    split
    · simp_all
    · rfl
  | case3 c rest hc ih =>
    rw [List.flatMap_cons, List.flatMap_cons, ← ih]
    refine Layout.pieces_cons_of_not_pair ?_
    rintro rfl hhead
    have hrest : rest.head? ≠ some '{' := by
      intro hh
      cases rest with
      | nil => simp at hh
      | cons d rest => exact hc rest rfl (by simpa using hh)
    exact hrest (head?_fillIn vars hrest ▸ hhead)
  | case4 => simp [pieces]

theorem Piece.flatMap_fill_refill (vars others : VariableSet) (p : Piece) :
    (p.refill vars).flatMap (fill others) = p.fill (vars.union others) := by
  cases p with
  | literal c => rfl
  | span body =>
    have hunion : (span body).value? (vars.union others) =
        ((span body).value? vars).or ((span body).value? others) := by
      cases hf : field? body <;> simp [value?, hf, VariableSet.value?_union]
    rw [refill]
    cases hv : (span body).value? vars with
    | some value =>
      rw [hv, Option.some_or] at hunion
      rw [fill_of_value? hunion, List.flatMap_map]
      exact List.flatMap_singleton' _
    | none =>
      rw [hv, Option.none_or] at hunion
      rw [List.flatMap_singleton]
      cases ho : (span body).value? others with
      | some value => rw [fill_of_value? ho, fill_of_value? (hunion.trans ho)]
      | none => rw [fill_of_value?_eq_none ho, fill_of_value?_eq_none (hunion.trans ho)]

theorem fillIn_fillIn {vars : VariableSet} (h : ∀ v ∈ vars.toList, '{' ∉ v.value.toList) (others : VariableSet)
    (cs : List Char) : fillIn (fillIn cs vars) others = fillIn cs (vars.union others) := by
  rw [fillIn, pieces_fillIn h, List.flatMap_assoc, fillIn]
  congr 1
  funext p
  exact p.flatMap_fill_refill vars others

theorem render_union {vars : VariableSet} (h : ∀ v ∈ vars.toList, '{' ∉ v.value.toList) (others : VariableSet)
    (template : String) :
    render (render template vars false) others false = render template (vars.union others) false := by
  show String.ofList (fillIn (String.ofList (fillIn template.toList vars)).toList others) = _
  rw [String.toList_ofList, fillIn_fillIn h]
  rfl

/-- Variables are filled in one after the other as all at once. -/
theorem render_one_at_a_time {vs : List Variable} (h : ∀ v ∈ vs, '{' ∉ v.value.toList) (template : String) :
    vs.foldl (fun text v => render text (.ofList [v]) false) template = render template (.ofList vs) false := by
  induction vs generalizing template with
  | nil =>
    have hempty : ∀ cs, fillIn cs (.ofList []) = cs := by
      intro cs
      have hfill : Piece.fill (.ofList []) = Piece.source := by
        funext p
        cases p with
        | literal c => rfl
        | span body => exact Piece.fill_of_value?_eq_none (by cases hf : field? body <;> simp [Piece.value?, hf]; rfl)
      rw [fillIn, hfill, source_pieces]
    show template = String.ofList (fillIn template.toList _)
    rw [hempty, String.ofList_toList]
  | cons v vs ih =>
    rw [List.forall_mem_cons] at h
    have hone : ∀ w ∈ (VariableSet.ofList [v]).toList, '{' ∉ w.value.toList := by
      intro w hw
      have hget := VariableSet.get?_of_mem hw
      rw [VariableSet.get?_ofList] at hget
      have hwv : w = v := by simpa using List.mem_of_find?_eq_some hget
      exact hwv ▸ h.1
    have hvalue : ((VariableSet.ofList [v]).union (.ofList vs)).value? = (VariableSet.ofList (v :: vs)).value? := by
      funext name
      rw [VariableSet.value?_union, VariableSet.value?, VariableSet.value?, VariableSet.value?, VariableSet.get?_ofList,
        VariableSet.get?_ofList, VariableSet.get?_ofList, ← Option.map_or, ← List.find?_append]
      rfl
    rw [List.foldl_cons, ih h.2, render_union hone]
    exact congrArg String.ofList (fillIn_congr hvalue _)

/-- As long as no value holds an opening brace, a text may be filled in with some variables first and then with others:
that is to fill in all of them at once, those of the first set counting before those of the second. So variables may be
filled in one at a time, in any order. -/
theorem render_stages {vars : VariableSet} (h : ∀ v ∈ vars.toList, '{' ∉ v.value.toList) (template : String) :
    (∀ others, render (render template vars false) others false = render template (vars.union others) false) ∧
    ∀ vs : List Variable, vs.Perm vars.toList →
      vs.foldl (fun text v => render text (.ofList [v]) false) template = render template vars false := by
  refine ⟨fun others => render_union h others template, ?_⟩
  intro vs hperm
  have hvalue : (VariableSet.ofList vs).value? = vars.value? := by
    funext name
    rw [VariableSet.value?, VariableSet.get?_ofList_of_perm hperm]
    rfl
  rw [render_one_at_a_time (fun v hv => h v (hperm.mem_iff.1 hv))]
  exact congrArg String.ofList (fillIn_congr hvalue _)

/-- Values with and without braces, beside a span that is no placeholder and braces that are never closed. -/
theorem render_stages_dangling :
    let template :=
      "\x7b\x7b\x7ba|text\x7d\x7d\x7d\x7b\x7boops\x7d\x7d\x7b\x7b b |url\x7d\x7d\x7b\x7bc|nope\x7d\x7d \x7b\x7b"
    let vars : VariableSet := .ofList [⟨"\x7ba", .text, "\x7d"⟩, ⟨"c", .text, ""⟩]
    let others : VariableSet := .ofList [⟨"b", .url, "\x7b\x7bx"⟩, ⟨"\x7ba", .text, "other"⟩]
    render template vars false = "\x7d\x7d\x7b\x7boops\x7d\x7d\x7b\x7b b |url\x7d\x7d \x7b\x7b" ∧
    render (render template vars false) others false = "\x7d\x7d\x7b\x7boops\x7d\x7d\x7b\x7bx \x7b\x7b" ∧
    render (render template vars false) others false = render template (vars.union others) false ∧
    [(⟨"c", .text, ""⟩ : Variable), ⟨"\x7ba", .text, "\x7d"⟩].foldl
      (fun text v => render text (.ofList [v]) false) template = render template vars false := by
  intro template vars others
  have hfree : ∀ v ∈ vars.toList, '{' ∉ v.value.toList := by decide
  obtain ⟨hboth, hone⟩ := render_stages hfree template
  exact ⟨by decide +kernel, by decide +kernel, hboth others, hone _ (by decide)⟩

end Template

end TypedTemplates
