import TypedTemplates.Proofs.Template.Spacing

/-!
# Ranges of placeholders

A slice of a text is named by two offsets in bytes, and there is none if they are out of order, out of the text or
within a character (`slice?_eq_some_iff`). The ranges of the placeholders of any text, be it a template or not, name
slices of it, each from two opening braces to the nearest closing ones, and the slices between them are all that is
left of the text (`Layout.tilesFrom?_eq`). So a text can be filled in slice by slice, with a cursor that only goes
forward past the placeholders that have been replaced (`Layout.fillFrom?_eq`).
-/

namespace TypedTemplates.Template

open Text (trim)

/-! ### Slices -/

theorem utf8ByteSize_ofList (cs : List Char) : (String.ofList cs).utf8ByteSize = byteLength cs := by
  induction cs with
  | nil => rfl
  | cons c cs ih =>
    rw [String.ofList_cons, String.utf8ByteSize_append, String.utf8ByteSize_singleton, ih, byteLength]

theorem byteLength_toList (s : String) : byteLength s.toList = s.utf8ByteSize := by
  rw [← utf8ByteSize_ofList, String.ofList_toList]

/-- The first `n` bytes of a text and what follows them, or nothing if they are not whole characters of it. -/
def cut? : List Char → Nat → Option (List Char × List Char)
  | cs, 0 => some ([], cs)
  | [], _ + 1 => none
  | c :: cs, n + 1 =>
    if c.utf8Size ≤ n + 1 then (cut? cs (n + 1 - c.utf8Size)).map fun parts => (c :: parts.1, parts.2) else none

theorem cut?_eq_some_iff {cs before after : List Char} {n : Nat} :
    cut? cs n = some (before, after) ↔ cs = before ++ after ∧ byteLength before = n := by
  constructor
  · intro h
    fun_induction cut? cs n generalizing before with
    | case1 cs =>
      cases h
      exact ⟨rfl, rfl⟩
    | case2 => cases h
    | case3 n c cs hle ih =>
      obtain ⟨parts, hparts, heq⟩ := Option.map_eq_some_iff.1 h
      cases heq
      obtain ⟨hcs, hlength⟩ := ih hparts
      refine ⟨by rw [hcs, List.cons_append], ?_⟩
      rw [byteLength, hlength]
      omega
    | case4 => cases h
  · rintro ⟨rfl, rfl⟩
    induction before with
    | nil => rw [List.nil_append, byteLength, cut?]
    | cons c before ih =>
      have hpos := c.utf8Size_pos
      obtain ⟨n, hn⟩ : ∃ n, byteLength (c :: before) = n + 1 :=
        ⟨byteLength (c :: before) - 1, by rw [byteLength]; omega⟩
      have hrest : n + 1 - c.utf8Size = byteLength before := by
        rw [byteLength] at hn
        omega
      have hle : c.utf8Size ≤ n + 1 := by
        rw [byteLength] at hn
        omega
      rw [hn, List.cons_append, cut?, if_pos hle, hrest, ih, Option.map_some]

/-- The slice of a text from one offset to another, or nothing if they are out of order, out of the text or within a
character. -/
def slice? (cs : List Char) (start stop : Nat) : Option (List Char) :=
  if start ≤ stop then
    ((cut? cs start).bind fun parts => cut? parts.2 (stop - start)).map (·.1)
  else none

theorem slice?_eq_some_iff {cs text : List Char} {start stop : Nat} :
    slice? cs start stop = some text ↔
      ∃ before after, cs = before ++ text ++ after ∧ byteLength before = start ∧
        byteLength (before ++ text) = stop := by
  unfold slice?
  constructor
  · intro h
    split at h
    · next hle =>
      obtain ⟨⟨_, after⟩, hcut, rfl⟩ := Option.map_eq_some_iff.1 h
      obtain ⟨⟨before, rest⟩, hstart, hstop⟩ := Option.bind_eq_some_iff.1 hcut
      obtain ⟨rfl, rfl⟩ := cut?_eq_some_iff.1 hstart
      obtain ⟨hrest, hlength⟩ := cut?_eq_some_iff.1 hstop
      refine ⟨before, after, by rw [List.append_assoc]; exact congrArg _ hrest, rfl, ?_⟩
      rw [byteLength_append, hlength]
      omega
    · cases h
  · rintro ⟨before, after, rfl, rfl, rfl⟩
    have hstart : cut? (before ++ text ++ after) (byteLength before) = some (before, text ++ after) :=
      cut?_eq_some_iff.2 ⟨List.append_assoc .., rfl⟩
    have hstop : cut? (text ++ after) (byteLength text) = some (text, after) := cut?_eq_some_iff.2 ⟨rfl, rfl⟩
    rw [byteLength_append, if_pos (Nat.le_add_right _ _), Nat.add_sub_cancel_left, hstart, Option.bind_some, hstop,
      Option.map_some]

theorem slice?_of_eq {cs : List Char} (before text after : List Char) (h : cs = before ++ text ++ after) :
    slice? cs (byteLength before) (byteLength (before ++ text)) = some text :=
  slice?_eq_some_iff.2 ⟨before, after, h, rfl, rfl⟩

/-! ### What ranges hold -/

theorem span_mem_of_mem_marks_ofPieces {ps : List Piece} {m : Mark} (h : m ∈ (Layout.ofPieces ps).marks) :
    .span m.body ∈ ps := by
  induction ps with
  | nil => simp [Layout.ofPieces, Layout.marks] at h
  | cons p ps ih =>
    cases p with
    | literal c => exact List.mem_cons_of_mem _ (ih (by simpa [Layout.ofPieces] using h))
    | span body =>
      cases hf : field? body with
      | none => exact List.mem_cons_of_mem _ (ih (by simpa [Layout.ofPieces, hf] using h))
      | some field =>
        simp only [Layout.ofPieces, hf, Layout.marks, List.mem_cons] at h
        rcases h with rfl | h
        · rw [(Mark.of_field?_eq_some hf).2.1]
          exact List.mem_cons_self
        · exact List.mem_cons_of_mem _ (ih h)

/-- A span ends at the first closing pair after its opening braces. -/
theorem eq_nil_of_span_mem_pieces {cs body inner later : List Char} (h : .span body ∈ pieces cs)
    (hclose : body ++ ['}', '}'] = inner ++ '}' :: '}' :: later) : later = [] := by
  fun_induction pieces cs with
  | case1 rest found after hfound ih =>
    rcases List.mem_cons.1 h with hspan | h
    · cases hspan
      obtain ⟨-, hpair, hlast⟩ := closing?_eq_some_iff.1 hfound
      have hlength := length_le_of_closing? (closing?_append [] hpair hlast) hclose
      have hsum := congrArg List.length hclose
      simp only [List.length_append, List.length_cons, List.length_nil] at hsum
      exact List.eq_nil_of_length_eq_zero (by omega)
    · exact ih h
  | case2 rest _ ih => exact ih (by simpa using h)
  | case3 c rest _ ih => exact ih (by simpa using h)
  | case4 => simp at h

/-! ### Slice by slice -/

/-- The slices of a text between ranges, with the ranges' own slices among them, from a cursor on. -/
def tilesFrom? (cs : List Char) (cursor : Nat) : List Placeholder → Option (List (List Char))
  | [] => (slice? cs cursor (byteLength cs)).map fun last => [last]
  | p :: ps =>
    match slice? cs cursor p.start, slice? cs p.start p.stop, tilesFrom? cs p.stop ps with
    | some literal, some source, some tiles => some (literal :: source :: tiles)
    | _, _, _ => none

/-- The text from a cursor on, with the values of variables in place of the ranges of their placeholders. The cursor
moves past a placeholder when that is replaced. -/
def fillFrom? (cs : List Char) (vars : VariableSet) (cursor : Nat) : List Placeholder → Option (List Char)
  | [] => slice? cs cursor (byteLength cs)
  | p :: ps =>
    match vars.value? (String.ofList p.field.name) with
    | none => fillFrom? cs vars cursor ps
    | some value =>
      match slice? cs cursor p.start, fillFrom? cs vars p.stop ps with
      | some literal, some rest => some (literal ++ value.toList ++ rest)
      | _, _ => none

/-- Where the cursor stands after some placeholders. -/
def cursorAfter (vars : VariableSet) (ps : List Placeholder) : Nat :=
  ps.foldl (fun cursor p => if String.ofList p.field.name ∈ vars.names then p.stop else cursor) 0

theorem cursorAfter_le {vars : VariableSet} {ps : List Placeholder} {bound : Nat} (h : ∀ p ∈ ps, p.stop ≤ bound) :
    cursorAfter vars ps ≤ bound := by
  have hfold : ∀ cursor ≤ bound, ps.foldl (fun cursor p =>
      if String.ofList p.field.name ∈ vars.names then p.stop else cursor) cursor ≤ bound := by
    induction ps with
    | nil => exact fun _ hcursor => hcursor
    | cons p ps ih =>
      obtain ⟨hp, hps⟩ := List.forall_mem_cons.1 h
      intro cursor hcursor
      refine ih hps _ ?_
      dsimp only
      split
      · exact hp
      · exact hcursor
  exact hfold 0 (Nat.zero_le _)

namespace Layout

/-- The literals and the placeholders in turn. -/
def tiles : Layout → List (List Char)
  | last literal => [literal]
  | cons literal m rest => literal :: m.source :: rest.tiles

theorem flatten_tiles (l : Layout) : l.tiles.flatten = l.source := by
  induction l with
  | last literal => simp [tiles]
  | cons literal m rest ih => simp [tiles, ih]

theorem tilesFrom?_eq {cs : List Char} (before : List Char) {l : Layout} (h : cs = before ++ l.source) :
    tilesFrom? cs (byteLength before) (l.placeholdersFrom (byteLength before)) = some l.tiles := by
  induction l generalizing before with
  | last literal =>
    have hslice : slice? cs (byteLength before) (byteLength cs) = some literal := by
      have hend : byteLength cs = byteLength (before ++ literal) := by rw [h, source_last]
      rw [hend]
      exact slice?_of_eq before literal [] (by rw [h, source_last, List.append_nil])
    rw [placeholdersFrom, tilesFrom?, hslice]
    rfl
  | cons literal m rest ih =>
    have hcs : cs = before ++ literal ++ (m.source ++ rest.source) := by rw [h, source_cons]; simp
    have hliteral := slice?_of_eq before literal _ hcs
    have hmark := slice?_of_eq (before ++ literal) m.source rest.source (hcs.trans (by simp))
    have hrest := ih (before ++ literal ++ m.source) (by rw [hcs]; simp)
    simp only [byteLength_append] at hliteral hmark hrest
    simp only [placeholdersFrom, tilesFrom?, hliteral, hmark, hrest]
    rfl

/-- When the text has been filled in up to the cursor, and all that is left is `kept` and a layout, then the rest is
filled in as the layout is. -/
theorem fillFrom?_eq {cs : List Char} (done kept : List Char) {l : Layout} (vars : VariableSet)
    (h : cs = done ++ kept ++ l.source) :
    fillFrom? cs vars (byteLength done) (l.placeholdersFrom (byteLength (done ++ kept))) =
      some (kept ++ l.fill (Mark.fill vars)) := by
  induction l generalizing done kept with
  | last literal =>
    have hslice := slice?_of_eq done (kept ++ literal) [] (h.trans (by simp))
    have hend : byteLength cs = byteLength (done ++ (kept ++ literal)) := by rw [h, List.append_assoc]; rfl
    rw [placeholdersFrom, fillFrom?, hend, hslice]
    rfl
  | cons literal m rest ih =>
    have hname : String.ofList m.field.name = m.varName := rfl
    rw [placeholdersFrom, fillFrom?, hname, fill]
    cases hvalue : vars.value? m.varName with
    | none =>
      -- the cursor stays, and the placeholder is kept as it is written
      have hfill : m.fill vars = m.source := by rw [Mark.fill, hvalue]
      have hrest := ih done (kept ++ literal ++ m.source) (by rw [h, source_cons]; simp)
      simp only [byteLength_append, Nat.add_assoc] at hrest ⊢
      rw [hrest, hfill]
      simp
    | some value =>
      have hcs : cs = done ++ (kept ++ literal) ++ (m.source ++ rest.source) := by rw [h, source_cons]; simp
      have hliteral := slice?_of_eq done (kept ++ literal) _ hcs
      have hrest := ih (done ++ kept ++ literal ++ m.source) [] (by rw [hcs]; simp)
      simp only [byteLength_append, List.append_nil, List.nil_append, Nat.add_assoc] at hliteral hrest ⊢
      simp only [hliteral, hrest, Mark.fill_eq hvalue]
      simp

end Layout

/-! ### The placeholders of a text -/

/-- What stands in the range of a placeholder is a mark of the text. -/
theorem exists_mark_of_mem_placeholders {template : String} {p : Placeholder} (hp : p ∈ placeholders template) :
    p.start < p.stop ∧ p.stop ≤ template.utf8ByteSize ∧ ∃ m ∈ (Layout.of template.toList).marks,
      m.field = p.field ∧ slice? template.toList p.start p.stop = some m.source := by
  rw [placeholders_eq] at hp
  obtain ⟨x, hx, rfl⟩ := List.mem_map.1 hp
  obtain ⟨after, hafter⟩ := Layout.exists_source_eq_of_mem_placesFrom hx
  rw [List.nil_append, Layout.source_of] at hafter
  have hpos : 0 < byteLength x.2.source := byteLength_pos (List.cons_ne_nil _ _)
  have hmark : x.2 ∈ (Layout.of template.toList).marks := by
    rw [← Layout.map_mark_placesFrom []]
    exact List.mem_map_of_mem hx
  refine ⟨Nat.lt_add_of_pos_right hpos, ?_, x.2, hmark, rfl, ?_⟩
  · rw [← byteLength_toList, hafter, byteLength_append, byteLength_append]
    exact Nat.le_add_right _ _
  · rw [← byteLength_append]
    exact slice?_of_eq _ _ _ hafter

theorem placeholders_pairwise (template : String) :
    (placeholders template).Pairwise fun p q => p.stop ≤ q.start := by
  rw [placeholders_eq, List.pairwise_map]
  exact Layout.placesFrom_pairwise_le [] _

/-- Where no placeholder has the name of a variable, a text stays as it is. -/
theorem render_of_not_mem_names {template : String} {vars : VariableSet}
    (h : ∀ p ∈ placeholders template, String.ofList p.field.name ∉ vars.names) :
    render template vars false = template := by
  have hfill : fillIn template.toList vars = (Layout.of template.toList).source := by
    rw [fillIn_eq]
    refine Layout.fill_congr fun m hm => ?_
    rw [← Layout.map_mark_placesFrom []] at hm
    obtain ⟨x, hx, rfl⟩ := List.mem_map.1 hm
    have hname : x.2.varName ∉ vars.names := by
      have hmem := List.mem_map_of_mem (f := fun x : List Char × Mark =>
        Placeholder.mk x.2.field (byteLength x.1) (byteLength x.1 + byteLength x.2.source)) hx
      rw [← placeholders_eq] at hmem
      exact h _ hmem
    rw [Mark.fill, VariableSet.value?_eq_none_iff.2 hname]
  rw [render, if_neg Bool.false_ne_true, hfill, Layout.source_of, String.ofList_toList]

/-- The placeholders of any text have ranges in it, in order and apart from each other. What stands in a range is two
opening braces, a name and a type word with the first bar between them, neither of them blank, and the nearest pair of
closing braces. The slices in the ranges and those between them are the whole text. A text is filled in slice by slice:
the cursor never goes beyond the next placeholder, and the slices that are taken are there. Where no placeholder has
the name of a variable, nothing changes. -/
theorem placeholders_tile (template : String) :
    (∀ p ∈ placeholders template, p.start < p.stop ∧ p.stop ≤ template.utf8ByteSize ∧
      ∃ name token, slice? template.toList p.start p.stop = some ('{' :: '{' :: (name ++ '|' :: token) ++ ['}', '}']) ∧
        (∀ inner later, (name ++ '|' :: token) ++ ['}', '}'] = inner ++ '}' :: '}' :: later → later = []) ∧
        trim name = p.field.name ∧ trim token = p.field.token ∧
        p.field.name ≠ [] ∧ trim p.field.name = p.field.name ∧ '|' ∉ p.field.name ∧
        p.field.token ≠ [] ∧ trim p.field.token = p.field.token) ∧
    ((placeholders template).Pairwise fun p q => p.stop ≤ q.start) ∧
    (∃ tiles, tilesFrom? template.toList 0 (placeholders template) = some tiles ∧ tiles.flatten = template.toList) ∧
    ∀ vars : VariableSet,
      (∀ earlier p later, placeholders template = earlier ++ p :: later →
        cursorAfter vars earlier ≤ p.start ∧ p.start ≤ p.stop ∧ p.stop ≤ template.utf8ByteSize) ∧
      fillFrom? template.toList vars 0 (placeholders template) = some (render template vars false).toList ∧
      ((∀ p ∈ placeholders template, String.ofList p.field.name ∉ vars.names) →
        render template vars false = template) := by
  refine ⟨?_, placeholders_pairwise template, ?_, fun vars => ⟨?_, ?_, render_of_not_mem_names⟩⟩
  · intro p hp
    obtain ⟨hlt, hle, m, hm, hfield, hslice⟩ := exists_mark_of_mem_placeholders hp
    have hwell := Layout.wellFormed_of_mem_marks_ofPieces hm
    have hbar : '|' ∉ trim m.name := fun h => hwell.no_bar ((Text.mem_trim_iff (by decide)).1 h)
    rw [← hfield]
    refine ⟨hlt, hle, m.name, m.token, hslice, ?_, rfl, rfl, hwell.name_ne_nil, Text.trim_trim _, hbar,
      hwell.token_ne_nil, Text.trim_trim _⟩
    intro inner later
    exact eq_nil_of_span_mem_pieces (span_mem_of_mem_marks_ofPieces hm)
  · refine ⟨(Layout.of template.toList).tiles, ?_, by rw [Layout.flatten_tiles, Layout.source_of]⟩
    rw [← Layout.placeholders_of]
    exact Layout.tilesFrom?_eq [] (Layout.source_of _).symm
  · intro earlier p later hsplit
    have hp : p ∈ placeholders template := by simp [hsplit]
    have hapart := placeholders_pairwise template
    rw [hsplit, List.pairwise_append] at hapart
    obtain ⟨hlt, hle, -⟩ := exists_mark_of_mem_placeholders hp
    exact ⟨cursorAfter_le fun q hq => hapart.2.2 q hq p List.mem_cons_self, Nat.le_of_lt hlt, hle⟩
  · have hsource : template.toList = [] ++ [] ++ (Layout.of template.toList).source := (Layout.source_of _).symm
    rw [← Layout.placeholders_of]
    refine (Layout.fillFrom?_eq [] [] vars hsource).trans ?_
    rw [List.nil_append, ← fillIn_eq, render, if_neg Bool.false_ne_true, String.toList_ofList]

end TypedTemplates.Template
