import TypedTemplates.Proofs.Template.Checks
import TypedTemplates.Proofs.Template.Declared

/-!
# The grammar of templates

A layout is grammatical if its literals hold no pairs of braces and its marks are valid; that is what the
checks find (`Layout.grammatical_iff`). So a text with a span is a template if and only if it is the source
of a grammatical layout, which is then its only one (`declarationsOf_eq_ok_iff`,
`Layout.Grammatical.eq_of_source`).
-/

namespace TypedTemplates.Template

open Text (trim)

/-- What a template asks of a placeholder. Where the name begins with a brace, what follows it has to be a
name too. -/
structure Mark.Valid (m : Mark) : Prop where
  no_bar : '|' ∉ m.name
  name_open : ¬ HasPair '{' m.name
  name_close : ¬ HasPair '}' m.name
  name_ne_nil : trim m.name ≠ []
  rest_ne_nil : ∀ rest, m.name = '{' :: rest → trim rest ≠ []
  token_open : ¬ HasPair '{' m.token
  token_close : '}' ∉ m.token
  type : ∃ t : VarType, m.typeWord = t.token

/-- No literal holds a pair of braces, none before a placeholder ends in an opening one, and every
placeholder is valid. -/
def Layout.Grammatical : Layout → Prop
  | .last literal => ¬ HasPair '{' literal ∧ ¬ HasPair '}' literal
  | .cons literal m rest =>
    ¬ HasPair '{' literal ∧ ¬ HasPair '}' literal ∧ literal.getLast? ≠ some '{' ∧ m.Valid ∧ rest.Grammatical

theorem Mark.Valid.wellFormed {m : Mark} (h : m.Valid) : m.WellFormed where
  no_bar := h.no_bar
  name_open := h.name_open
  name_ne_nil := h.name_ne_nil
  token_open := h.token_open
  token_close := h.token_close
  token_ne_nil := by
    intro hn
    obtain ⟨t, ht⟩ := h.type
    rw [typeWord, hn] at ht
    revert ht
    cases t <;> decide

namespace Layout

theorem Grammatical.separated {l : Layout} (h : l.Grammatical) : l.Separated := by
  induction l with
  | last literal => exact h.1
  | cons literal m rest ih =>
    obtain ⟨ho, -, hl, hm, hr⟩ := h
    exact ⟨ho, hl, hm.wellFormed, hm.name_close, ih hr⟩

theorem Grammatical.valid {l : Layout} (h : l.Grammatical) : ∀ m ∈ l.marks, m.Valid := by
  induction l with
  | last literal => simp [marks]
  | cons literal m rest ih =>
    obtain ⟨-, -, -, hm, hr⟩ := h
    simpa only [marks, List.forall_mem_cons] using And.intro hm (ih hr)

theorem Grammatical.no_close {l : Layout} (h : l.Grammatical) :
    ∀ literal ∈ l.literals, ¬ HasPair '}' literal := by
  induction l with
  | last literal => simpa [literals] using h.2
  | cons literal m rest ih =>
    obtain ⟨-, hc, -, -, hr⟩ := h
    simpa only [literals, List.forall_mem_cons] using And.intro hc (ih hr)

/-- A layout is grammatical if its text passes the checks and its placeholders name types. -/
theorem grammatical_iff {l : Layout} :
    l.Grammatical ↔ l.Separated ∧ hasStrayOpening l.source = false ∧
      countPairs '{' l.source = countPairs '}' l.source ∧
      ∀ m ∈ l.marks, ∃ t : VarType, m.typeWord = t.token := by
  constructor
  · intro h
    have hs := h.separated
    exact ⟨hs, hs.hasStrayOpening_source.2 fun m hm => (h.valid m hm).rest_ne_nil, hs.balanced_iff.2 h.no_close,
      fun m hm => (h.valid m hm).type⟩
  · rintro ⟨hs, hstray, hcount, htype⟩
    rw [hs.hasStrayOpening_source] at hstray
    rw [hs.balanced_iff] at hcount
    induction l with
    | last literal => exact ⟨hs, hcount literal (by simp [literals])⟩
    | cons literal m rest ih =>
      obtain ⟨ho, hl, hm, hc, hr⟩ := hs
      simp only [marks, literals, List.forall_mem_cons] at hstray hcount htype
      exact ⟨ho, hcount.1, hl, ⟨hm.no_bar, hm.name_open, hc, hm.name_ne_nil, hstray.1, hm.token_open,
        hm.token_close, htype.1⟩, ih hr hstray.2 hcount.2 htype.2⟩

end Layout

/-- A text is a template if it has no span and equally many pairs, or a grammatical layout. -/
theorem declarationsOf_eq_ok_iff {cs : List Char} {ds : List Declaration} :
    declarationsOf cs = .ok ds ↔
      (¬ HasSpan cs ∧ countPairs '{' cs = countPairs '}' cs ∧ ds = []) ∨
      ∃ l : Layout, l.marks ≠ [] ∧ l.Grammatical ∧ l.source = cs ∧
        (l.marks.map fun m => (m.varName, m.typeWord)) = ds.map fun d => (d.name, d.type.token) := by
  constructor
  · intro h
    by_cases hcount : countPairs '{' cs = countPairs '}' cs
    · by_cases hspan : HasSpan cs
      · right
        cases hstray : hasStrayOpening cs with
        | true => simp [declarationsOf_of_stray hcount hspan hstray] at h
        | false =>
          have hsource := Layout.source_of cs
          rw [declarationsOf_of_not_stray hcount hstray, typed_fieldsFrom_eq_ok_iff] at h
          refine ⟨Layout.of cs, Layout.marks_of_ne_nil hspan hstray, ?_, hsource, h⟩
          rw [Layout.grammatical_iff, hsource]
          refine ⟨Layout.separated_of hstray, hstray, hcount, fun m hm => ?_⟩
          have hwords := h ▸ List.mem_map_of_mem (f := fun m : Mark => (m.varName, m.typeWord)) hm
          obtain ⟨d, -, hd⟩ := List.mem_map.1 hwords
          exact ⟨d.type, (congrArg Prod.snd hd).symm⟩
      · left
        rw [declarationsOf_of_not_hasSpan hcount hspan, Except.ok.injEq] at h
        exact ⟨hspan, hcount, h.symm⟩
    · simp [declarationsOf_of_unbalanced hcount] at h
  · rintro (⟨hspan, hcount, rfl⟩ | ⟨l, -, hg, rfl, hds⟩)
    · exact declarationsOf_of_not_hasSpan hcount hspan
    · obtain ⟨hs, hstray, hcount, -⟩ := Layout.grammatical_iff.1 hg
      rw [declarationsOf_of_not_stray hcount hstray, hs.of_source, typed_fieldsFrom_eq_ok_iff, hds]

private theorem exists_declarations {ms : List Mark} (h : ∀ m ∈ ms, ∃ t : VarType, m.typeWord = t.token) :
    ∃ ds : List Declaration,
      (ms.map fun m => (m.varName, m.typeWord)) = ds.map fun d => (d.name, d.type.token) := by
  induction ms with
  | nil => exact ⟨[], rfl⟩
  | cons m ms ih =>
    rw [List.forall_mem_cons] at h
    obtain ⟨⟨t, ht⟩, hms⟩ := h
    obtain ⟨ds, hds⟩ := ih hms
    exact ⟨⟨m.varName, t⟩ :: ds, by simp [ht, hds]⟩

/-- A text with a grammatical layout is a template, whose declarations are its marks. -/
theorem Layout.Grammatical.exists_declarationsOf_eq_ok {l : Layout} (h : l.Grammatical) :
    ∃ ds, declarationsOf l.source = .ok ds ∧
      (l.marks.map fun m => (m.varName, m.typeWord)) = ds.map fun d => (d.name, d.type.token) := by
  obtain ⟨hs, hstray, hcount, htype⟩ := grammatical_iff.1 h
  obtain ⟨ds, hds⟩ := exists_declarations htype
  refine ⟨ds, ?_, hds⟩
  rw [declarationsOf_of_not_stray hcount hstray, hs.of_source, typed_fieldsFrom_eq_ok_iff, hds]

/-- A text is the source of at most one grammatical layout. -/
theorem Layout.Grammatical.eq_of_source {l l' : Layout} (h : l.Grammatical) (h' : l'.Grammatical)
    (hs : l'.source = l.source) : l' = l := by
  rw [← h'.separated.of_source, hs, h.separated.of_source]

theorem map_varName_eq {ms : List Mark} {ds : List Declaration}
    (h : (ms.map fun m => (m.varName, m.typeWord)) = ds.map fun d => (d.name, d.type.token)) :
    ms.map Mark.varName = ds.map (·.name) := by
  have hfst := congrArg (List.map Prod.fst) h
  rwa [List.map_map, List.map_map] at hfst

/-- A mark of the first placeholder of a name, seen through what it declares. -/
private theorem find?_marks {ms : List Mark} {ds : List Declaration} {d : Declaration} {name : String}
    (h : (ms.map fun m => (m.varName, m.typeWord)) = ds.map fun d => (d.name, d.type.token))
    (hd : (ds.find? fun d => d.name == name) = some d) :
    ∃ m, (ms.find? fun m => m.varName == name) = some m ∧ m.typeWord = d.type.token := by
  have hf := congrArg (List.find? fun w : String × String => w.1 == name) h
  rw [List.find?_map, List.find?_map] at hf
  have hds : (ds.find? ((fun w : String × String => w.1 == name) ∘ fun d => (d.name, d.type.token))) = some d :=
    hd
  rw [hds, Option.map_some, Option.map_eq_some_iff] at hf
  obtain ⟨m, hm, hw⟩ := hf
  exact ⟨m, hm, congrArg Prod.snd hw⟩

theorem exists_parse_eq_ok_iff {template : String} {prior : String → Option String} :
    (∃ vs, parse template prior = .ok vs) ↔
      (¬ HasSpan template.toList ∧ countPairs '{' template.toList = countPairs '}' template.toList) ∨
      ∃ l : Layout, l.marks ≠ [] ∧ l.Grammatical ∧ l.source = template.toList := by
  have hparse : (∃ vs, parse template prior = .ok vs) ↔ ∃ ds, declarationsOf template.toList = .ok ds := by
    simp only [parse_eq_ok_iff, declarations]
    exact ⟨fun ⟨_, ds, hds, _⟩ => ⟨ds, hds⟩, fun ⟨ds, hds⟩ => ⟨_, ds, hds, rfl⟩⟩
  rw [hparse]
  constructor
  · rintro ⟨ds, hds⟩
    rcases declarationsOf_eq_ok_iff.1 hds with ⟨hspan, hcount, -⟩ | ⟨l, hl, hg, hs, -⟩
    · exact .inl ⟨hspan, hcount⟩
    · exact .inr ⟨l, hl, hg, hs⟩
  · rintro (⟨hspan, hcount⟩ | ⟨l, -, hg, hs⟩)
    · exact ⟨[], declarationsOf_of_not_hasSpan hcount hspan⟩
    · obtain ⟨ds, hds, -⟩ := hg.exists_declarationsOf_eq_ok
      exact ⟨ds, hs ▸ hds⟩

/-- The variables of a template, read off its grammatical layout. -/
theorem Layout.Grammatical.exists_parse_eq_ok {l : Layout} (h : l.Grammatical) {template : String}
    (hs : l.source = template.toList) (prior : String → Option String) :
    ∃ vs, parse template prior = .ok vs ∧
      vs.names = (l.marks.map Mark.varName).eraseDups ∧
      ∀ v ∈ vs.toList, v.value = (prior v.name).getD "" ∧
        ∃ m, (l.marks.find? fun m => m.varName == v.name) = some m ∧ m.typeWord = v.type.token := by
  obtain ⟨ds, hds, hwords⟩ := h.exists_declarationsOf_eq_ok
  have hdecl : declarations template = .ok ds := by rw [declarations, ← hs, hds]
  have hnames : (seeded prior ds).names = (l.marks.map Mark.varName).eraseDups := by
    rw [names_seeded, map_varName_eq hwords]
  refine ⟨seeded prior ds, parse_eq_ok_iff.2 ⟨ds, hdecl, rfl⟩, hnames, ?_⟩
  intro v hv
  have hget := VariableSet.get?_of_mem hv
  rw [get?_seeded, Option.map_eq_some_iff] at hget
  obtain ⟨d, hd, rfl⟩ := hget
  exact ⟨rfl, find?_marks hwords hd⟩

/-- A text is a template if and only if it has no span and equally many opening and closing pairs, or is the
source of a grammatical layout with placeholders. Without a span it declares nothing. Of grammatical layouts
with placeholders it has at most one, whose distinct names are the variables in the order of their first
placeholders, each with the type that its first placeholder names and the value known before. -/
theorem accepted_iff_grammatical (template : String) (prior : String → Option String) :
    ((∃ vs, parse template prior = .ok vs) ↔
      (¬ HasSpan template.toList ∧ countPairs '{' template.toList = countPairs '}' template.toList) ∨
      ∃ l : Layout, l.marks ≠ [] ∧ l.Grammatical ∧ l.source = template.toList) ∧
    (¬ HasSpan template.toList → countPairs '{' template.toList = countPairs '}' template.toList →
      parse template prior = .ok VariableSet.empty) ∧
    ∀ l : Layout, l.marks ≠ [] → l.Grammatical → l.source = template.toList →
      (∀ l' : Layout, l'.marks ≠ [] → l'.Grammatical → l'.source = template.toList → l' = l) ∧
      ∃ vs, parse template prior = .ok vs ∧
        vs.names = (l.marks.map Mark.varName).eraseDups ∧
        ∀ v ∈ vs.toList, v.value = (prior v.name).getD "" ∧
          ∃ m, (l.marks.find? fun m => m.varName == v.name) = some m ∧ m.typeWord = v.type.token := by
  refine ⟨exists_parse_eq_ok_iff, ?_, ?_⟩
  · intro hspan hcount
    exact parse_eq_ok_iff.2 ⟨[], declarationsOf_of_not_hasSpan hcount hspan, rfl⟩
  · intro l _ hg hs
    constructor
    · intro l' _ hg' hs'
      exact hg.eq_of_source hg' (hs'.trans hs.symm)
    · exact hg.exists_parse_eq_ok hs prior

end TypedTemplates.Template
