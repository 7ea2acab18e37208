import TypedTemplates.Proofs.Template.Grammar
import Mathlib.Data.List.Permutation

/-!
# Filling in templates

With a value for every declared name, a template is filled in with one value at each of its placeholders,
whatever types they name, and nothing else of it changes. If no value holds an opening brace, no two of them
can meet in the output, since no literal before a placeholder ends in one
(`Layout.Separated.not_hasPair_fill`).
-/

namespace TypedTemplates

namespace Template

namespace Layout

theorem fill_congr {f g : Mark → List Char} {l : Layout} (h : ∀ m ∈ l.marks, f m = g m) :
    l.fill f = l.fill g := by
  induction l with
  | last literal => rfl
  | cons literal m rest ih =>
    rw [marks, List.forall_mem_cons] at h
    rw [fill, fill, h.1, ih h.2]

/-- Texts without opening braces bring no two of them together. -/
theorem Separated.not_hasPair_fill {l : Layout} {f : Mark → List Char} (h : l.Separated)
    (hf : ∀ m ∈ l.marks, '{' ∉ f m) : ¬ HasPair '{' (l.fill f) := by
  induction l with
  | last literal => exact h
  | cons literal m rest ih =>
    obtain ⟨ho, hl, -, -, hr⟩ := h
    rw [marks, List.forall_mem_cons] at hf
    have hlast : (literal ++ f m).getLast? ≠ some '{' := by
      rw [List.getLast?_append]
      cases hm : (f m).getLast? with
      | none => simpa using hl
      | some c =>
        have hc := List.mem_of_getLast? hm
        rintro ⟨⟩
        exact hf.1 hc
    -- a pair lies in one of the parts or across a join, and a join has no brace on its left
    rw [fill, hasPair_append, hasPair_append]
    rintro ((h | h | h) | h | h)
    · exact ho h
    · exact not_hasPair_of_not_mem hf.1 h
    · exact hl h.1
    · exact ih hr hf.2 h
    · exact hlast h.1

end Layout

theorem Mark.fill_eq {vars : VariableSet} {m : Mark} {value : String} (h : vars.value? m.varName = some value) :
    m.fill vars = value.toList := by
  rw [fill, h]

/-- The layout of a template: its placeholders are the declarations, and without one there is no span. -/
theorem Layout.of_declarations {template : String} {ds : List Declaration} (h : declarations template = .ok ds) :
    (Layout.of template.toList).marks.map Mark.varName = ds.map (·.name) ∧
      ((Layout.of template.toList).marks = [] ∧ ¬ HasSpan template.toList ∨
        (Layout.of template.toList).marks ≠ [] ∧ (Layout.of template.toList).Grammatical) := by
  rcases declarationsOf_eq_ok_iff.1 h with ⟨hspan, -, rfl⟩ | ⟨l, hne, hg, hs, hwords⟩
  · have hmarks := Layout.marks_of_eq_nil hspan
    exact ⟨by rw [hmarks]; rfl, .inl ⟨hmarks, hspan⟩⟩
  · rw [← hs, hg.separated.of_source]
    exact ⟨map_varName_eq hwords, .inr ⟨hne, hg⟩⟩

/-- Where every declared name has a value, that value stands in place of each of its placeholders. -/
theorem render_eq_fill {template : String} {ds : List Declaration} {vars : VariableSet} (value : String → String)
    (hd : declarations template = .ok ds) (hvalue : ∀ name ∈ ds.map (·.name), vars.value? name = some (value name)) :
    render template vars false =
      String.ofList ((Layout.of template.toList).fill fun m => (value m.varName).toList) := by
  have hfill : (Layout.of template.toList).fill (Mark.fill vars) =
      (Layout.of template.toList).fill fun m => (value m.varName).toList := by
    apply Layout.fill_congr
    intro m hm
    refine Mark.fill_eq (hvalue _ ?_)
    rw [← (Layout.of_declarations hd).1]
    exact List.mem_map_of_mem hm
  rw [← hfill, ← fillIn_eq]
  rfl

/-- The variables of a template have all values that it takes to fill it in. -/
theorem render_seeded {template : String} {ds : List Declaration} (prior : String → Option String)
    (hd : declarations template = .ok ds) :
    render template (seeded prior ds) false = String.ofList ((Layout.of template.toList).fill fun m =>
      (((seeded prior ds).value? m.varName).getD "").toList) := by
  refine render_eq_fill (fun name => ((seeded prior ds).value? name).getD "") hd ?_
  intro name hname
  rw [value?_seeded, if_pos hname]
  rfl

/-- A template is laid out around its placeholders, and any set with the declared names fills in a value for
each of them. Where no value holds an opening brace, the output has no span. -/
theorem render_eq_fill_of_parse {template : String} {prior : String → Option String} {vs vs' : VariableSet}
    (h : parse template prior = .ok vs) (hnames : ∀ name, name ∈ vs'.names ↔ name ∈ vs.names) :
    ∃ l : Layout, l.source = template.toList ∧ l.placeholdersFrom 0 = placeholders template ∧
      (l.marks ≠ [] → l.Grammatical) ∧
      (∃ value : Mark → String, (∀ m ∈ l.marks, vs'.value? m.varName = some (value m)) ∧
        render template vs' false = String.ofList (l.fill fun m => (value m).toList)) ∧
      (l.marks = [] → render template vs' false = template) ∧
      ((∀ v ∈ vs'.toList, '{' ∉ v.value.toList) → ¬ HasSpan (render template vs' false).toList) := by
  obtain ⟨ds, hds, rfl⟩ := parse_eq_ok_iff.1 h
  obtain ⟨hmarks, hcases⟩ := Layout.of_declarations hds
  have hsource := Layout.source_of template.toList
  have hplaces := Layout.placeholders_of template
  have hrender : render template vs' false = String.ofList ((Layout.of template.toList).fill (Mark.fill vs')) := by
    rw [← fillIn_eq]
    rfl
  generalize Layout.of template.toList = l at *
  have hvalue : ∀ m ∈ l.marks, ∃ value, vs'.value? m.varName = some value := by
    intro m hm
    rw [← VariableSet.mem_names_iff, hnames, names_seeded, List.mem_eraseDups, ← hmarks]
    exact List.mem_map_of_mem hm
  have hnil : l.marks = [] → render template vs' false = template := by
    intro hnil
    have hfill : l.fill (Mark.fill vs') = l.source := Layout.fill_congr (by simp [hnil])
    rw [hrender, hfill, hsource, String.ofList_toList]
  refine ⟨l, hsource, hplaces, ?_, ?_, hnil, ?_⟩
  · intro hne
    rcases hcases with ⟨hnil, -⟩ | ⟨-, hg⟩
    · exact absurd hnil hne
    · exact hg
  · refine ⟨fun m => (vs'.value? m.varName).getD "", ?_, ?_⟩
    · intro m hm
      obtain ⟨value, hv⟩ := hvalue m hm
      simp [hv]
    · rw [hrender]
      congr 1
      apply Layout.fill_congr
      intro m hm
      obtain ⟨value, hv⟩ := hvalue m hm
      simp [Mark.fill_eq hv, hv]
  · intro hfree
    rcases hcases with ⟨hmarks, hspan⟩ | ⟨-, hg⟩
    · rwa [hnil hmarks]
    · rw [hrender, String.toList_ofList]
      refine fun hspan => hg.separated.not_hasPair_fill ?_ hspan.hasPair_open
      intro m hm
      obtain ⟨value, hv⟩ := hvalue m hm
      obtain ⟨v, hmem, -, rfl⟩ := VariableSet.exists_mem_of_value? hv
      rw [Mark.fill_eq hv]
      exact hfree v hmem

/-- Empty values beside opening braces that stand alone. -/
theorem render_eq_fill_of_parse_braces :
    ∃ vs vs' : VariableSet,
      parse "\x7b \x7b\x7b\x7ba|text\x7d\x7d\x7d\x7b \x7b\x7b b |url\x7d\x7d\x7b" (fun _ => none) = .ok vs ∧
      (∀ name, name ∈ vs'.names ↔ name ∈ vs.names) ∧
      render "\x7b \x7b\x7b\x7ba|text\x7d\x7d\x7d\x7b \x7b\x7b b |url\x7d\x7d\x7b" vs' false = "\x7b \x7d\x7b \x7b" ∧
      ¬ HasSpan (render "\x7b \x7b\x7b\x7ba|text\x7d\x7d\x7d\x7b \x7b\x7b b |url\x7d\x7d\x7b" vs' false).toList := by
  have hp : parse "\x7b \x7b\x7b\x7ba|text\x7d\x7d\x7d\x7b \x7b\x7b b |url\x7d\x7d\x7b" (fun _ => none) =
      .ok (.ofList [⟨"\x7ba", .text, ""⟩, ⟨"b", .url, ""⟩]) := by cbv
  have hnames : ∀ name, name ∈ (VariableSet.ofList [⟨"b", .phone, ""⟩, ⟨"\x7ba", .text, ""⟩]).names ↔
      name ∈ (VariableSet.ofList [⟨"\x7ba", .text, ""⟩, ⟨"b", .url, ""⟩]).names := by
    intro name
    show name ∈ ["b", "\x7ba"] ↔ name ∈ ["\x7ba", "b"]
    simp [or_comm]
  have hfree : ∀ v ∈ (VariableSet.ofList [⟨"b", .phone, ""⟩, ⟨"\x7ba", .text, ""⟩]).toList,
      '{' ∉ v.value.toList := by decide
  obtain ⟨-, -, -, -, -, -, hspan⟩ := render_eq_fill_of_parse hp hnames
  exact ⟨_, _, hp, hnames, by cbv, hspan hfree⟩

end Template

end TypedTemplates
