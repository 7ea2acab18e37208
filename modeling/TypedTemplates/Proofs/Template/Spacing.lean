import TypedTemplates.Proofs.Template.Faults
import TypedTemplates.Proofs.Template.Substitution

/-!
# Blanks in placeholders

What a placeholder stands for does not depend on the blanks around its name and its type word
(`Mark.Respaces.field_eq`), and neither do the checks that look at its braces and bars, since none of these is blank
(`Mark.wellFormed_of_field_eq`). Only one check depends on them: where the name is a single brace, a blank keeps it from
making another pair with the opening braces before it (`Mark.Crowded`). So a template can be written with other blanks
in its placeholders, as long as none of them is crowded (`read_alike_of_respaced`).
-/

namespace TypedTemplates

/-! ### Texts with blanks around them -/

namespace Text

/-- The text `cs` is `core` with blanks around it, or with none. -/
def Spaced (core cs : List Char) : Prop :=
  ∃ before after, (∀ c ∈ before, isBlank c = true) ∧ (∀ c ∈ after, isBlank c = true) ∧ cs = before ++ core ++ after

theorem spaced_trim (cs : List Char) : Spaced (trim cs) cs := by
  let tail := cs.dropWhile isBlank
  have hfront := List.takeWhile_append_dropWhile (p := isBlank) (l := cs)
  have hback := List.takeWhile_append_dropWhile (p := isBlank) (l := tail.reverse)
  refine ⟨cs.takeWhile isBlank, (tail.reverse.takeWhile isBlank).reverse, fun c => List.mem_takeWhile_imp, ?_, ?_⟩
  · intro c hc
    exact List.mem_takeWhile_imp (List.mem_reverse.1 hc)
  · have htail : tail = trim cs ++ (tail.reverse.takeWhile isBlank).reverse := by
      rw [trim, ← List.reverse_append, hback, List.reverse_reverse]
    rw [List.append_assoc, ← htail, hfront]

theorem trim_append_left {before : List Char} (h : ∀ c ∈ before, isBlank c = true) (cs : List Char) :
    trim (before ++ cs) = trim cs := by
  rw [trim, List.dropWhile_append_of_pos h, trim]

theorem trim_append_right {after : List Char} (h : ∀ c ∈ after, isBlank c = true) (cs : List Char) :
    trim (cs ++ after) = trim cs := by
  by_cases hblank : ∀ c ∈ cs, isBlank c = true
  · rw [trim_append_left hblank, trim_eq_nil_iff.2 h, trim_eq_nil_iff.2 hblank]
  · have hne : (cs.dropWhile isBlank).isEmpty = false := by
      rw [List.isEmpty_eq_false_iff, ne_eq, List.dropWhile_eq_nil_iff]
      exact hblank
    have hreverse : ∀ c ∈ after.reverse, isBlank c = true := fun c hc => h c (List.mem_reverse.1 hc)
    rw [trim, List.dropWhile_append, hne, if_neg Bool.false_ne_true, List.reverse_append,
      List.dropWhile_append_of_pos hreverse, trim]

theorem Spaced.trim_eq {core cs : List Char} (h : Spaced core cs) : trim cs = trim core := by
  obtain ⟨before, after, hbefore, hafter, rfl⟩ := h
  rw [trim_append_right hafter, trim_append_left hbefore]

theorem trim_trim (cs : List Char) : trim (trim cs) = trim cs :=
  (spaced_trim cs).trim_eq.symm

theorem not_mem_of_blank {c : Char} (hc : isBlank c = false) {cs : List Char} (h : ∀ d ∈ cs, isBlank d = true) :
    c ∉ cs := by
  intro hmem
  rw [h c hmem] at hc
  cases hc

/-- A character that is not blank stays when blanks are taken away. -/
theorem mem_trim_iff {c : Char} (hc : isBlank c = false) {cs : List Char} : c ∈ trim cs ↔ c ∈ cs := by
  obtain ⟨before, after, hbefore, hafter, hcs⟩ := spaced_trim cs
  conv => rhs; rw [hcs]
  simp [not_mem_of_blank hc hbefore, not_mem_of_blank hc hafter]

end Text

namespace Template

open Text (trim isBlank Spaced)

/-- Two characters that are not blank stand together with blanks around the text just if they do without. -/
theorem hasPair_trim_iff {c : Char} (hc : isBlank c = false) {cs : List Char} : HasPair c (trim cs) ↔ HasPair c cs := by
  obtain ⟨before, after, hbefore, hafter, hcs⟩ := Text.spaced_trim cs
  have hb := Text.not_mem_of_blank hc hbefore
  have ha := Text.not_mem_of_blank hc hafter
  have hlast : before.getLast? ≠ some c := fun h => hb (List.mem_of_getLast? h)
  have hhead : after.head? ≠ some c := fun h => ha (List.mem_of_head? h)
  conv => rhs; rw [hcs, List.append_assoc]
  simp only [hasPair_append, not_hasPair_of_not_mem hb, not_hasPair_of_not_mem ha, hlast, hhead, and_false, false_and,
    or_false, false_or]

/-! ### Placeholders with other blanks -/

namespace Mark

/-- The second placeholder is the first one with other blanks around its name and its type word. -/
def Respaces (m m' : Mark) : Prop :=
  Spaced (trim m.name) m'.name ∧ Spaced (trim m.token) m'.token

/-- The name is one brace, which stands right after the opening braces. -/
def Crowded (m : Mark) : Prop :=
  ∃ rest, m.name = '{' :: rest ∧ trim rest = []

theorem Respaces.field_eq {m m' : Mark} (h : m.Respaces m') : m'.field = m.field := by
  rw [field, h.1.trim_eq, h.2.trim_eq, Text.trim_trim, Text.trim_trim, field]

/-- Whether a placeholder is well formed does not depend on its blanks. -/
theorem wellFormed_of_field_eq {m m' : Mark} (h : m'.field = m.field) (hm : m.WellFormed) : m'.WellFormed := by
  rw [field, field, Field.mk.injEq] at h
  obtain ⟨hname, htoken⟩ := h
  exact {
    no_bar := by
      rw [← Text.mem_trim_iff (by decide), hname, Text.mem_trim_iff (by decide)]
      exact hm.no_bar
    name_open := by
      rw [← hasPair_trim_iff (by decide), hname, hasPair_trim_iff (by decide)]
      exact hm.name_open
    name_ne_nil := by
      rw [hname]
      exact hm.name_ne_nil
    token_open := by
      rw [← hasPair_trim_iff (by decide), htoken, hasPair_trim_iff (by decide)]
      exact hm.token_open
    token_close := by
      rw [← Text.mem_trim_iff (by decide), htoken, Text.mem_trim_iff (by decide)]
      exact hm.token_close
    token_ne_nil := by
      rw [htoken]
      exact hm.token_ne_nil }

theorem not_hasPair_close_of_field_eq {m m' : Mark} (h : m'.field = m.field) (hm : ¬ HasPair '}' m.name) :
    ¬ HasPair '}' m'.name := by
  rw [← hasPair_trim_iff (by decide), (Field.mk.inj h).1, hasPair_trim_iff (by decide)]
  exact hm

end Mark

/-! ### Layouts with other blanks -/

namespace Layout

/-- The second layout has the same literals as the first one, and its placeholders with other blanks in them. -/
inductive Respaces : Layout → Layout → Prop
  | last (literal : List Char) : Respaces (last literal) (last literal)
  | cons (literal : List Char) {m m' : Mark} (hm : m.Respaces m') {rest rest' : Layout}
      (hrest : Respaces rest rest') : Respaces (cons literal m rest) (cons literal m' rest')

variable {l l' : Layout}

theorem Respaces.map_field (h : l.Respaces l') : l'.marks.map Mark.field = l.marks.map Mark.field := by
  induction h with
  | last literal => rfl
  | cons literal hm _ ih => rw [marks, marks, List.map_cons, List.map_cons, hm.field_eq, ih]

theorem Respaces.literals_eq (h : l.Respaces l') : l'.literals = l.literals := by
  induction h with
  | last literal => rfl
  | cons literal _ _ ih => rw [literals, literals, ih]

theorem Respaces.eq_of_marks_eq_nil (h : l.Respaces l') (hnil : l.marks = []) : l' = l := by
  cases h with
  | last literal => rfl
  | cons literal _ _ => cases hnil

/-- Texts that are put in for names and type words do not depend on the blanks. -/
theorem Respaces.fill_eq (h : l.Respaces l') (f : Field → List Char) :
    (l'.fill fun m => f m.field) = l.fill fun m => f m.field := by
  induction h with
  | last literal => rfl
  | cons literal hm _ ih => simp only [fill, hm.field_eq, ih]

theorem Respaces.separated (h : l.Respaces l') (hl : l.Separated) : l'.Separated := by
  induction h with
  | last literal => exact hl
  | cons literal hm _ ih =>
    obtain ⟨ho, hlast, hw, hc, hr⟩ := hl
    exact ⟨ho, hlast, Mark.wellFormed_of_field_eq hm.field_eq hw, Mark.not_hasPair_close_of_field_eq hm.field_eq hc,
      ih hr⟩

theorem Respaces.words_eq (h : l.Respaces l') :
    (l'.marks.map fun m => (m.varName, m.typeWord)) = l.marks.map fun m => (m.varName, m.typeWord) := by
  have hmap := congrArg (List.map fun f : Field => (String.ofList f.name, String.ofList f.token)) h.map_field
  rw [List.map_map, List.map_map] at hmap
  exact hmap

/-- The numbers of pairs of braces stay equal. -/
theorem Respaces.balanced (h : l.Respaces l') (hl : l.Grammatical) :
    countPairs '{' l'.source = countPairs '}' l'.source := by
  rw [(h.separated hl.separated).balanced_iff, h.literals_eq]
  exact hl.no_close

theorem hasStrayOpening_eq_false_iff (h : l.Separated) :
    hasStrayOpening l.source = false ↔ ∀ m ∈ l.marks, ¬ m.Crowded := by
  rw [h.hasStrayOpening_source]
  refine forall₂_congr fun m _ => ?_
  rw [Mark.Crowded, not_exists]
  exact forall_congr' fun rest => not_and.symm

/-- Other blanks leave the declarations as they are, unless a placeholder is crowded. -/
theorem Respaces.declarationsOf_eq (h : l.Respaces l') (hl : l.Grammatical) (hcrowd : ∀ m ∈ l'.marks, ¬ m.Crowded) :
    declarationsOf l'.source = declarationsOf l.source := by
  obtain ⟨ds, hds, hwords⟩ := hl.exists_declarationsOf_eq_ok
  have hs := h.separated hl.separated
  have hstray := (hasStrayOpening_eq_false_iff hs).2 hcrowd
  rw [hds, declarationsOf_of_not_stray (h.balanced hl) hstray, hs.of_source, typed_fieldsFrom_eq_ok_iff, h.words_eq,
    hwords]

/-- A crowded placeholder is an opening that begins no placeholder. -/
theorem Respaces.declarationsOf_eq_invalidFormat (h : l.Respaces l') (hl : l.Grammatical)
    (hcrowd : ∃ m ∈ l'.marks, m.Crowded) : declarationsOf l'.source = .error .invalidFormat := by
  obtain ⟨m, hm, hcrowded⟩ := hcrowd
  have hs := h.separated hl.separated
  have hspan : HasSpan l'.source := by
    by_contra hnone
    have hnil := marks_of_eq_nil hnone
    rw [hs.of_source] at hnil
    rw [hnil] at hm
    cases hm
  refine declarationsOf_of_stray (h.balanced hl) hspan ?_
  rw [← Bool.not_eq_false, hasStrayOpening_eq_false_iff hs]
  exact fun hnone => hnone m hm hcrowded

end Layout

/-! ### Templates with other blanks -/

/-- The second text is the first one with other blanks around the names and the type words of its placeholders. -/
def Respaced (template template' : String) : Prop :=
  ∃ l, (Layout.of template.toList).Respaces l ∧ l.source = template'.toList

/-- What is filled in does not depend on the blanks if every declared name has a value. -/
theorem render_of_respaces {template template' : String} {l : Layout} {ds : List Declaration}
    (hd : declarations template = .ok ds) (hr : (Layout.of template.toList).Respaces l)
    (hl : Layout.of template'.toList = l) {vars : VariableSet} (hvars : ∀ name ∈ ds.map (·.name), name ∈ vars.names) :
    render template' vars false = render template vars false := by
  let value (f : Field) : List Char := ((vars.value? (String.ofList f.name)).getD "").toList
  have hfill : ∀ m : Mark, m.varName ∈ ds.map (·.name) → m.fill vars = value m.field := by
    intro m hm
    obtain ⟨text, htext⟩ := VariableSet.mem_names_iff.1 (hvars _ hm)
    have hfield : vars.value? (String.ofList m.field.name) = some text := htext
    rw [Mark.fill_eq htext]
    simp only [value, hfield, Option.getD_some]
  have hmarks := (Layout.of_declarations hd).1
  have hmarks' : l.marks.map Mark.varName = ds.map (·.name) := by
    have hnames := congrArg (List.map Prod.fst) hr.words_eq
    rw [List.map_map, List.map_map] at hnames
    exact hnames.trans hmarks
  have hfilled : l.fill (Mark.fill vars) = (Layout.of template.toList).fill (Mark.fill vars) :=
    calc
      l.fill (Mark.fill vars) = l.fill fun m => value m.field :=
        Layout.fill_congr fun m hm => hfill m (hmarks' ▸ List.mem_map_of_mem hm)
      _ = (Layout.of template.toList).fill fun m => value m.field := hr.fill_eq value
      _ = (Layout.of template.toList).fill (Mark.fill vars) :=
        (Layout.fill_congr fun m hm => hfill m (hmarks ▸ List.mem_map_of_mem hm)).symm
  rw [render, render, fillIn_eq, fillIn_eq, hl, hfilled]

/-- A template with other blanks around the names and type words of its placeholders is filled in alike, and it declares
the same variables, whatever values are known. The exception is a text that has a placeholder whose name is one brace
right after the opening braces: that is no template. -/
theorem read_alike_of_respaced {template template' : String} {prior : String → Option String} {vs : VariableSet}
    (h : parse template prior = .ok vs) (hr : Respaced template template') :
    ((∀ m ∈ (Layout.of template'.toList).marks, ¬ m.Crowded) →
      ∀ known, parse template' known = parse template known) ∧
    ((∃ m ∈ (Layout.of template'.toList).marks, m.Crowded) →
      ∀ known, parse template' known = .error .invalidFormat) ∧
    ∀ vars : VariableSet, (∀ name ∈ vs.names, name ∈ vars.names) →
      render template' vars false = render template vars false := by
  obtain ⟨ds, hds, rfl⟩ := parse_eq_ok_iff.1 h
  obtain ⟨l, hl, hsource⟩ := hr
  rcases (Layout.of_declarations hds).2 with ⟨hnil, -⟩ | ⟨-, hg⟩
  · -- there are no placeholders, so it is the same text
    have hsame : template' = template := by
      rw [hl.eq_of_marks_eq_nil hnil, Layout.source_of] at hsource
      exact String.toList_inj.1 hsource.symm
    subst hsame
    refine ⟨fun _ _ => rfl, ?_, fun _ _ => rfl⟩
    rintro ⟨m, hm, -⟩
    rw [hnil] at hm
    cases hm
  · have hof : Layout.of template'.toList = l := by
      rw [← hsource]
      exact (hl.separated hg.separated).of_source
    have hdeclarations : declarationsOf (Layout.of template.toList).source = declarations template := by
      rw [Layout.source_of, declarations]
    rw [hof]
    refine ⟨?_, ?_, ?_⟩
    · intro hcrowd known
      have hsame := hl.declarationsOf_eq hg hcrowd
      rw [hsource, hdeclarations] at hsame
      rw [parse, parse, declarations, hsame]
    · intro hcrowd known
      have herror := hl.declarationsOf_eq_invalidFormat hg hcrowd
      rw [hsource] at herror
      exact parse_eq_error_iff.2 herror
    · intro vars hvars
      refine render_of_respaces hds hl hof ?_
      intro name hname
      refine hvars name ?_
      rwa [names_seeded, List.mem_eraseDups]

/-- A name that begins with a brace, without the blank before it, and an ideographic space elsewhere. -/
theorem read_alike_of_respaced_brace :
    let template := "\x7b\x7b \x7ba | text \x7d\x7d:\x7b\x7bb|url\x7d\x7d"
    let respaced := "\x7b\x7b\x7ba|\u3000text\x7d\x7d:\x7b\x7b\n b |url\x7d\x7d"
    let vars : VariableSet := .ofList [⟨"b", .url, "y"⟩, ⟨"\x7ba", .text, "x"⟩]
    Respaced template respaced ∧
    parse respaced (fun _ => none) = .ok (.ofList [⟨"\x7ba", .text, ""⟩, ⟨"b", .url, ""⟩]) ∧
    render respaced vars false = "x:y" := by
  intro template respaced vars
  let l : Layout := .cons [] ⟨" \x7ba ".toList, " text ".toList⟩ (.cons [':'] ⟨['b'], "url".toList⟩ (.last []))
  let l' : Layout :=
    .cons [] ⟨"\x7ba".toList, "\u3000text".toList⟩ (.cons [':'] ⟨"\n b ".toList, "url".toList⟩ (.last []))
  have hl : Layout.of template.toList = l := by decide +kernel
  have hl' : Layout.of respaced.toList = l' := by decide +kernel
  have hspaces : l.Respaces l' :=
    .cons [] ⟨⟨[], [], by simp, by simp, by decide⟩,
        ⟨['\u3000'], [], List.all_eq_true.1 (by decide), by simp, by decide⟩⟩
      (.cons [':'] ⟨⟨['\n', ' '], [' '], List.all_eq_true.1 (by decide), List.all_eq_true.1 (by decide), by decide⟩,
          ⟨[], [], by simp, by simp, by decide⟩⟩
        (.last []))
  have hr : Respaced template respaced := ⟨l', hl ▸ hspaces, by decide +kernel⟩
  have hp : parse template (fun _ => none) = .ok (.ofList [⟨"\x7ba", .text, ""⟩, ⟨"b", .url, ""⟩]) :=
    parse_eq_ok_iff.2 ⟨[⟨"\x7ba", .text⟩, ⟨"b", .url⟩], by decide +kernel, VariableSet.eq_of_toList_eq rfl⟩
  obtain ⟨hparse, -, hrender⟩ := read_alike_of_respaced hp hr
  refine ⟨hr, ?_, ?_⟩
  · rw [hparse ?_, hp]
    rw [hl']
    rintro m hm ⟨rest, hname, hrest⟩
    simp only [l', Layout.marks, List.mem_cons, List.not_mem_nil, or_false] at hm
    rcases hm with rfl | rfl
    · obtain rfl : ['a'] = rest := (List.cons.inj hname).2
      revert hrest
      decide
    · exact absurd (List.cons.inj hname).1 (by decide)
  · rw [hrender vars (by decide)]
    decide +kernel

/-- Without the blank before it, a name that is one brace is not read. -/
theorem respaced_brace_refused :
    let template := "\x7b\x7b \x7b|text\x7d\x7d"
    let respaced := "\x7b\x7b\x7b|text\x7d\x7d"
    parse template (fun _ => none) = .ok (.ofList [⟨"\x7b", .text, ""⟩]) ∧ Respaced template respaced ∧
    parse respaced (fun _ => none) = .error .invalidFormat := by
  intro template respaced
  let l : Layout := .cons [] ⟨" \x7b".toList, "text".toList⟩ (.last [])
  have hl : Layout.of template.toList = l := by decide +kernel
  have hspaces : l.Respaces (.cons [] ⟨"\x7b".toList, "text".toList⟩ (.last [])) :=
    .cons [] ⟨⟨[], [], by simp, by simp, by decide⟩, ⟨[], [], by simp, by simp, by decide⟩⟩ (.last [])
  have hread : declarations template = .ok [⟨"\x7b", .text⟩] := by decide +kernel
  refine ⟨parse_eq_ok_iff.2 ⟨_, hread, VariableSet.eq_of_toList_eq rfl⟩, ⟨_, hl ▸ hspaces, by decide +kernel⟩, ?_⟩
  have hd : declarations respaced = .error .invalidFormat := by decide +kernel
  exact parse_eq_error_iff.2 hd

end Template

end TypedTemplates
