import TypedTemplates.Proofs.Engine.Editing

/-!
# Engines are consistent

Whatever saves fail, an engine agrees with its template after every edit: its error is that of the template,
its output is the template filled in, and its variables are those of the last text that was a template. Each
edit keeps this (`consistent_setTemplate`, `Consistent.setValue`), so every run does (`Consistent.after`).
-/

namespace TypedTemplates.Engine

open Template (Declaration declared? parse render)

variable {σ : Type}

/-- What the last template among the texts declares, or nothing if none of them is a template. -/
def lastDeclared (texts : List String) : List Declaration :=
  (texts.filterMap declared?).getLast?.getD []

theorem lastDeclared_concat (texts : List String) (text : String) :
    lastDeclared (texts ++ [text]) = (declared? text).getD (lastDeclared texts) := by
  unfold lastDeclared
  rw [List.filterMap_append]
  cases h : declared? text <;> simp [h]

/-- An engine that agrees with its template, the last of the texts that were given to it. -/
structure Consistent (texts : List String) (e : Engine σ) : Prop where
  template_eq : texts.getLast? = some e.template
  error_iff : ∀ prior error, e.error = some error ↔ parse e.template prior = .error error
  output_eq : e.output = render e.template e.vars e.error.isSome
  signature_eq : e.vars.signature = lastDeclared texts

theorem Consistent.error_eq_none_iff {texts : List String} {e : Engine σ} (h : Consistent texts e)
    (prior : String → Option String) : e.error = none ↔ ∃ vs, parse e.template prior = .ok vs := by
  cases hp : parse e.template prior with
  | ok vs =>
    have hne : ∀ error, e.error ≠ some error := by
      intro error he
      rw [(h.error_iff prior error).1 he] at hp
      cases hp
    simpa using Option.eq_none_iff_forall_ne_some.2 hne
  | error error => simp [(h.error_iff prior error).2 hp]

theorem Consistent.signature_eq_firsts {texts : List String} {e : Engine σ} (h : Consistent texts e)
    {ds : List Declaration} (hd : Template.declarations e.template = .ok ds) : e.vars.signature = Template.firsts ds := by
  obtain ⟨before, htexts⟩ := List.getLast?_eq_some_iff.1 h.template_eq
  have hdecl : declared? e.template = some (Template.firsts ds) := Template.declared?_eq_some_iff.2 ⟨ds, hd, rfl⟩
  rw [h.signature_eq, htexts, lastDeclared_concat, hdecl]
  rfl

variable [VariableStore σ]

theorem consistent_setTemplate {texts : List String} {e : Engine σ}
    (h : e.vars.signature = lastDeclared texts) (text : String) :
    Consistent (texts ++ [text]) (e.setTemplate text).2 := by
  cases hd : Template.declarations text with
  | ok ds =>
    have hdecl : declared? text = some (Template.firsts ds) := Template.declared?_eq_some_iff.2 ⟨ds, hd, rfl⟩
    rw [setTemplate_of_ok e hd]
    refine ⟨by simp, ?_, rfl, ?_⟩
    · intro prior error
      rw [Template.parse_eq_error_iff, hd]
      simp
    · rw [lastDeclared_concat, hdecl, Template.signature_seeded]
      rfl
  | error error =>
    have hdecl : declared? text = none := Template.declared?_eq_none_iff.2 ⟨error, hd⟩
    rw [setTemplate_of_error e hd]
    refine ⟨by simp, ?_, rfl, ?_⟩
    · intro prior error'
      rw [Template.parse_eq_error_iff, hd]
      simp
    · rw [lastDeclared_concat, hdecl]
      exact h

theorem Consistent.setValue {texts : List String} {e : Engine σ} (h : Consistent texts e)
    (name value : String) : Consistent texts (e.setValue name value).2 := by
  by_cases hn : name ∈ e.vars.names
  · rw [setValue_of_mem e value hn]
    exact ⟨h.template_eq, h.error_iff, rfl, by rw [VariableSet.signature_mapValue, h.signature_eq]⟩
  · rw [setValue_of_not_mem e value hn]
    exact h

/-- Consistency holds along every run. -/
theorem Consistent.after {texts : List String} {e : Engine σ} (h : Consistent texts e) (edits : List Edit) :
    Consistent (texts ++ edits.filterMap Edit.template?) (e.after edits) := by
  induction edits generalizing texts e with
  | nil => simpa using h
  | cons edit edits ih =>
    cases edit with
    | template text =>
      have hrest := ih (consistent_setTemplate h.signature_eq text)
      simpa [Edit.template?, apply] using hrest
    | value name value => exact ih (h.setValue name value)

theorem consistent_attach (store : σ) (template : String) :
    Consistent [template] (attach store template).2 := by
  have h : (idle store).vars.signature = lastDeclared [] := rfl
  exact consistent_setTemplate h template

/-! ### Every run -/

theorem lastDeclared_eq {before later : List String} {text : String} {ds : List Declaration}
    (h : declared? text = some ds) (hlater : ∀ t ∈ later, declared? t = none) :
    lastDeclared (before ++ text :: later) = ds := by
  have hnil : later.filterMap declared? = [] := by simpa using hlater
  simp [lastDeclared, List.filterMap_append, h, hnil]

theorem declared?_eq_none_of_parse_ne_ok {text : String} {prior : String → Option String}
    (h : ∀ vs, parse text prior ≠ .ok vs) : declared? text = none := by
  rw [Template.declared?_eq_none_iff]
  cases hd : Template.declarations text with
  | ok ds => exact absurd (Template.parse_eq_ok_iff.2 ⟨ds, hd, rfl⟩) (h _)
  | error error => exact ⟨error, rfl⟩

/-- After every run the error is the one of the current template, the output is the template filled in or
empty, and the variables are those of the last text that was a template. -/
theorem consistent_of_run (store : σ) (template : String) (edits : List Edit) :
    let texts := template :: edits.filterMap Edit.template?
    let e := (attach store template).2.after edits
    texts.getLast? = some e.template ∧
    (∀ prior, (e.error = none ↔ ∃ vs, parse e.template prior = .ok vs) ∧
      ∀ error, e.error = some error ↔ parse e.template prior = .error error) ∧
    e.output = render e.template e.vars e.error.isSome ∧
    (e.error ≠ none → e.output = "") ∧
    e.vars.names.Nodup ∧
    (∀ before text later prior vs, texts = before ++ text :: later → parse text prior = .ok vs →
      (∀ t ∈ later, ∀ vs', parse t prior ≠ .ok vs') → e.vars.signature = vs.signature) ∧
    ((∀ t ∈ texts, ∀ prior vs, parse t prior ≠ .ok vs) → e.vars.toList = []) ∧
    (e.error = none → ∀ prior vs, parse e.template prior = .ok vs → e.vars.signature = vs.signature) := by
  intro texts e
  have h : Consistent texts e := (consistent_attach store template).after edits
  have hlast : ∀ before text later prior vs, texts = before ++ text :: later → parse text prior = .ok vs →
      (∀ t ∈ later, ∀ vs', parse t prior ≠ .ok vs') → e.vars.signature = vs.signature := by
    intro before text later prior vs htexts hp hlater
    rw [h.signature_eq, htexts]
    refine lastDeclared_eq (Template.declared?_of_parse hp) ?_
    exact fun t ht => declared?_eq_none_of_parse_ne_ok (hlater t ht)
  refine ⟨h.template_eq, fun prior => ⟨h.error_eq_none_iff prior, h.error_iff prior⟩, h.output_eq, ?_,
    e.vars.nodup_names, hlast, ?_, ?_⟩
  · intro hne
    rw [h.output_eq, Option.isSome_iff_ne_none.2 hne]
    rfl
  · intro hnone
    have hnil : texts.filterMap declared? = [] := by
      rw [List.filterMap_eq_nil_iff]
      exact fun t ht => declared?_eq_none_of_parse_ne_ok (hnone t ht fun _ => none)
    have hs : e.vars.signature = [] := by rw [h.signature_eq, lastDeclared, hnil]; rfl
    exact List.map_eq_nil_iff.1 hs
  · intro _ prior vs hp
    obtain ⟨before, htexts⟩ := List.getLast?_eq_some_iff.1 h.template_eq
    exact hlast before e.template [] prior vs htexts hp (by simp)

end TypedTemplates.Engine
