import TypedTemplates.Proofs.Engine.Editing

/-!
# What an edit does to the store

An edit saves the variables once or not at all, and which of the two does not depend on the store (`Saves`). With a
save the store becomes what the save makes of it (`apply_of_saves`), and without one it stays as it is
(`apply_of_not_saves`). All else in an engine depends only on what the store answers, not on whether its saves
succeed, so engines that are alike over stores with the same answers stay alike (`Alike.apply`).
-/

namespace TypedTemplates

/-- A save that succeeds makes the store answer exactly the values that are saved. -/
def VariableStore.Retentive (σ : Type) [VariableStore σ] : Prop :=
  ∀ (s : σ) (vs : VariableSet), (save s vs).1 = .ok () → get? (save s vs).2 = vs.value?

theorem VariableStore.retentive_of_lawful (σ : Type) [VariableStore σ] [LawfulVariableStore σ] : Retentive σ :=
  LawfulVariableStore.get?_save_of_ok

namespace Engine

open Template (declarations parse render seeded)
open VariableStore (get? save)

variable {σ τ : Type}

/-- The engine over another store. -/
def withStore (e : Engine σ) (store : τ) : Engine τ :=
  ⟨store, e.template, e.vars, e.error, e.output⟩

/-- Whether an edit saves the variables: a text that is a template does, and a value for a name that is there. -/
def Saves (e : Engine σ) : Edit → Prop
  | .template text => ∃ prior vs, parse text prior = .ok vs
  | .value name _ => name ∈ e.vars.names

/-- What an edit is answered, unless a save fails. -/
def reply (e : Engine σ) : Edit → Option Bool
  | .template _ => none
  | .value name _ => some (e.vars.contains name)

theorem saves_template_iff {e : Engine σ} {text : String} :
    e.Saves (.template text) ↔ ∃ ds, declarations text = .ok ds := by
  constructor
  · rintro ⟨prior, vs, hp⟩
    obtain ⟨ds, hd, -⟩ := Template.parse_eq_ok_iff.1 hp
    exact ⟨ds, hd⟩
  · rintro ⟨ds, hd⟩
    exact ⟨fun _ => none, _, Template.parse_eq_ok_iff.2 ⟨ds, hd, rfl⟩⟩

section Store

variable [VariableStore σ] {e : Engine σ} {edit : Edit}

/-- An edit that saves changes the engine, and then saves the variables that it has after the change. -/
theorem apply_of_saves (h : e.Saves edit) :
    ∃ changed : Engine σ, e.apply edit =
      ((save e.store changed.vars).1.map fun _ => e.reply edit, changed.withStore (save e.store changed.vars).2) := by
  cases edit with
  | template text =>
    obtain ⟨ds, hd⟩ := saves_template_iff.1 h
    let vars := seeded (get? e.store) ds
    refine ⟨⟨e.store, text, vars, none, render text vars false⟩, ?_⟩
    rw [apply, setTemplate_of_ok e hd]
    rfl
  | value name value =>
    let vars := e.vars.mapValue name value
    refine ⟨⟨e.store, e.template, vars, e.error, render e.template vars e.error.isSome⟩, ?_⟩
    rw [apply, setValue_of_mem e value h]
    have hreply : e.reply (.value name value) = some true :=
      congrArg some (VariableSet.contains_iff.2 h)
    rw [hreply]
    cases (save e.store vars).1 <;> rfl

/-- An edit that does not save leaves store and variables alone. -/
theorem apply_of_not_saves (h : ¬ e.Saves edit) :
    (e.apply edit).1 = .ok (e.reply edit) ∧ (e.apply edit).2.store = e.store ∧ (e.apply edit).2.vars = e.vars := by
  cases edit with
  | template text =>
    cases hd : declarations text with
    | ok ds => exact absurd (saves_template_iff.2 ⟨ds, hd⟩) h
    | error error =>
      rw [apply, setTemplate_of_error e hd]
      exact ⟨rfl, rfl, rfl⟩
  | value name value =>
    have hreply : e.reply (.value name value) = some false :=
      congrArg some (Bool.eq_false_iff.2 fun hc => h (VariableSet.contains_iff.1 hc))
    rw [apply, setValue_of_not_mem e value h, hreply]
    exact ⟨rfl, rfl, rfl⟩

/-- Where a save succeeds, a store that keeps what it saves has the variables. -/
theorem get?_apply_of_retentive (hkeep : VariableStore.Retentive σ) {answer : Option Bool} (hs : e.Saves edit)
    (h : (e.apply edit).1 = .ok answer) : get? (e.apply edit).2.store = (e.apply edit).2.vars.value? := by
  obtain ⟨changed, happly⟩ := apply_of_saves hs
  rw [happly] at h ⊢
  have hok : (save e.store changed.vars).1 = .ok () := by
    cases hr : (save e.store changed.vars).1 with
    | ok u => rfl
    | error error =>
      rw [hr] at h
      cases h
  exact hkeep e.store changed.vars hok

variable [LawfulVariableStore σ]

/-- Where a save succeeds, the store has the variables. -/
theorem get?_apply_of_saves {answer : Option Bool} (hs : e.Saves edit) (h : (e.apply edit).1 = .ok answer) :
    get? (e.apply edit).2.store = (e.apply edit).2.vars.value? :=
  get?_apply_of_retentive (VariableStore.retentive_of_lawful σ) hs h

/-- Where it fails, the store answers what it answered before. -/
theorem get?_apply_of_error {error : StoreError} (h : (e.apply edit).1 = .error error) :
    get? (e.apply edit).2.store = get? e.store := by
  by_cases hs : e.Saves edit
  · obtain ⟨changed, happly⟩ := apply_of_saves hs
    rw [happly] at h ⊢
    cases hr : (save e.store changed.vars).1 with
    | ok u =>
      rw [hr] at h
      cases h
    | error error => exact LawfulVariableStore.get?_save_of_error e.store changed.vars error hr
  · rw [(apply_of_not_saves hs).2.1]

end Store

/-! ### Engines that are alike -/

/-- The engines can be told apart by their stores only. -/
structure Alike (e : Engine σ) (e' : Engine τ) : Prop where
  template_eq : e.template = e'.template
  vars_eq : e.vars = e'.vars
  error_eq : e.error = e'.error
  output_eq : e.output = e'.output

theorem alike_withStore (e : Engine σ) (store : τ) : e.Alike (e.withStore store) :=
  ⟨rfl, rfl, rfl, rfl⟩

theorem alike_idle (store : σ) (store' : τ) : (idle store).Alike (idle store') :=
  ⟨rfl, rfl, rfl, rfl⟩

variable {e : Engine σ} {e' : Engine τ}

theorem Alike.reply_eq (h : e.Alike e') (edit : Edit) : e.reply edit = e'.reply edit := by
  cases edit with
  | template text => rfl
  | value name value => rw [reply, reply, h.vars_eq]

theorem Alike.saves_iff (h : e.Alike e') (edit : Edit) : e.Saves edit ↔ e'.Saves edit := by
  cases edit with
  | template text => rfl
  | value name value => rw [Saves, Saves, h.vars_eq]

variable [VariableStore σ] [VariableStore τ]

/-- No edit makes a difference between engines that are alike, whatever comes of the saves. -/
theorem Alike.apply (h : e.Alike e') (hget : get? e.store = get? e'.store) (edit : Edit) :
    (e.apply edit).2.Alike (e'.apply edit).2 := by
  cases edit with
  | template text =>
    cases hd : declarations text with
    | ok ds =>
      rw [Engine.apply, Engine.apply, setTemplate_of_ok e hd, setTemplate_of_ok e' hd]
      simp only [hget]
      exact ⟨rfl, rfl, rfl, rfl⟩
    | error error =>
      rw [Engine.apply, Engine.apply, setTemplate_of_error e hd, setTemplate_of_error e' hd]
      exact ⟨rfl, h.vars_eq, rfl, rfl⟩
  | value name value =>
    by_cases hn : name ∈ e.vars.names
    · have hn' : name ∈ e'.vars.names := h.vars_eq ▸ hn
      rw [Engine.apply, Engine.apply, setValue_of_mem e value hn, setValue_of_mem e' value hn']
      simp only [h.vars_eq, h.template_eq, h.error_eq]
      exact ⟨rfl, rfl, rfl, rfl⟩
    · have hn' : name ∉ e'.vars.names := h.vars_eq ▸ hn
      rw [Engine.apply, Engine.apply, setValue_of_not_mem e value hn, setValue_of_not_mem e' value hn']
      exact h

end Engine

end TypedTemplates
