import TypedTemplates.Engine
import TypedTemplates.Proofs.Template.Declared

/-!
# Edits

An edit gives an engine another template or a variable another value. What each of them does is said once
(`setTemplate_of_ok`, `setTemplate_of_error`, `setValue_of_mem`, `setValue_of_not_mem`). A run is a list of
edits after an engine is attached; `after` is the engine it leaves and `answers` is what it answers on the
way.
-/

namespace TypedTemplates

open Template (Declaration declarations declared? parse render seeded)

/-- A change made to an engine. -/
inductive Edit where
  | template (text : String)
  | value (name value : String)
  deriving DecidableEq, Repr

/-- The template that is given by the edit. -/
def Edit.template? : Edit → Option String
  | .template text => some text
  | .value _ _ => none

namespace Engine

variable {σ : Type} [VariableStore σ]

/-- Makes the edit. A value is answered by whether there is a variable of its name. -/
def apply (e : Engine σ) : Edit → Except StoreError (Option Bool) × Engine σ
  | .template text =>
    let (result, e) := e.setTemplate text
    (result.map fun _ => none, e)
  | .value name value =>
    let (result, e) := e.setValue name value
    (result.map some, e)

/-- The engine after the edits. -/
def after (e : Engine σ) (edits : List Edit) : Engine σ :=
  edits.foldl (fun e edit => (e.apply edit).2) e

/-- The answers to the edits, one after the other. -/
def answers (e : Engine σ) : List Edit → List (Except StoreError (Option Bool))
  | [] => []
  | edit :: edits => (e.apply edit).1 :: (e.apply edit).2.answers edits

@[simp] theorem after_nil (e : Engine σ) : e.after [] = e := rfl

@[simp] theorem after_cons (e : Engine σ) (edit : Edit) (edits : List Edit) :
    e.after (edit :: edits) = (e.apply edit).2.after edits := rfl

theorem answers_append (e : Engine σ) (xs ys : List Edit) :
    e.answers (xs ++ ys) = e.answers xs ++ (e.after xs).answers ys := by
  induction xs generalizing e with
  | nil => rfl
  | cons edit xs ih => rw [List.cons_append, answers, answers, ih, after_cons, List.cons_append]

/-! ### What an edit does -/

/-- A template is taken over with the values that the store has, and its variables are then saved. -/
theorem setTemplate_of_ok (e : Engine σ) {text : String} {ds : List Declaration}
    (h : declarations text = .ok ds) :
    e.setTemplate text =
      ((VariableStore.save e.store (seeded (VariableStore.get? e.store) ds)).1,
        { store := (VariableStore.save e.store (seeded (VariableStore.get? e.store) ds)).2
          template := text
          vars := seeded (VariableStore.get? e.store) ds
          error := none
          output := render text (seeded (VariableStore.get? e.store) ds) false }) := by
  have hp : parse text (VariableStore.get? e.store) = .ok (seeded (VariableStore.get? e.store) ds) :=
    Template.parse_eq_ok_iff.2 ⟨ds, h, rfl⟩
  rw [setTemplate, hp]
  rfl

/-- A text that is no template leaves variables and store alone. -/
theorem setTemplate_of_error (e : Engine σ) {text : String} {error : TemplateError}
    (h : declarations text = .error error) :
    e.setTemplate text = (.ok (), { e with template := text, error := some error, output := "" }) := by
  have hp : parse text (VariableStore.get? e.store) = .error error := Template.parse_eq_error_iff.2 h
  rw [setTemplate, hp]
  rfl

theorem setValue_of_mem (e : Engine σ) {name : String} (value : String) (h : name ∈ e.vars.names) :
    e.setValue name value =
      ((VariableStore.save e.store (e.vars.mapValue name value)).1.map fun _ => true,
        { e with
          store := (VariableStore.save e.store (e.vars.mapValue name value)).2
          vars := e.vars.mapValue name value
          output := render e.template (e.vars.mapValue name value) e.error.isSome }) := by
  rw [setValue, VariableSet.setValue?_of_mem value h]
  rfl

theorem setValue_of_not_mem (e : Engine σ) {name : String} (value : String) (h : name ∉ e.vars.names) :
    e.setValue name value = (.ok false, e) := by
  rw [setValue, VariableSet.setValue?_of_not_mem value h]

end Engine

end TypedTemplates
