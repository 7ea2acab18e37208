import TypedTemplates.Store.Basic
import TypedTemplates.Template.Declaration
import TypedTemplates.Template.Render

/-!
# Editing a template

An `Engine` holds a template, the variables it declares, its error and its output, over a store that remembers the
values. A new template that is well formed takes its values from the store; one that is not leaves the variables as
they are and has no output until the template is mended. Every change of the variables is saved, after the engine
itself has changed.
-/

namespace TypedTemplates

structure Engine (σ : Type) where
  store : σ
  template : String
  vars : VariableSet
  error : Option TemplateError
  output : String

namespace Engine

variable {σ : Type} [VariableStore σ]

/-- The engine with its output brought up to date. -/
def refresh (e : Engine σ) : Engine σ :=
  { e with output := Template.render e.template e.vars e.error.isSome }

/-- Saves the variables. -/
def persist (e : Engine σ) : Except StoreError Unit × Engine σ :=
  let (result, store) := VariableStore.save e.store e.vars
  (result, { e with store := store })

/-- Gives the engine another template. -/
def setTemplate (e : Engine σ) (template : String) : Except StoreError Unit × Engine σ :=
  match Template.parse template (VariableStore.get? e.store) with
  | .ok vars => persist (refresh { e with template := template, vars := vars, error := none })
  | .error error => (.ok (), refresh { e with template := template, error := some error })

/-- An engine over the store, before it has a template. -/
def idle (store : σ) : Engine σ :=
  ⟨store, "", VariableSet.empty, none, ""⟩

/-- Begins to edit a template over a store. -/
def attach (store : σ) (template : String) : Except StoreError Unit × Engine σ :=
  (idle store).setTemplate template

/-- Gives a variable another value, and answers whether there is one of that name. -/
def setValue (e : Engine σ) (name value : String) : Except StoreError Bool × Engine σ :=
  match e.vars.setValue? name value with
  | none => (.ok false, e)
  | some vars =>
    let (result, e) := persist (refresh { e with vars := vars })
    (result.map fun _ => true, e)

end Engine

end TypedTemplates
