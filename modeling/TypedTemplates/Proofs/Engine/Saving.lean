import TypedTemplates.Proofs.Engine.Agreement
import TypedTemplates.Store.Memory
import Mathlib.Data.List.Permutation

/-!
# Which saves an engine makes

A `Recorded` store notes every save that it is asked for, and what came of it. An engine over it does what it does
over the store itself (`apply_forget`), so the record tells what the engine saves and when. Whatever saves fail, the
store has the variables of the last save that succeeded, and the last save was asked for with the current variables
(`Accounted.after`).
-/

namespace TypedTemplates

open VariableStore (get? save)

/-- A store together with a record of the saves that were asked for, the last one at the end. -/
structure Recorded (σ : Type) where
  store : σ
  saves : List (VariableSet × Except StoreError Unit)

namespace Recorded

variable {σ : Type} [VariableStore σ]

instance : VariableStore (Recorded σ) where
  get? s name := VariableStore.get? s.store name
  save s vs :=
    let (result, store) := VariableStore.save s.store vs
    (result, ⟨store, s.saves ++ [(vs, result)]⟩)

theorem save_eq (s : Recorded σ) (vs : VariableSet) :
    save s vs = ((save s.store vs).1, ⟨(save s.store vs).2, s.saves ++ [(vs, (save s.store vs).1)]⟩) := rfl

instance [LawfulVariableStore σ] : LawfulVariableStore (Recorded σ) where
  get?_save_of_ok s vs h := LawfulVariableStore.get?_save_of_ok s.store vs h
  get?_save_of_error s vs e h := LawfulVariableStore.get?_save_of_error s.store vs e h

/-- What is kept after the saves: the values of the last set whose save succeeded, or else what was kept before. -/
def kept (initial : String → Option String) (saves : List (VariableSet × Except StoreError Unit)) :
    String → Option String :=
  match (saves.filter fun s => s.2.isOk).getLast? with
  | some s => s.1.value?
  | none => initial

theorem kept_concat_ok (initial : String → Option String) (saves : List (VariableSet × Except StoreError Unit))
    (vs : VariableSet) : kept initial (saves ++ [(vs, .ok ())]) = vs.value? := by
  simp [kept, List.filter_append, Except.isOk, Except.toBool]

theorem kept_concat_error (initial : String → Option String)
    (saves : List (VariableSet × Except StoreError Unit)) (vs : VariableSet) (error : StoreError) :
    kept initial (saves ++ [(vs, .error error)]) = kept initial saves := by
  simp [kept, List.filter_append, Except.isOk, Except.toBool]

end Recorded

namespace Engine

open Recorded (kept)
open Template (parse)

variable {σ : Type}

/-- The engine over the store without its record. -/
def forget (e : Engine (Recorded σ)) : Engine σ :=
  e.withStore e.store.store

variable [VariableStore σ] {e : Engine (Recorded σ)}

theorem setTemplate_forget (e : Engine (Recorded σ)) (text : String) :
    e.forget.setTemplate text = ((e.setTemplate text).1, (e.setTemplate text).2.forget) := by
  cases hd : Template.declarations text with
  | ok ds =>
    rw [setTemplate_of_ok e hd, setTemplate_of_ok e.forget hd]
    rfl
  | error error =>
    rw [setTemplate_of_error e hd, setTemplate_of_error e.forget hd]
    rfl

/-- The record makes no difference to an edit. -/
theorem apply_forget (e : Engine (Recorded σ)) (edit : Edit) :
    e.forget.apply edit = ((e.apply edit).1, (e.apply edit).2.forget) := by
  cases edit with
  | template text => rw [apply, apply, setTemplate_forget]
  | value name value =>
    by_cases hn : name ∈ e.vars.names
    · rw [apply, apply, setValue_of_mem e value hn, setValue_of_mem e.forget value hn]
      rfl
    · rw [apply, apply, setValue_of_not_mem e value hn, setValue_of_not_mem e.forget value hn]

theorem after_forget (e : Engine (Recorded σ)) (edits : List Edit) :
    e.forget.after edits = (e.after edits).forget ∧ e.forget.answers edits = e.answers edits := by
  induction edits generalizing e with
  | nil => exact ⟨rfl, rfl⟩
  | cons edit edits ih =>
    obtain ⟨hafter, hanswers⟩ := ih (e.apply edit).2
    rw [after_cons, after_cons, answers, answers, apply_forget]
    exact ⟨hafter, congrArg _ hanswers⟩

theorem forget_after_attach (store : σ) (template : String) (edits : List Edit) :
    ((attach (⟨store, []⟩ : Recorded σ) template).2.after edits).forget = (attach store template).2.after edits := by
  have hattach : (attach store template).2 = (attach (⟨store, []⟩ : Recorded σ) template).2.forget :=
    congrArg Prod.snd (setTemplate_forget (idle ⟨store, []⟩) template)
  rw [hattach, (after_forget _ edits).1]

/-- An edit that saves does so just once, with the variables that it leaves, and is answered by what comes of it. -/
theorem saves_apply_of_saves {edit : Edit} (h : e.Saves edit) :
    (e.apply edit).2.store.saves =
      e.store.saves ++ [((e.apply edit).2.vars, (e.apply edit).1.map fun _ => ())] := by
  obtain ⟨changed, happly⟩ := apply_of_saves h
  rw [happly, Recorded.save_eq]
  show e.store.saves ++ _ = _
  cases (save e.store.store changed.vars).1 <;> rfl

theorem saves_apply_of_not_saves {edit : Edit} (h : ¬ e.Saves edit) :
    (e.apply edit).2.store.saves = e.store.saves := by
  rw [(apply_of_not_saves h).2.1]

theorem saves_attach_of_ok (store : σ) {template : String} (h : ∃ prior vs, parse template prior = .ok vs) :
    (attach (⟨store, []⟩ : Recorded σ) template).2.store.saves =
      [((attach (⟨store, []⟩ : Recorded σ) template).2.vars, (attach (⟨store, []⟩ : Recorded σ) template).1)] := by
  obtain ⟨prior, vs, hp⟩ := h
  obtain ⟨ds, hd, -⟩ := Template.parse_eq_ok_iff.1 hp
  rw [attach, setTemplate_of_ok _ hd]
  rfl

theorem saves_attach_of_error (store : σ) {template : String} (h : ¬ ∃ prior vs, parse template prior = .ok vs) :
    (attach (⟨store, []⟩ : Recorded σ) template).2.store.saves = [] ∧
      (attach (⟨store, []⟩ : Recorded σ) template).1 = .ok () := by
  cases hd : Template.declarations template with
  | ok ds => exact absurd ⟨fun _ => none, _, Template.parse_eq_ok_iff.2 ⟨ds, hd, rfl⟩⟩ h
  | error error =>
    rw [attach, setTemplate_of_error _ hd]
    exact ⟨rfl, rfl⟩

/-- The record accounts for what the store has and for the variables, from what the store had before. -/
structure Accounted (initial : String → Option String) (e : Engine (Recorded σ)) : Prop where
  get?_eq : get? e.store = kept initial e.store.saves
  vars_eq : ∀ s, e.store.saves.getLast? = some s → s.1 = e.vars

theorem accounted_idle (store : σ) : Accounted (get? store) (idle ⟨store, []⟩) :=
  ⟨rfl, by simp [idle]⟩

variable {initial : String → Option String}

/-- If the last save succeeded, the store has the current variables. -/
theorem Accounted.get?_eq_of_last (h : Accounted initial e) {vs : VariableSet}
    (hlast : e.store.saves.getLast? = some (vs, .ok ())) : get? e.store = e.vars.value? := by
  have hvars : vs = e.vars := h.vars_eq _ hlast
  obtain ⟨before, hsaves⟩ := List.getLast?_eq_some_iff.1 hlast
  rw [h.get?_eq, hsaves, Recorded.kept_concat_ok, hvars]

variable [LawfulVariableStore σ]

theorem Accounted.apply (h : Accounted initial e) (edit : Edit) : Accounted initial (e.apply edit).2 := by
  by_cases hs : e.Saves edit
  · have hsaves := saves_apply_of_saves hs
    constructor
    · rw [hsaves]
      cases ha : (e.apply edit).1 with
      | ok answer => rw [get?_apply_of_saves hs ha, Except.map, Recorded.kept_concat_ok]
      | error error => rw [get?_apply_of_error ha, h.get?_eq, Except.map, Recorded.kept_concat_error]
    · intro s hlast
      rw [hsaves, List.getLast?_concat, Option.some.injEq] at hlast
      rw [← hlast]
  · obtain ⟨-, hstore, hvars⟩ := apply_of_not_saves hs
    constructor
    · rw [hstore, h.get?_eq]
    · rw [hstore, hvars]
      exact h.vars_eq

/-- The record accounts for store and variables along every run. -/
theorem Accounted.after (h : Accounted initial e) (edits : List Edit) : Accounted initial (e.after edits) := by
  induction edits generalizing e with
  | nil => exact h
  | cons edit edits ih => exact ih (h.apply edit)

/-- Take a store that has exactly the saved values after a save that succeeds, and what it had before after one that
fails, and let any saves fail. Attaching saves once if the template is well formed, and so does every edit that gives
a well formed template or a value for a name that is there. Nothing else is saved. Each save is asked for with the
variables that the step leaves, and the step is answered by what comes of it. At every moment the store has the values
of the last set whose save succeeded, which are the current ones if the last save did. A step whose save fails leaves
the engine as it would have been left over any store with the same answers, be it one that never fails, and the next
save that succeeds gives the store the variables again. The record makes no difference to any of this. -/
theorem saves_of_run (store : σ) (template : String) (edits : List Edit) :
    let begun := attach (⟨store, []⟩ : Recorded σ) template
    let e := begun.2.after edits
    ((∃ prior vs, parse template prior = .ok vs) → begun.2.store.saves = [(begun.2.vars, begun.1)]) ∧
    ((¬ ∃ prior vs, parse template prior = .ok vs) → begun.2.store.saves = [] ∧ begun.1 = .ok ()) ∧
    (∀ edit, e.Saves edit → (e.apply edit).2.store.saves =
      e.store.saves ++ [((e.apply edit).2.vars, (e.apply edit).1.map fun _ => ())]) ∧
    (∀ edit, ¬ e.Saves edit → (e.apply edit).2.store.saves = e.store.saves ∧ ∃ answer, (e.apply edit).1 = .ok answer) ∧
    get? e.store = kept (get? store) e.store.saves ∧
    (∀ vs, e.store.saves.getLast? = some (vs, .ok ()) → get? e.store = e.vars.value?) ∧
    (∀ edit error, (e.apply edit).1 = .error error → get? (e.apply edit).2.store = get? e.store ∧
      ∀ (τ : Type) [VariableStore τ] (other : τ), get? other = get? e.store →
        (e.apply edit).2.Alike ((e.withStore other).apply edit).2) ∧
    (∀ edit answer, e.Saves edit → (e.apply edit).1 = .ok answer →
      get? (e.apply edit).2.store = (e.apply edit).2.vars.value?) ∧
    begun.1 = (attach store template).1 ∧ begun.2.answers edits = (attach store template).2.answers edits ∧
    e.forget = (attach store template).2.after edits := by
  intro begun e
  have h : Accounted (get? store) e := ((accounted_idle store).apply (.template template)).after edits
  have hforget : attach store template = (begun.1, begun.2.forget) := setTemplate_forget (idle ⟨store, []⟩) template
  obtain ⟨hafter, hanswers⟩ := after_forget begun.2 edits
  refine ⟨saves_attach_of_ok store, saves_attach_of_error store, fun edit => saves_apply_of_saves, ?_, h.get?_eq,
    fun vs => h.get?_eq_of_last, ?_, fun edit answer => get?_apply_of_saves, ?_, ?_, ?_⟩
  · intro edit hs
    exact ⟨saves_apply_of_not_saves hs, _, (apply_of_not_saves hs).1⟩
  · intro edit error herror
    exact ⟨get?_apply_of_error herror, fun τ _ other hget => (alike_withStore e other).apply hget.symm edit⟩
  · rw [hforget]
  · rw [hforget, hanswers]
  · rw [hforget, hafter]

/-- The second save is refused: the store keeps what it has until the third. -/
theorem saves_of_run_refused :
    let store : Faulty MemoryStore := ⟨⟨[("a", ⟨"a", .text, "old"⟩)]⟩, ⟨"p"⟩, [1], 0⟩
    let e := (attach (⟨store, []⟩ : Recorded (Faulty MemoryStore)) "\x7b\x7ba|text\x7d\x7d").2.after
      [.value "a" "x", .value "b" "y", .template "\x7b\x7b"]
    e.store.saves = [(.ofList [⟨"a", .text, "old"⟩], .ok ()),
      (.ofList [⟨"a", .text, "x"⟩], .error (.access ⟨"p"⟩ .refused))] ∧
    e.vars = .ofList [⟨"a", .text, "x"⟩] ∧
    get? e.store = (VariableSet.ofList [⟨"a", .text, "old"⟩]).value? ∧
    get? (e.apply (.value "a" "z")).2.store = (VariableSet.ofList [⟨"a", .text, "z"⟩]).value? := by
  intro store e
  have hsaves : e.store.saves = [(.ofList [⟨"a", .text, "old"⟩], .ok ()),
      (.ofList [⟨"a", .text, "x"⟩], .error (.access ⟨"p"⟩ .refused))] := by cbv
  obtain ⟨-, -, -, -, hkept, -, -, hnext, -⟩ := saves_of_run store "\x7b\x7ba|text\x7d\x7d"
    [.value "a" "x", .value "b" "y", .template "\x7b\x7b"]
  have hvars : e.vars = .ofList [⟨"a", .text, "x"⟩] := by cbv
  have hname : e.Saves (.value "a" "z") := by
    rw [Saves, hvars]
    decide
  refine ⟨hsaves, hvars, ?_, ?_⟩
  · rw [hkept, hsaves]
    cbv
  · rw [hnext (.value "a" "z") (some true) hname (by cbv)]
    cbv

end Engine

end TypedTemplates
