import TypedTemplates.Proofs.Engine.Consistency
import TypedTemplates.Proofs.Engine.Saving
import TypedTemplates.Store.Memory
import Mathlib.Data.List.Permutation

/-!
# Giving a template again

The values that a store has become values of variables and nothing else, so a template that is parsed again with the
values it was given the first time gives the same variables. In an engine the values of the variables and those of
the store are the same as long as the last save succeeded (`InStep.after`), and a text that is no template saves
nothing. In both cases the engine stays as it is when it is given its own template (`setTemplate_self_of_inStep`,
`setTemplate_self_of_error`).
-/

namespace TypedTemplates

open VariableStore (Retentive get? save)

theorem Recorded.retentive {σ : Type} [VariableStore σ] (hkeep : Retentive σ) : Retentive (Recorded σ) :=
  fun s vs h => hkeep s.store vs h

namespace Engine

open Template (declarations parse render seeded)

variable {σ : Type}

/-! ### The last save -/

section Recorded

variable [VariableStore σ] {e : Engine (Recorded σ)}

/-- If the last save succeeded, the store has the values of the variables. -/
def InStep (e : Engine (Recorded σ)) : Prop :=
  ∀ vs, e.store.saves.getLast? = some (vs, .ok ()) → get? e.store = e.vars.value?

theorem inStep_idle (store : σ) : InStep (idle (⟨store, []⟩ : Recorded σ)) := by
  simp [InStep, idle]

theorem InStep.apply (hkeep : Retentive σ) (h : InStep e) (edit : Edit) : InStep (e.apply edit).2 := by
  intro vs hlast
  by_cases hs : e.Saves edit
  · -- the last save is that of the edit
    rw [saves_apply_of_saves hs, List.getLast?_concat, Option.some.injEq, Prod.mk.injEq] at hlast
    cases ha : (e.apply edit).1 with
    | ok answer => exact get?_apply_of_retentive (Recorded.retentive hkeep) hs ha
    | error error =>
      rw [ha] at hlast
      cases hlast.2
  · obtain ⟨-, hstore, hvars⟩ := apply_of_not_saves hs
    rw [hstore] at hlast
    rw [hstore, hvars]
    exact h vs hlast

theorem InStep.after (hkeep : Retentive σ) (h : InStep e) (edits : List Edit) : InStep (e.after edits) := by
  induction edits generalizing e with
  | nil => exact h
  | cons edit edits ih => exact ih (h.apply hkeep edit)

end Recorded

/-! ### The same template -/

variable [VariableStore σ] {texts : List String} {e : Engine σ}

theorem setTemplate_self_of_error (h : Consistent texts e) (herror : e.error ≠ none) :
    e.setTemplate e.template = (.ok (), e) := by
  obtain ⟨error, he⟩ := Option.ne_none_iff_exists'.1 herror
  have hd : declarations e.template = .error error :=
    Template.parse_eq_error_iff.1 ((h.error_iff (fun _ => none) error).1 he)
  have houtput : e.output = "" := by
    rw [h.output_eq, he]
    rfl
  rw [setTemplate_of_error e hd, ← he, ← houtput]

/-- A template is given the values of the variables again if the store has them. -/
theorem setTemplate_self_of_inStep (h : Consistent texts e) (hget : get? e.store = e.vars.value?)
    (herror : e.error = none) :
    e.setTemplate e.template = ((save e.store e.vars).1, e.withStore (save e.store e.vars).2) := by
  obtain ⟨vs, hp⟩ := (h.error_eq_none_iff fun _ => none).1 herror
  obtain ⟨ds, hd, -⟩ := Template.parse_eq_ok_iff.1 hp
  have hseeded : seeded (get? e.store) ds = e.vars := by
    rw [hget]
    exact Template.seeded_value?_eq_self (h.signature_eq_firsts hd)
  have houtput : render e.template e.vars false = e.output := by
    rw [h.output_eq, herror]
    rfl
  rw [setTemplate_of_ok e hd, hseeded, houtput, ← herror]
  rfl

theorem setTemplate_self (hkeep : Retentive σ) (h : Consistent texts e)
    (hcase : get? e.store = e.vars.value? ∨ e.error ≠ none) (hok : (e.setTemplate e.template).1 = .ok ()) :
    (e.setTemplate e.template).2.Alike e ∧ get? (e.setTemplate e.template).2.store = get? e.store := by
  by_cases herror : e.error = none
  · have hget : get? e.store = e.vars.value? := hcase.resolve_right fun hne => hne herror
    have hself := setTemplate_self_of_inStep h hget herror
    rw [hself] at hok ⊢
    refine ⟨⟨rfl, rfl, rfl, rfl⟩, ?_⟩
    rw [hget]
    exact hkeep e.store e.vars hok
  · -- a text that is no template takes no values, so it makes no difference what the store has
    rw [setTemplate_self_of_error h herror]
    exact ⟨⟨rfl, rfl, rfl, rfl⟩, rfl⟩

/-- The values known before make no difference to whether a text is a template, to its error and to the names and
types of its variables; each variable just has the value known under its name. So a template parsed with the values
that it was given is what it was. In an engine over a store that keeps what it saves, consider any moment at which
the last save succeeded or the template has an error. Giving the engine its own template then changes nothing that
can be seen of it, nor of its store, if the save succeeds. -/
theorem values_influence_values_only (hkeep : Retentive σ) :
    (∀ text (p q : String → Option String),
      (∃ error, parse text p = .error error ∧ parse text q = .error error) ∨
      ∃ vs ws, parse text p = .ok vs ∧ parse text q = .ok ws ∧ vs.signature = ws.signature ∧
        (∀ v ∈ vs.toList, v.value = (p v.name).getD "") ∧ ∀ w ∈ ws.toList, w.value = (q w.name).getD "") ∧
    (∀ text prior vs, parse text prior = .ok vs → parse text vs.value? = .ok vs) ∧
    ∀ (store : σ) (template : String) (edits : List Edit),
      let recorded := (attach (⟨store, []⟩ : Recorded σ) template).2.after edits
      let e := (attach store template).2.after edits
      let again := e.setTemplate e.template
      recorded.forget = e ∧
      ((∃ vs, recorded.store.saves.getLast? = some (vs, .ok ())) ∨ e.error ≠ none → again.1 = .ok () →
        again.2.Alike e ∧ get? again.2.store = get? e.store) := by
  refine ⟨?_, fun text prior vs => Template.parse_value?, ?_⟩
  · intro text p q
    cases hd : declarations text with
    | error error =>
      exact .inl ⟨error, Template.parse_eq_error_iff.2 hd, Template.parse_eq_error_iff.2 hd⟩
    | ok ds =>
      refine .inr ⟨seeded p ds, seeded q ds, Template.parse_eq_ok_iff.2 ⟨ds, hd, rfl⟩,
        Template.parse_eq_ok_iff.2 ⟨ds, hd, rfl⟩, ?_, fun v => Template.value_eq_of_mem_seeded,
        fun w => Template.value_eq_of_mem_seeded⟩
      rw [Template.signature_seeded, Template.signature_seeded]
  · intro store template edits recorded e again
    have hforget : recorded.forget = e := forget_after_attach store template edits
    have hconsistent : Consistent _ e := (consistent_attach store template).after edits
    have hinstep : InStep recorded := ((inStep_idle store).apply hkeep (.template template)).after hkeep edits
    refine ⟨hforget, ?_⟩
    intro hcase hok
    refine setTemplate_self hkeep hconsistent (hcase.imp_left ?_) hok
    rintro ⟨vs, hlast⟩
    rw [← hforget]
    exact hinstep vs hlast

/-- The save of `x` is refused and that of `y` succeeds: the template given again keeps `y`. -/
theorem values_influence_values_only_refused :
    let store : Faulty MemoryStore := ⟨MemoryStore.empty, ⟨"p"⟩, [1], 0⟩
    let recorded := (attach (⟨store, []⟩ : Recorded (Faulty MemoryStore)) "\x7b\x7ba|text\x7d\x7d").2.after
      [.value "a" "x", .value "a" "y"]
    let e := (attach store "\x7b\x7ba|text\x7d\x7d").2.after [.value "a" "x", .value "a" "y"]
    let again := e.setTemplate e.template
    recorded.store.saves.map (·.2) = [.ok (), .error (.access ⟨"p"⟩ .refused), .ok ()] ∧ again.1 = .ok () ∧
    again.2.vars.toList = [⟨"a", .text, "y"⟩] ∧ get? again.2.store "a" = some "y" := by
  intro store recorded e again
  have hsaves : recorded.store.saves.map (·.2) = [.ok (), .error (.access ⟨"p"⟩ .refused), .ok ()] := by
    decide +kernel
  have hok : again.1 = .ok () := by decide +kernel
  have hlast : recorded.store.saves.getLast?.map (·.2) = some (.ok ()) := by
    rw [← List.getLast?_map, hsaves]
    rfl
  obtain ⟨⟨vs, result⟩, hvs, rfl⟩ := Option.map_eq_some_iff.1 hlast
  obtain ⟨-, -, hagain⟩ := values_influence_values_only (VariableStore.retentive_of_lawful (Faulty MemoryStore))
  obtain ⟨-, hsame⟩ := hagain store "\x7b\x7ba|text\x7d\x7d" [.value "a" "x", .value "a" "y"]
  obtain ⟨halike, hget⟩ := hsame (.inl ⟨vs, hvs⟩) hok
  refine ⟨hsaves, hok, ?_, ?_⟩
  · rw [halike.vars_eq]
    decide +kernel
  · rw [hget]
    decide +kernel

end Engine

end TypedTemplates
