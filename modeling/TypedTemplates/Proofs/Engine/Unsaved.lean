import TypedTemplates.Proofs.Engine.Agreement
import TypedTemplates.Store.Memory
import Mathlib.Data.List.Permutation

/-!
# Values that are not saved

A template takes its values from the store, so a value whose save failed is lost with the next one
(`value_lost_after_failed_save`). `unsaved` keeps the names of such values along a run. Every other variable has
the value that the store has: each edit keeps this (`Backed.apply`), so every run does (`Backed.after`), and the next
template keeps these values.
-/

namespace TypedTemplates.Engine

open Template (declared? declarations parse seeded)
open VariableStore (get?)

variable {σ : Type} [VariableStore σ]

/-- The names whose values are unsaved after the edit, from those before it. A template leaves none, as it takes all
values from the store, and neither does a save that succeeds. -/
def unsavedBy (e : Engine σ) (names : List String) : Edit → List String
  | .template text => if (declared? text).isSome then [] else names
  | .value name value =>
    match (e.setValue name value).1 with
    | .ok true => []
    | .ok false => names
    | .error _ => name :: names

/-- The names whose values are unsaved after the edits. -/
def unsaved (e : Engine σ) (names : List String) : List Edit → List String
  | [] => names
  | edit :: edits => (e.apply edit).2.unsaved (e.unsavedBy names edit) edits

/-- The store has the values of all variables but those of the names. A variable of which it has nothing is empty. -/
def Backed (names : List String) (e : Engine σ) : Prop :=
  ∀ v ∈ e.vars.toList, v.name ∉ names → v.value = (get? e.store v.name).getD ""

theorem Backed.of_saved {e : Engine σ} (h : get? e.store = e.vars.value?) (names : List String) : Backed names e := by
  intro v hv _
  rw [h, VariableSet.value?, VariableSet.get?_of_mem hv]
  rfl

theorem unsavedBy_template_of_ok (e : Engine σ) (names : List String) {text : String}
    {ds : List Template.Declaration} (hd : declarations text = .ok ds) : e.unsavedBy names (.template text) = [] := by
  rw [unsavedBy, Template.declared?_eq_some_iff.2 ⟨ds, hd, rfl⟩]
  rfl

theorem unsavedBy_template_of_error (e : Engine σ) (names : List String) {text : String} {error : TemplateError}
    (hd : declarations text = .error error) : e.unsavedBy names (.template text) = names := by
  rw [unsavedBy, Template.declared?_eq_none_iff.2 ⟨error, hd⟩]
  rfl

theorem unsavedBy_value_of_ok {e : Engine σ} {name value : String} (names : List String) {known : Bool}
    (h : (e.setValue name value).1 = .ok known) :
    e.unsavedBy names (.value name value) = if known then [] else names := by
  rw [unsavedBy, h]
  cases known <;> rfl

theorem unsavedBy_value_of_error {e : Engine σ} {name value : String} (names : List String) {error : StoreError}
    (h : (e.setValue name value).1 = .error error) : e.unsavedBy names (.value name value) = name :: names := by
  rw [unsavedBy, h]

theorem setValue_eq_self_of_false {e : Engine σ} {name value : String} (h : (e.setValue name value).1 = .ok false) :
    (e.setValue name value).2 = e := by
  by_cases hn : name ∈ e.vars.names
  · rw [setValue_of_mem e value hn] at h
    cases hsave : (VariableStore.save e.store (e.vars.mapValue name value)).1 <;> simp [hsave, Except.map] at h
  · rw [setValue_of_not_mem e value hn]

section Lawful

variable [LawfulVariableStore σ] {e : Engine σ} {names : List String}

/-- The values of a template come from the store, whether or not they are then saved. -/
theorem backed_setTemplate_of_ok (e : Engine σ) {text : String} {ds : List Template.Declaration}
    (hd : declarations text = .ok ds) : Backed [] (e.setTemplate text).2 := by
  let vars := seeded (get? e.store) ds
  rw [setTemplate_of_ok e hd]
  cases hsave : (VariableStore.save e.store vars).1 with
  | ok u => exact Backed.of_saved (LawfulVariableStore.get?_save_of_ok e.store vars hsave) []
  | error error =>
    have hget : get? (VariableStore.save e.store vars).2 = get? e.store :=
      LawfulVariableStore.get?_save_of_error e.store vars error hsave
    intro v hv _
    rw [hget]
    exact Template.value_eq_of_mem_seeded hv

theorem Backed.setValue (h : Backed names e) (name value : String) :
    Backed (e.unsavedBy names (.value name value)) (e.setValue name value).2 := by
  by_cases hn : name ∈ e.vars.names
  · let vars := e.vars.mapValue name value
    have happly := setValue_of_mem e value hn
    cases hsave : (VariableStore.save e.store vars).1 with
    | ok u =>
      have hget : get? (e.setValue name value).2.store = (e.setValue name value).2.vars.value? := by
        rw [happly]
        exact LawfulVariableStore.get?_save_of_ok e.store vars hsave
      exact Backed.of_saved hget _
    | error error =>
      have hanswer : (e.setValue name value).1 = .error error := by
        rw [happly]
        show (VariableStore.save e.store vars).1.map _ = _
        rw [hsave]
        rfl
      have hget : get? (VariableStore.save e.store vars).2 = get? e.store :=
        LawfulVariableStore.get?_save_of_error e.store vars error hsave
      rw [unsavedBy_value_of_error names hanswer, happly]
      intro v hv hnot
      rw [List.mem_cons, not_or] at hnot
      obtain ⟨hne, hnot⟩ := hnot
      obtain ⟨old, hold, rfl⟩ := List.mem_map.1 hv
      -- a variable of another name is as it was before
      have hother : old.name ≠ name := by
        intro he
        exact hne (by rw [if_pos he]; exact he)
      rw [if_neg hother] at hnot ⊢
      rw [hget]
      exact h old hold hnot
  · have happly := setValue_of_not_mem e value hn
    rw [unsavedBy_value_of_ok names (congrArg Prod.fst happly), happly]
    exact h

theorem Backed.apply (h : Backed names e) (edit : Edit) : Backed (e.unsavedBy names edit) (e.apply edit).2 := by
  cases edit with
  | template text =>
    cases hd : declarations text with
    | ok ds =>
      rw [unsavedBy_template_of_ok e names hd]
      exact backed_setTemplate_of_ok e hd
    | error error =>
      rw [unsavedBy_template_of_error e names hd, Engine.apply, setTemplate_of_error e hd]
      exact h
  | value name value => exact h.setValue name value

/-- After every run the store has the values that are not unsaved. -/
theorem Backed.after (h : Backed names e) (edits : List Edit) : Backed (e.unsaved names edits) (e.after edits) := by
  induction edits generalizing e names with
  | nil => exact h
  | cons edit edits ih => exact ih (h.apply edit)

/-- As long as a name stays unsaved, the store answers what it answered before. -/
theorem mem_of_mem_unsavedBy {edit : Edit} {name : String} (h : name ∈ e.unsavedBy names edit) :
    get? (e.apply edit).2.store = get? e.store ∧
      (name ∈ names ∨ ∃ value error, edit = .value name value ∧ (e.apply edit).1 = .error error) := by
  cases edit with
  | template text =>
    cases hd : declarations text with
    | ok ds =>
      rw [unsavedBy_template_of_ok e names hd] at h
      cases h
    | error error =>
      rw [unsavedBy_template_of_error e names hd] at h
      rw [Engine.apply, setTemplate_of_error e hd]
      exact ⟨rfl, .inl h⟩
  | value n value =>
    cases hanswer : (e.setValue n value).1 with
    | ok known =>
      rw [unsavedBy_value_of_ok names hanswer] at h
      cases known with
      | true => cases h
      | false =>
        have hsame : (e.apply (.value n value)).2 = e := setValue_eq_self_of_false hanswer
        rw [hsame]
        exact ⟨rfl, .inl h⟩
    | error error =>
      have herror : (e.apply (.value n value)).1 = .error error := congrArg (Except.map some) hanswer
      rw [unsavedBy_value_of_error names hanswer] at h
      refine ⟨get?_apply_of_error herror, ?_⟩
      rcases List.mem_cons.1 h with rfl | h
      · exact .inr ⟨value, error, rfl, herror⟩
      · exact .inl h

/-- A name is unsaved because a save of its value failed, and the store still answers what it answered then. -/
theorem exists_failed_of_mem_unsaved {edits : List Edit} {name : String} (h : name ∈ e.unsaved names edits) :
    (name ∈ names ∧ get? (e.after edits).store = get? e.store) ∨
      ∃ done value later error, edits = done ++ .value name value :: later ∧
        ((e.after done).apply (.value name value)).1 = .error error ∧
        get? (e.after edits).store = get? (e.after done).store := by
  induction edits generalizing e names with
  | nil => exact .inl ⟨h, rfl⟩
  | cons edit edits ih =>
    rcases ih h with ⟨hname, hget⟩ | ⟨done, value, later, error, rfl, herror, hget⟩
    · obtain ⟨hsame, hname⟩ := mem_of_mem_unsavedBy hname
      rcases hname with hname | ⟨value, error, rfl, herror⟩
      · exact .inl ⟨hname, hget.trans hsame⟩
      · exact .inr ⟨[], value, edits, error, rfl, herror, hget.trans hsame⟩
    · exact .inr ⟨edit :: done, value, later, error, rfl, herror, hget⟩

end Lawful

/-- Take a store that has exactly the saved values after a save that succeeds, and what it had before after one that
fails, and let any saves fail. Whenever a template is given, a variable that it declares again has the value that the
store has, which is the value that it had before unless its name is unsaved. A name is unsaved only if a value was
given to it whose save failed, and the store still has then what it had at that time. -/
theorem value_kept_of_not_unsaved [LawfulVariableStore σ] (store : σ) (template : String) (edits : List Edit)
    {text : String} {prior : String → Option String} {vs : VariableSet} (hparse : parse text prior = .ok vs) :
    let begun := (attach store template).2
    let e := begun.after edits
    let next := (e.setTemplate text).2
    ∀ v ∈ e.vars.toList, v.name ∈ vs.names →
      next.vars.value? v.name = some ((get? e.store v.name).getD "") ∧
      (v.name ∉ begun.unsaved [] edits → next.vars.value? v.name = some v.value) ∧
      (v.name ∈ begun.unsaved [] edits → ∃ done value later error, edits = done ++ .value v.name value :: later ∧
        ((begun.after done).apply (.value v.name value)).1 = .error error ∧
        get? e.store = get? (begun.after done).store) := by
  intro begun e next v hv hname
  obtain ⟨ds, hd, rfl⟩ := Template.parse_eq_ok_iff.1 hparse
  have hidle : Backed [] (idle store) := by simp [Backed, idle, VariableSet.empty]
  have hbegun : Backed [] begun := by
    have h := hidle.apply (.template template)
    have hnone : (idle store).unsavedBy [] (.template template) = [] := by
      rw [unsavedBy, ite_self]
    rwa [hnone] at h
  have hvalue : next.vars.value? v.name = some ((get? e.store v.name).getD "") := by
    have hmem : v.name ∈ ds.map (·.name) := by
      rwa [Template.names_seeded, List.mem_eraseDups] at hname
    show (e.setTemplate text).2.vars.value? v.name = _
    rw [setTemplate_of_ok e hd]
    show (seeded (get? e.store) ds).value? v.name = _
    rw [Template.value?_seeded, if_pos hmem]
  refine ⟨hvalue, ?_, ?_⟩
  · intro hnot
    rw [hvalue, ← hbegun.after edits v hv hnot]
  · intro hin
    rcases exists_failed_of_mem_unsaved hin with ⟨hnil, -⟩ | hfailed
    · cases hnil
    · exact hfailed

/-- The save of `b` fails, and with the next template `b` is empty as before. -/
theorem value_kept_of_not_unsaved_refused :
    let store : Faulty MemoryStore := ⟨MemoryStore.empty, ⟨"p"⟩, [2], 0⟩
    let begun := (attach store "\x7b\x7ba|text\x7d\x7d\x7b\x7bb|text\x7d\x7d").2
    let e := begun.after [.value "a" "x", .value "b" "y"]
    let next := (e.setTemplate "\x7b\x7bb|url\x7d\x7d\x7b\x7ba|text\x7d\x7d").2
    e.vars.toList = [⟨"a", .text, "x"⟩, ⟨"b", .text, "y"⟩] ∧
    begun.unsaved [] [.value "a" "x", .value "b" "y"] = ["b"] ∧
    next.vars.value? "a" = some "x" ∧ next.vars.value? "b" = some "" := by
  intro store begun e next
  have hvars : e.vars.toList = [⟨"a", .text, "x"⟩, ⟨"b", .text, "y"⟩] := by decide +kernel
  have hunsaved : begun.unsaved [] [.value "a" "x", .value "b" "y"] = ["b"] := by decide +kernel
  have hd : declarations "\x7b\x7bb|url\x7d\x7d\x7b\x7ba|text\x7d\x7d" = .ok [⟨"b", .url⟩, ⟨"a", .text⟩] := by
    decide +kernel
  have hparse : parse "\x7b\x7bb|url\x7d\x7d\x7b\x7ba|text\x7d\x7d" (fun _ => none) = .ok (seeded _ _) :=
    Template.parse_eq_ok_iff.2 ⟨_, hd, rfl⟩
  have hkept := value_kept_of_not_unsaved store "\x7b\x7ba|text\x7d\x7d\x7b\x7bb|text\x7d\x7d"
    [.value "a" "x", .value "b" "y"] hparse
  obtain ⟨-, hsame, -⟩ := hkept ⟨"a", .text, "x"⟩ (by rw [hvars]; decide) (by decide)
  obtain ⟨hstore, -, -⟩ := hkept ⟨"b", .text, "y"⟩ (by rw [hvars]; decide) (by decide)
  refine ⟨hvars, hunsaved, hsame (by rw [hunsaved]; decide), ?_⟩
  rw [hstore]
  decide +kernel

/-- A value that the variables have does not outlast a template that declares its name, if its save has failed. -/
theorem value_lost_after_failed_save :
    let store : Faulty MemoryStore := ⟨MemoryStore.empty, ⟨"probe"⟩, [1], 0⟩
    let begun := attach store "\x7b\x7ba|text\x7d\x7d"
    let e := begun.2.after [.value "a" "x"]
    let next := e.setTemplate "\x7b\x7ba|text\x7d\x7d \x7b\x7bb|number\x7d\x7d"
    begun.1 = .ok () ∧ begun.2.answers [.value "a" "x"] = [.error (.access ⟨"probe"⟩ .refused)] ∧
    e.vars.toList = [⟨"a", .text, "x"⟩] ∧
    next.1 = .ok () ∧ next.2.error = none ∧ next.2.vars.toList = [⟨"a", .text, ""⟩, ⟨"b", .number, ""⟩] := by
  intro store begun e next
  refine ⟨?_, ?_, ?_, ?_, ?_, ?_⟩
  · decide +kernel
  · decide +kernel
  · decide +kernel
  · decide +kernel
  · decide +kernel
  · decide +kernel

end TypedTemplates.Engine
