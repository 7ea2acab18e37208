import TypedTemplates.Proofs.Engine.Agreement
import TypedTemplates.Store.Memory
import Mathlib.Data.List.Permutation

/-!
# Engines as ledgers

A ledger is what an engine does to values, without texts, errors and saves: values under names, and the
declarations in force. Over a store that keeps what it saves, an engine whose saves succeed is a ledger at
every moment (`Matches.after`). In a ledger a value lasts exactly as long as every template declares its
name (`Ledger.kept_iff`), so it does in an engine.
-/

namespace TypedTemplates

open Template (Declaration declarations declared? parse seeded)

/-- Values under names, and the names and types that are declared. -/
structure Ledger where
  value? : String → Option String
  declared : List Declaration

namespace Ledger

/-- The names that are declared. -/
def names (l : Ledger) : List String :=
  l.declared.map (·.name)

/-- A template keeps the values of the names it declares and drops all others; a text that is none changes
nothing. A value is taken only under a declared name. -/
def apply (l : Ledger) : Edit → Option Bool × Ledger
  | .template text =>
    match declared? text with
    | some ds => (none, ⟨fun n => if n ∈ ds.map (·.name) then some ((l.value? n).getD "") else none, ds⟩)
    | none => (none, l)
  | .value name value =>
    if name ∈ l.names then (some true, { l with value? := fun n => if n = name then some value else l.value? n })
    else (some false, l)

/-- The ledger after the edits. -/
def after (l : Ledger) (edits : List Edit) : Ledger :=
  edits.foldl (fun l edit => (l.apply edit).2) l

/-- The answers to the edits, one after the other. -/
def answers (l : Ledger) : List Edit → List (Option Bool)
  | [] => []
  | edit :: edits => (l.apply edit).1 :: (l.apply edit).2.answers edits

@[simp] theorem after_nil (l : Ledger) : l.after [] = l := rfl

@[simp] theorem after_cons (l : Ledger) (edit : Edit) (edits : List Edit) :
    l.after (edit :: edits) = (l.apply edit).2.after edits := rfl

theorem after_append (l : Ledger) (xs ys : List Edit) : l.after (xs ++ ys) = (l.after xs).after ys :=
  List.foldl_append

/-! ### How long a value lasts -/

/-- The last value that is taken under the name in the course of the edits, starting from one. -/
def lastTaken (l : Ledger) (name value : String) : List Edit → String
  | [] => value
  | .template text :: edits => (l.apply (.template text)).2.lastTaken name value edits
  | .value n v :: edits =>
    (l.apply (.value n v)).2.lastTaken name (if n ∈ l.names ∧ n = name then v else value) edits

theorem apply_template_of_none (l : Ledger) {text : String} (h : declared? text = none) :
    l.apply (.template text) = (none, l) := by
  simp [apply, h]

theorem apply_template_of_some (l : Ledger) {text : String} {ds : List Declaration}
    (h : declared? text = some ds) :
    l.apply (.template text) =
      (none, ⟨fun n => if n ∈ ds.map (·.name) then some ((l.value? n).getD "") else none, ds⟩) := by
  simp [apply, h]

theorem apply_value_of_mem (l : Ledger) {name : String} (value : String) (h : name ∈ l.names) :
    l.apply (.value name value) =
      (some true, { l with value? := fun n => if n = name then some value else l.value? n }) :=
  if_pos h

theorem apply_value_of_not_mem (l : Ledger) {name : String} (value : String) (h : name ∉ l.names) :
    l.apply (.value name value) = (some false, l) :=
  if_neg h

/-- A value lasts as long as every template declares its name. -/
theorem value?_after {l : Ledger} {name value : String} {edits : List Edit} (hv : l.value? name = some value)
    (hall : ∀ text ds, .template text ∈ edits → declared? text = some ds → name ∈ ds.map (·.name)) :
    (l.after edits).value? name = some (l.lastTaken name value edits) := by
  induction edits generalizing l value with
  | nil => exact hv
  | cons edit edits ih =>
    have hall' : ∀ text ds, .template text ∈ edits → declared? text = some ds → name ∈ ds.map (·.name) :=
      fun text ds hm => hall text ds (List.mem_cons_of_mem _ hm)
    rw [after_cons]
    cases edit with
    | template text =>
      rw [lastTaken]
      cases hdecl : declared? text with
      | none =>
        rw [apply_template_of_none l hdecl]
        exact ih hv hall'
      | some ds =>
        have hn := hall text ds List.mem_cons_self hdecl
        rw [apply_template_of_some l hdecl]
        exact ih (by simp [hn, hv]) hall'
    | value n v =>
      rw [lastTaken]
      by_cases hn : n ∈ l.names
      · rw [apply_value_of_mem l v hn]
        refine ih ?_ hall'
        by_cases he : n = name
        · simp [he, he ▸ hn]
        · simp [he, Ne.symm he, hv]
      · rw [apply_value_of_not_mem l v hn, if_neg (fun h => hn h.1)]
        exact ih hv hall'

/-- A template that does not declare a name drops its value. -/
theorem value?_after_template_eq_none (l : Ledger) {name text : String} {ds : List Declaration}
    (edits : List Edit) (h : declared? text = some ds) (hn : name ∉ ds.map (·.name)) :
    (l.after (edits ++ [.template text])).value? name = none ∧
      name ∉ (l.after (edits ++ [.template text])).names := by
  rw [after_append, after_cons, after_nil, apply_template_of_some _ h]
  exact ⟨if_neg hn, hn⟩

theorem kept_iff {l : Ledger} {name value : String} {edits : List Edit} (hv : l.value? name = some value) :
    (∀ done, done <+: edits → (l.after done).value? name = some (l.lastTaken name value done)) ↔
      ∀ text ds, .template text ∈ edits → declared? text = some ds → name ∈ ds.map (·.name) := by
  constructor
  · intro hkept text ds hm hdecl
    by_cases hn : name ∈ ds.map (·.name)
    · exact hn
    · obtain ⟨before, later, rfl⟩ := List.append_of_mem hm
      -- otherwise the value would be gone right after the template
      have hlast := hkept (before ++ [.template text]) ⟨later, by simp⟩
      rw [(value?_after_template_eq_none l before hdecl hn).1] at hlast
      cases hlast
  · intro hall done hdone
    exact value?_after hv fun text ds hm => hall text ds (hdone.subset hm)

end Ledger

/-! ### Engines over stores that keep what they save -/

namespace Engine

variable {σ : Type} [VariableStore σ]

/-- The engine stands where the ledger stands. Once anything is declared, no other name has a value. -/
structure Matches (e : Engine σ) (l : Ledger) : Prop where
  store_eq : VariableStore.get? e.store = l.value?
  signature_eq : e.vars.signature = l.declared
  value_eq : ∀ v ∈ e.vars.toList, l.value? v.name = some v.value
  value?_eq_none : l.declared ≠ [] → ∀ name, name ∉ l.names → l.value? name = none

theorem Matches.names_eq {e : Engine σ} {l : Ledger} (h : e.Matches l) : e.vars.names = l.names := by
  rw [← VariableSet.map_name_signature, h.signature_eq]
  rfl

/-- Right after a save the variables alone say what the store answers. -/
theorem matches_of_saved {e : Engine σ} {l : Ledger} (hget : VariableStore.get? e.store = e.vars.value?)
    (hvalue : e.vars.value? = l.value?) (hsig : e.vars.signature = l.declared) : e.Matches l where
  store_eq := hget.trans hvalue
  signature_eq := hsig
  value_eq := by
    intro v hv
    rw [← hvalue, VariableSet.value?, VariableSet.get?_of_mem hv, Option.map_some]
  value?_eq_none := by
    intro _ name hn
    rwa [← hvalue, VariableSet.value?_eq_none_iff, ← VariableSet.map_name_signature, hsig]

theorem Matches.variables_eq {e : Engine σ} {l : Ledger} (h : e.Matches l) :
    (e.vars.toList.map fun v => ((⟨v.name, v.type⟩ : Declaration), some v.value)) =
      l.declared.map fun d => (d, l.value? d.name) := by
  rw [← h.signature_eq, VariableSet.signature, List.map_map]
  apply List.map_congr_left
  intro v hv
  simp [h.value_eq v hv]

/-- Once anything is declared, the variables have all values of the ledger. -/
theorem Matches.value?_eq {e : Engine σ} {l : Ledger} (h : e.Matches l) (hne : l.declared ≠ []) :
    e.vars.value? = l.value? := by
  funext name
  by_cases hn : name ∈ e.vars.names
  · obtain ⟨v, hv, rfl⟩ := List.mem_map.1 hn
    rw [h.value_eq v hv, VariableSet.value?, VariableSet.get?_of_mem hv, Option.map_some]
  · rw [h.value?_eq_none hne name (h.names_eq ▸ hn), VariableSet.value?_eq_none_iff.2 hn]

private theorem eq_ok_of_map_eq_ok {α β : Type} {r : Except StoreError α} {f : α → β} {b : β}
    (h : r.map f = .ok b) : ∃ a, r = .ok a ∧ f a = b := by
  cases r with
  | ok a => exact ⟨a, rfl, Except.ok.inj h⟩
  | error e => cases h

/-- An edit whose save does not fail is answered as in the ledger, and engine and ledger match after it. -/
theorem Matches.apply (hkeep : VariableStore.Retentive σ) {e : Engine σ} {l : Ledger} (h : e.Matches l)
    {edit : Edit} {answer : Option Bool} (ha : (e.apply edit).1 = .ok answer) :
    answer = (l.apply edit).1 ∧ (e.apply edit).2.Matches (l.apply edit).2 := by
  cases edit with
  | template text =>
    cases hd : declarations text with
    | error error =>
      have hdecl : declared? text = none := Template.declared?_eq_none_iff.2 ⟨error, hd⟩
      rw [l.apply_template_of_none hdecl]
      rw [Engine.apply, setTemplate_of_error e hd] at ha ⊢
      exact ⟨(Except.ok.inj ha).symm, h.store_eq, h.signature_eq, h.value_eq, h.value?_eq_none⟩
    | ok ds =>
      have hdecl : declared? text = some (Template.firsts ds) := Template.declared?_eq_some_iff.2 ⟨ds, hd, rfl⟩
      rw [l.apply_template_of_some hdecl]
      rw [Engine.apply, setTemplate_of_ok e hd] at ha ⊢
      obtain ⟨⟨⟩, hsave, rfl⟩ := eq_ok_of_map_eq_ok ha
      refine ⟨rfl, matches_of_saved (hkeep _ _ hsave) ?_ (Template.signature_seeded _ ds)⟩
      funext name
      simp only [Template.value?_seeded, Template.mem_map_name_firsts, h.store_eq]
  | value name value =>
    by_cases hn : name ∈ e.vars.names
    · have hl : name ∈ l.names := h.names_eq ▸ hn
      -- the save leaves the values of the variables only, but there are no others
      have hne : l.declared ≠ [] := fun hnil => by simp [Ledger.names, hnil] at hl
      rw [l.apply_value_of_mem value hl]
      rw [Engine.apply, setValue_of_mem e value hn] at ha ⊢
      obtain ⟨_, hmap, rfl⟩ := eq_ok_of_map_eq_ok ha
      obtain ⟨⟨⟩, hsave, rfl⟩ := eq_ok_of_map_eq_ok hmap
      refine ⟨rfl, matches_of_saved (hkeep _ _ hsave) ?_ ?_⟩
      · funext other
        rw [VariableSet.value?_mapValue value hn, h.value?_eq hne]
      · rw [VariableSet.signature_mapValue, h.signature_eq]
    · have hl : name ∉ l.names := h.names_eq ▸ hn
      rw [l.apply_value_of_not_mem value hl]
      rw [Engine.apply, setValue_of_not_mem e value hn] at ha ⊢
      exact ⟨(Except.ok.inj ha).symm, h⟩

/-- Every run without a failing save is answered as in the ledger, and engine and ledger match after it. -/
theorem Matches.after (hkeep : VariableStore.Retentive σ) {e : Engine σ} {l : Ledger} (h : e.Matches l)
    {edits : List Edit} (hok : ∀ answer ∈ e.answers edits, ∃ a, answer = .ok a) :
    e.answers edits = (l.answers edits).map .ok ∧ (e.after edits).Matches (l.after edits) := by
  induction edits generalizing e l with
  | nil => exact ⟨rfl, h⟩
  | cons edit edits ih =>
    rw [answers, List.forall_mem_cons] at hok
    obtain ⟨⟨a, ha⟩, hok⟩ := hok
    obtain ⟨rfl, hm⟩ := h.apply hkeep ha
    obtain ⟨hanswers, hafter⟩ := ih hm hok
    exact ⟨by rw [answers, ha, hanswers]; rfl, hafter⟩

/-- Before there is a template, the ledger has what the store has. -/
theorem matches_idle (store : σ) : (idle store).Matches ⟨VariableStore.get? store, []⟩ :=
  ⟨rfl, rfl, by simp [idle, VariableSet.empty], by simp⟩

/-- Over a store that keeps what it saves, a run without a failing save is a run of the ledger that begins
with the values of the store. The answers are the same, and at every moment the variables are the declared
ones with the values of the ledger, and the store answers what the ledger has. From any moment on, a value
that the store has lasts exactly as long as every text that is a template declares its name, and the first
one that does not drops it. -/
theorem refines_ledger (hkeep : VariableStore.Retentive σ) (store : σ) (template : String) (edits : List Edit)
    (hattach : (attach store template).1 = .ok ())
    (hok : ∀ answer ∈ (attach store template).2.answers edits, ∃ a, answer = .ok a) :
    let start : Ledger := ((⟨VariableStore.get? store, []⟩ : Ledger).apply (.template template)).2
    let begun := (attach store template).2
    begun.answers edits = (start.answers edits).map .ok ∧
    ∀ done rest, edits = done ++ rest →
      ((begun.after done).vars.toList.map fun v => ((⟨v.name, v.type⟩ : Declaration), some v.value)) =
        (start.after done).declared.map (fun d => (d, (start.after done).value? d.name)) ∧
      VariableStore.get? (begun.after done).store = (start.after done).value? ∧
      ∀ name value, VariableStore.get? (begun.after done).store name = some value →
        ((∀ part, part <+: rest → VariableStore.get? (begun.after (done ++ part)).store name =
            some ((start.after done).lastTaken name value part)) ↔
          ∀ text prior vs, .template text ∈ rest → parse text prior = .ok vs → name ∈ vs.names) ∧
        ∀ part text prior vs, part ++ [.template text] <+: rest → parse text prior = .ok vs → name ∉ vs.names →
          VariableStore.get? (begun.after (done ++ part ++ [.template text])).store name = none ∧
          name ∉ (begun.after (done ++ part ++ [.template text])).vars.names := by
  intro start begun
  have hbegun : begun.Matches start := by
    have ha : ((idle store).apply (.template template)).1 = .ok none := by
      show (attach store template).1.map _ = _
      rw [hattach]
      rfl
    exact ((matches_idle store).apply hkeep ha).2
  -- every prefix of the run is a run without a failing save
  have hprefix : ∀ part, part <+: edits → (begun.after part).Matches (start.after part) := by
    rintro part ⟨rest, rfl⟩
    refine (hbegun.after hkeep fun answer ha => hok answer ?_).2
    rw [answers_append]
    exact List.mem_append_left _ ha
  refine ⟨(hbegun.after hkeep hok).1, ?_⟩
  rintro done rest rfl
  have hdone := hprefix done (List.prefix_append done rest)
  have hafter : ∀ part, part <+: rest →
      (begun.after (done ++ part)).Matches ((start.after done).after part) := by
    rintro part ⟨later, rfl⟩
    rw [← Ledger.after_append]
    exact hprefix (done ++ part) ⟨later, by simp⟩
  refine ⟨hdone.variables_eq, hdone.store_eq, ?_⟩
  intro name value hv
  rw [hdone.store_eq] at hv
  constructor
  · have hstore : (∀ part, part <+: rest → VariableStore.get? (begun.after (done ++ part)).store name =
        some ((start.after done).lastTaken name value part)) ↔ ∀ part, part <+: rest →
        ((start.after done).after part).value? name = some ((start.after done).lastTaken name value part) :=
      forall₂_congr fun part hpart => by rw [(hafter part hpart).store_eq]
    rw [hstore, Ledger.kept_iff hv]
    constructor
    · intro h text prior vs hm
      exact Template.forall_declared?_iff.1 (fun ds => h text ds hm) prior vs
    · intro h text ds hm
      exact Template.forall_declared?_iff.2 (fun prior vs => h text prior vs hm) ds
  · intro part text prior vs hpart hp hn
    have hdecl := Template.declared?_of_parse hp
    rw [← VariableSet.map_name_signature] at hn
    have hlast := hafter _ hpart
    rw [← List.append_assoc] at hlast
    rw [hlast.store_eq, hlast.names_eq]
    exact Ledger.value?_after_template_eq_none _ part hdecl hn

/-- A value outlasts a text that is no template and goes with a template that does not declare its name. -/
theorem refines_ledger_memory :
    (attach MemoryStore.empty "\x7b\x7ba|text\x7d\x7d").1 = .ok () ∧
    (attach MemoryStore.empty "\x7b\x7ba|text\x7d\x7d").2.answers
      [.value "a" "x", .template "\x7b\x7bb|bad\x7d\x7d", .template "\x7b\x7bb|url\x7d\x7d"] =
      [.ok (some true), .ok none, .ok none] ∧
    VariableStore.get? ((attach MemoryStore.empty "\x7b\x7ba|text\x7d\x7d").2.after
      [.value "a" "x", .template "\x7b\x7bb|bad\x7d\x7d"]).store "a" = some "x" ∧
    VariableStore.get? ((attach MemoryStore.empty "\x7b\x7ba|text\x7d\x7d").2.after
      [.value "a" "x", .template "\x7b\x7bb|bad\x7d\x7d", .template "\x7b\x7bb|url\x7d\x7d"]).store "a" = none := by
  have hattach : (attach MemoryStore.empty "\x7b\x7ba|text\x7d\x7d").1 = .ok () := by cbv
  have hanswers : (attach MemoryStore.empty "\x7b\x7ba|text\x7d\x7d").2.answers
      [.value "a" "x", .template "\x7b\x7bb|bad\x7d\x7d", .template "\x7b\x7bb|url\x7d\x7d"] =
      [.ok (some true), .ok none, .ok none] := by cbv
  have hvalue : VariableStore.get? ((attach MemoryStore.empty "\x7b\x7ba|text\x7d\x7d").2.after
      [.value "a" "x"]).store "a" = some "x" := by cbv
  have hurl : parse "\x7b\x7bb|url\x7d\x7d" (fun _ => none) = .ok (.ofList [⟨"b", .url, ""⟩]) := by cbv
  obtain ⟨-, hrun⟩ := refines_ledger (VariableStore.retentive_of_lawful MemoryStore) MemoryStore.empty
    "\x7b\x7ba|text\x7d\x7d"
    [.value "a" "x", .template "\x7b\x7bb|bad\x7d\x7d", .template "\x7b\x7bb|url\x7d\x7d"] hattach
    (by simp [hanswers])
  obtain ⟨-, -, hkept⟩ := hrun [.value "a" "x"]
    [.template "\x7b\x7bb|bad\x7d\x7d", .template "\x7b\x7bb|url\x7d\x7d"] rfl
  obtain ⟨-, hdropped⟩ := hkept "a" "x" hvalue
  -- the text that is no template is passed over
  have hnone := hdropped [.template "\x7b\x7bb|bad\x7d\x7d"] _ _ _ ⟨[], rfl⟩ hurl (by decide)
  exact ⟨hattach, hanswers, by cbv, hnone.1⟩

end Engine

end TypedTemplates
