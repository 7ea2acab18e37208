import TypedTemplates.Proofs.Engine.Agreement
import TypedTemplates.Proofs.Store.File
import Mathlib.Data.List.Permutation

/-!
# Stores in memory and in files

It makes no difference to an engine whether its store is in memory or in a file. The engine may be given up at any
time and another one attached, to the store loaded again from its file on the one side and to the same store on the
other. That comes to the same, since a store that was loaded or saved is loaded again as it is (`Settled.reopen`).
So engines on both sides stay together at every step (`Together.step`).
-/

namespace TypedTemplates

open Json (Value)
open JsonFileStore (contents? load Storable diskWith plainPath)
open VariableStore (get? save)

/-! ### Loading a store again -/

namespace StoreOnDisk

/-- The store as its file has it. -/
def reopen (s : StoreOnDisk) : Except StoreError StoreOnDisk :=
  (load s.disk s.store.path s.store.key).map fun store => ⟨store, s.disk⟩

theorem save_eq (s : StoreOnDisk) (vs : VariableSet) :
    save s vs = ((s.store.save s.disk vs).1, ⟨(s.store.save s.disk vs).2.1, (s.store.save s.disk vs).2.2⟩) := rfl

/-- The store is what its file says, and what it keeps beside its own entries can be written back. -/
structure Settled (s : StoreOnDisk) : Prop where
  load_eq : load s.disk s.store.path s.store.key = .ok s.store
  others_storable : Storable s.store.others
  erase_others : s.store.others.erase s.store.key = s.store.others

theorem settled_of_load {disk : Disk} {path : Path} {key : String} {s : JsonFileStore} {members : Keyed Value}
    (hload : load disk path key = .ok s) (hmembers : contents? disk path = some members)
    (hwhole : ∀ m ∈ members, m.2.Whole) : Settled ⟨s, disk⟩ := by
  have hs := JsonFileStore.storable_of_contents? hmembers hwhole
  obtain ⟨entries, rfl⟩ := JsonFileStore.eq_of_load hload hmembers
  exact ⟨hload, hs.erase key, Keyed.erase_erase_self key members⟩

/-- A store stays settled as long as its file does. -/
theorem Settled.of_look?_eq {s : JsonFileStore} {disk disk' : Disk} (h : Settled ⟨s, disk⟩)
    (hlook : disk'.look? s.path = disk.look? s.path) : Settled ⟨s, disk'⟩ :=
  ⟨(JsonFileStore.load_congr hlook s.key).trans h.load_eq, h.others_storable, h.erase_others⟩

/-- A store is settled again once its file holds what a save of it writes. -/
theorem Settled.of_read {s : JsonFileStore} {disk disk' : Disk} {vs : VariableSet} (h : Settled ⟨s, disk⟩)
    (hread : disk'.read s.path = .ok ((s.root vs).text .indented)) :
    Settled ⟨{ s with entries := vs.entries }, disk'⟩ :=
  ⟨JsonFileStore.load_of_read h.others_storable h.erase_others hread, h.others_storable, h.erase_others⟩

theorem Settled.reopen {s : StoreOnDisk} (h : s.Settled) : s.reopen = .ok s := by
  rw [StoreOnDisk.reopen, h.load_eq]
  rfl

theorem Settled.save {s : StoreOnDisk} (h : s.Settled) {vs : VariableSet} (hok : (save s vs).1 = .ok ()) :
    (save s vs).2.Settled := by
  rw [save_eq] at hok ⊢
  rw [(JsonFileStore.save_of_ok hok).1]
  exact h.of_read (JsonFileStore.save_of_ok hok).2

/-- The file of the store can be written, now and later. -/
def Writable (s : StoreOnDisk) : Prop :=
  s.disk.Writable s.store.path

theorem Writable.save {s : StoreOnDisk} (h : s.Writable) (vs : VariableSet) :
    (save s vs).1 = .ok () ∧ (save s vs).2.Writable := by
  obtain ⟨disk, hsave, hwritable⟩ := s.store.save_of_writable h vs
  rw [save_eq, hsave]
  exact ⟨rfl, hwritable⟩

end StoreOnDisk

/-! ### Runs with new engines -/

/-- What is done to an engine, or to a store between two engines. -/
inductive Step where
  /-- The engine is given up, and another one is attached to the store. -/
  | attach (template : String)
  | edit (edit : Edit)
  deriving DecidableEq, Repr

namespace Engine

section Steps

variable {σ : Type} [VariableStore σ] (reopen : σ → Except StoreError σ)

/-- Makes the step. The store is opened again for a new engine. -/
def step (e : Engine σ) : Step → Except StoreError (Option Bool) × Engine σ
  | .attach template =>
    match reopen e.store with
    | .ok store =>
      let (result, e) := attach store template
      (result.map fun _ => none, e)
    | .error error => (.error error, e)
  | .edit edit => e.apply edit

/-- The engine after the steps. -/
def afterSteps (e : Engine σ) (steps : List Step) : Engine σ :=
  steps.foldl (fun e step => (e.step reopen step).2) e

/-- The answers to the steps, one after the other. -/
def stepAnswers (e : Engine σ) : List Step → List (Except StoreError (Option Bool))
  | [] => []
  | step :: steps => (e.step reopen step).1 :: (e.step reopen step).2.stepAnswers steps

theorem stepAnswers_append (e : Engine σ) (xs ys : List Step) :
    e.stepAnswers reopen (xs ++ ys) = e.stepAnswers reopen xs ++ (e.afterSteps reopen xs).stepAnswers reopen ys := by
  induction xs generalizing e with
  | nil => rfl
  | cons step xs ih =>
    rw [List.cons_append, stepAnswers, ih]
    rfl

theorem step_attach_of_reopen {reopen : σ → Except StoreError σ} {e : Engine σ} {store : σ}
    (h : reopen e.store = .ok store) (template : String) :
    e.step reopen (.attach template) = (idle store).apply (.template template) := by
  rw [step, h]
  rfl

end Steps

/-- An engine over a file and one over memory that cannot be told apart, and where loading the file again changes
nothing. -/
structure Together (file : Engine StoreOnDisk) (memory : Engine MemoryStore) : Prop where
  settled : file.store.Settled
  alike : file.Alike memory
  get?_eq : get? file.store = get? memory.store

/-- The answer says that a file or a directory cannot be made. Saves fail in that way only, and loads in other ways. -/
def WriteFails (answer : Except StoreError (Option Bool)) : Prop :=
  ∃ path cause, answer = .error (.access path cause) ∧ cause.OfWriting

/-- All writes have succeeded. -/
def Written (answers : List (Except StoreError (Option Bool))) : Prop :=
  ∀ answer ∈ answers, ¬ WriteFails answer

theorem Together.apply {file : Engine StoreOnDisk} {memory : Engine MemoryStore} (h : file.Together memory)
    {edit : Edit} (hwritten : ¬ WriteFails (file.apply edit).1) :
    (file.apply edit).1 = (memory.apply edit).1 ∧ (file.apply edit).2.Together (memory.apply edit).2 := by
  have halike := h.alike.apply h.get?_eq edit
  have hreply := h.alike.reply_eq edit
  by_cases hs : file.Saves edit
  · have hs' := (h.alike.saves_iff edit).1 hs
    obtain ⟨changed, happly⟩ := apply_of_saves hs
    obtain ⟨changed', happly'⟩ := apply_of_saves hs'
    have hsaved : (save file.store changed.vars).1 = .ok () := by
      cases hr : (save file.store changed.vars).1 with
      | ok u => rfl
      | error e =>
        obtain ⟨path, cause, rfl, hcause⟩ := JsonFileStore.ofWriting_of_save hr
        refine absurd ⟨path, cause, ?_, hcause⟩ hwritten
        rw [happly, hr]
        rfl
    have hfile : (file.apply edit).1 = .ok (file.reply edit) := by
      rw [happly, hsaved]
      rfl
    have hmemory : (memory.apply edit).1 = .ok (memory.reply edit) := by
      rw [happly']
      rfl
    refine ⟨by rw [hfile, hmemory, hreply], ?_, halike, ?_⟩
    · rw [happly]
      exact h.settled.save hsaved
    · rw [get?_apply_of_saves hs hfile, get?_apply_of_saves hs' hmemory, halike.vars_eq]
  · have hs' : ¬ memory.Saves edit := fun hs' => hs ((h.alike.saves_iff edit).2 hs')
    obtain ⟨hfile, hstore, -⟩ := apply_of_not_saves hs
    obtain ⟨hmemory, hstore', -⟩ := apply_of_not_saves hs'
    refine ⟨by rw [hfile, hmemory, hreply], ?_, halike, ?_⟩
    · rw [hstore]
      exact h.settled
    · rw [hstore, hstore', h.get?_eq]

theorem Together.step {file : Engine StoreOnDisk} {memory : Engine MemoryStore} (h : file.Together memory)
    {step : Step}
    (hwritten : ¬ WriteFails (file.step StoreOnDisk.reopen step).1) :
    (file.step StoreOnDisk.reopen step).1 = (memory.step .ok step).1 ∧
      (file.step StoreOnDisk.reopen step).2.Together (memory.step .ok step).2 := by
  cases step with
  | attach template =>
    rw [step_attach_of_reopen h.settled.reopen] at hwritten ⊢
    rw [step_attach_of_reopen rfl]
    have hidle : (idle file.store).Together (idle memory.store) := ⟨h.settled, alike_idle _ _, h.get?_eq⟩
    exact hidle.apply hwritten
  | edit edit => exact h.apply hwritten

/-- As long as the file can be written, the engines answer alike and stay together. -/
theorem Together.afterSteps {file : Engine StoreOnDisk} {memory : Engine MemoryStore} (h : file.Together memory)
    {steps : List Step} (hwritten : Written (file.stepAnswers StoreOnDisk.reopen steps)) :
    file.stepAnswers StoreOnDisk.reopen steps = memory.stepAnswers .ok steps ∧
      (file.afterSteps StoreOnDisk.reopen steps).Together (memory.afterSteps .ok steps) := by
  induction steps generalizing file memory with
  | nil => exact ⟨rfl, h⟩
  | cons step steps ih =>
    rw [stepAnswers, Written, List.forall_mem_cons] at hwritten
    obtain ⟨hanswer, hnext⟩ := h.step hwritten.1
    obtain ⟨hanswers, hafter⟩ := ih hnext hwritten.2
    exact ⟨by rw [stepAnswers, stepAnswers, hanswer, hanswers], hafter⟩

theorem apply_of_writable {file : Engine StoreOnDisk} (h : file.store.Writable) (edit : Edit) :
    (file.apply edit).1 = .ok (file.reply edit) ∧ (file.apply edit).2.store.Writable := by
  by_cases hs : file.Saves edit
  · obtain ⟨changed, happly⟩ := apply_of_saves hs
    obtain ⟨hsave, hwritable⟩ := h.save changed.vars
    rw [happly, hsave]
    exact ⟨rfl, hwritable⟩
  · obtain ⟨hreply, hstore, -⟩ := apply_of_not_saves hs
    rw [hstore]
    exact ⟨hreply, h⟩

/-- Where the file can be written in the beginning, it can be written at every step. -/
theorem Together.written_of_writable {file : Engine StoreOnDisk} {memory : Engine MemoryStore}
    (h : file.Together memory) (hwritable : file.store.Writable) (steps : List Step) :
    Written (file.stepAnswers StoreOnDisk.reopen steps) := by
  induction steps generalizing file memory with
  | nil => simp [stepAnswers, Written]
  | cons step steps ih =>
    have hstep : (∃ answer, (file.step StoreOnDisk.reopen step).1 = .ok answer) ∧
        (file.step StoreOnDisk.reopen step).2.store.Writable := by
      cases step with
      | attach template =>
        rw [step_attach_of_reopen h.settled.reopen]
        have hidle : (idle file.store).store.Writable := hwritable
        obtain ⟨hok, hnext⟩ := apply_of_writable hidle (.template template)
        exact ⟨⟨_, hok⟩, hnext⟩
      | edit edit =>
        obtain ⟨hok, hnext⟩ := apply_of_writable hwritable edit
        exact ⟨⟨_, hok⟩, hnext⟩
    obtain ⟨⟨answer, hok⟩, hnext⟩ := hstep
    have hthis : ¬ WriteFails (file.step StoreOnDisk.reopen step).1 := by
      rintro ⟨path, cause, herror, -⟩
      rw [hok] at herror
      cases herror
    rw [stepAnswers, Written, List.forall_mem_cons]
    exact ⟨hthis, ih (h.step hthis).2 hnext⟩

/-- Take a store that is loaded from a file in which all numbers are whole, and a store in memory with the same
answers. Then the same steps, new engines included, are answered alike over both, as long as the file can be
written; and after each of them the engines have the same template, variables, error and output over stores with the
same answers. In particular the file can be loaded again at every moment. -/
theorem backends_agree {disk : Disk} {path : Path} {key : String} {s : JsonFileStore} {members : Keyed Value}
    {m : MemoryStore} (hload : load disk path key = .ok s) (hmembers : contents? disk path = some members)
    (hwhole : ∀ p ∈ members, p.2.Whole) (hget : ∀ name, get? (⟨s, disk⟩ : StoreOnDisk) name = get? m name)
    (steps : List Step) (hwritten : Written ((idle (⟨s, disk⟩ : StoreOnDisk)).stepAnswers StoreOnDisk.reopen steps)) :
    (idle (⟨s, disk⟩ : StoreOnDisk)).stepAnswers StoreOnDisk.reopen steps = (idle m).stepAnswers .ok steps ∧
    ∀ done, done <+: steps →
      let file := (idle (⟨s, disk⟩ : StoreOnDisk)).afterSteps StoreOnDisk.reopen done
      let memory := (idle m).afterSteps .ok done
      file.template = memory.template ∧ file.vars = memory.vars ∧ file.error = memory.error ∧
      file.output = memory.output ∧ (∀ name, get? file.store name = get? memory.store name) ∧
      file.store.reopen = .ok file.store := by
  have h : (idle (⟨s, disk⟩ : StoreOnDisk)).Together (idle m) :=
    ⟨StoreOnDisk.settled_of_load hload hmembers hwhole, alike_idle _ _, funext hget⟩
  refine ⟨(h.afterSteps hwritten).1, ?_⟩
  rintro done ⟨rest, rfl⟩ file memory
  have hdone : Written ((idle (⟨s, disk⟩ : StoreOnDisk)).stepAnswers StoreOnDisk.reopen done) := by
    intro answer ha
    refine hwritten answer ?_
    rw [stepAnswers_append]
    exact List.mem_append_left _ ha
  have hlast := (h.afterSteps hdone).2
  exact ⟨hlast.alike.template_eq, hlast.alike.vars_eq, hlast.alike.error_eq, hlast.alike.output_eq,
    congrFun hlast.get?_eq, hlast.settled.reopen⟩

/-- The record under `a` has another name, and the file is loaded again after a value was saved. -/
theorem backends_agree_other_name :
    let record : Value := .array [.string "z", .string "text", .string "old"]
    let members : Keyed Value := [("k", .object [("a", record)]), ("o", .number (.int 1))]
    let disk := diskWith ((Value.object members).text .indented)
    let store : JsonFileStore := ⟨plainPath, "k", [("a", ⟨"z", .text, "old"⟩)], [("o", .number (.int 1))]⟩
    let memory : MemoryStore := ⟨[("a", ⟨"a", .url, "old"⟩)]⟩
    let steps : List Step := [.attach "\x7b\x7ba|text\x7d\x7d", .edit (.value "a" "x"), .attach "\x7b\x7b",
      .edit (.template "\x7b\x7ba|url\x7d\x7d\x7b\x7bb|text\x7d\x7d")]
    load disk plainPath "k" = .ok store ∧
    (idle (⟨store, disk⟩ : StoreOnDisk)).stepAnswers StoreOnDisk.reopen steps =
      [.ok none, .ok (some true), .ok none, .ok none] ∧
    ((idle (⟨store, disk⟩ : StoreOnDisk)).afterSteps StoreOnDisk.reopen steps).output = "x" ∧
    ∀ name, get? ((idle (⟨store, disk⟩ : StoreOnDisk)).afterSteps StoreOnDisk.reopen steps).store name =
      get? ((idle memory).afterSteps .ok steps).store name := by
  intro record members disk store memory steps
  have hrecord : record.Whole := by
    refine .array ?_
    simp only [List.forall_mem_cons]
    exact ⟨.string _, .string _, .string _, by simp⟩
  have hobject : (Value.object [("a", record)]).Whole := .object (by simpa using hrecord)
  have hother : Storable [("o", .number (.int 1))] :=
    JsonFileStore.storable_nil.insert "o" (.number ⟨by decide, by decide⟩) rfl (by decide)
  have hs : Storable members := hother.insert "k" hobject rfl (by decide)
  have hmembers : contents? disk plainPath = some members := hs.contents?_of_read (JsonFileStore.read_diskWith _)
  have hload : load disk plainPath "k" = .ok store :=
    JsonFileStore.load_eq_ok_iff.2 ⟨members, [("a", ⟨"z", .text, "old"⟩)], hmembers, by cbv, rfl⟩
  have hget : ∀ name, get? (⟨store, disk⟩ : StoreOnDisk) name = get? memory name := by
    intro name
    show ((Keyed.find? name [("a", _)]).map _ : Option String) = (Keyed.find? name [("a", _)]).map _
    by_cases h : "a" = name <;> simp [Keyed.find?, h]
  have hidle : (idle (⟨store, disk⟩ : StoreOnDisk)).Together (idle memory) :=
    ⟨StoreOnDisk.settled_of_load hload hmembers hs.whole, alike_idle _ _, funext hget⟩
  have hwritten := hidle.written_of_writable (JsonFileStore.writable_diskWith _) steps
  obtain ⟨hsame, hafter⟩ := backends_agree hload hmembers hs.whole hget steps hwritten
  obtain ⟨-, -, -, houtput, hanswers, -⟩ := hafter steps (List.prefix_refl steps)
  refine ⟨hload, ?_, ?_, hanswers⟩
  · rw [hsame]
    cbv
  · rw [houtput]
    cbv

end Engine

end TypedTemplates
