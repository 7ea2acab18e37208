import TypedTemplates.Proofs.Store.File

/-!
# Stores that share a file

Several stores may be loaded from one file under different keys, while other programs change the file too. A store
does not look at the file again before it is saved. What it keeps beside its own entries is never changed
(`Keeps.run?`), so a save puts back what the file held under all other keys when the store was loaded, and what has
been saved under them in the meantime is lost.
-/

namespace TypedTemplates

open Json (Value)
open JsonFileStore (contents? load Storable diskWith plainPath)

/-- A disk, and the stores that were loaded from one of its files, in the order in which they were loaded. -/
structure SharedFile where
  disk : Disk
  stores : List JsonFileStore

namespace SharedFile

/-- What can happen to a file and to the stores in it. -/
inductive Event where
  | load (key : String)
  /-- The store of that number is saved. -/
  | save (index : Nat) (vs : VariableSet)
  /-- Another program changes the disk. -/
  | change (disk : Disk)

/-- What comes of an event, unless a load or a save fails. -/
def step? (path : Path) (f : SharedFile) : Event → Option SharedFile
  | .load key =>
    match load f.disk path key with
    | .ok store => some { f with stores := f.stores ++ [store] }
    | .error _ => none
  | .save index vs =>
    match f.stores[index]? with
    | none => none
    | some store =>
      match store.save f.disk vs with
      | (.ok (), store, disk) => some ⟨disk, f.stores.set index store⟩
      | (.error _, _, _) => none
  | .change disk => some { f with disk := disk }

/-- What comes of the events, one after the other, unless one fails. -/
def run? (path : Path) (f : SharedFile) : List Event → Option SharedFile
  | [] => some f
  | event :: events => (f.step? path event).bind fun f => f.run? path events

/-- The store of that number keeps these members beside its own. -/
def Keeps (f : SharedFile) (index : Nat) (path : Path) (key : String) (others : Keyed Value) : Prop :=
  ∃ entries, f.stores[index]? = some ⟨path, key, entries, others⟩

variable {path : Path} {f f' : SharedFile} {index : Nat} {key : String} {others : Keyed Value}

theorem step?_load_eq_some_iff :
    f.step? path (.load key) = some f' ↔
      ∃ store, load f.disk path key = .ok store ∧ f' = { f with stores := f.stores ++ [store] } := by
  rw [step?]
  cases load f.disk path key with
  | ok store => simp [eq_comm]
  | error e => simp

theorem step?_save_eq_some_iff {vs : VariableSet} :
    f.step? path (.save index vs) = some f' ↔
      ∃ store, f.stores[index]? = some store ∧ (store.save f.disk vs).1 = .ok () ∧
        f' = ⟨(store.save f.disk vs).2.2, f.stores.set index (store.save f.disk vs).2.1⟩ := by
  rw [step?]
  cases f.stores[index]? with
  | none => simp
  | some store =>
    rcases hsave : store.save f.disk vs with ⟨result, store', disk⟩
    cases result with
    | ok u => simp [hsave, eq_comm]
    | error e => simp [hsave]

/-- No event changes what a store keeps beside its own. -/
theorem Keeps.step? {storePath : Path} (h : f.Keeps index storePath key others) {event : Event}
    (hstep : f.step? path event = some f') : f'.Keeps index storePath key others := by
  obtain ⟨entries, hindex⟩ := h
  cases event with
  | load other =>
    obtain ⟨store, -, rfl⟩ := step?_load_eq_some_iff.1 hstep
    have hlt : index < f.stores.length := (List.getElem?_eq_some_iff.1 hindex).1
    exact ⟨entries, by rw [List.getElem?_append_left hlt, hindex]⟩
  | save saved vs =>
    obtain ⟨store, hstore, hok, rfl⟩ := step?_save_eq_some_iff.1 hstep
    by_cases hsame : saved = index
    · subst hsame
      rw [hindex, Option.some.injEq] at hstore
      subst hstore
      have hlt : saved < f.stores.length := (List.getElem?_eq_some_iff.1 hindex).1
      exact ⟨vs.entries, by rw [List.getElem?_set_self hlt, (JsonFileStore.save_of_ok hok).1]⟩
    · exact ⟨entries, by rw [List.getElem?_set_ne hsame, hindex]⟩
  | change disk =>
    cases hstep
    exact ⟨entries, hindex⟩

theorem Keeps.run? {storePath : Path} (h : f.Keeps index storePath key others) {events : List Event}
    (hrun : f.run? path events = some f') : f'.Keeps index storePath key others := by
  induction events generalizing f with
  | nil =>
    cases hrun
    exact h
  | cons event events ih =>
    obtain ⟨f₁, hstep, hrest⟩ := Option.bind_eq_some_iff.1 hrun
    exact ih (h.step? hstep) hrest

/-- Whatever happens to a file after a store was loaded from it, other stores and programs included: a save leaves
the variables under the key of the store, and under every other key what the file held when the store was loaded.
So it leaves another key as it finds it just if the file held the same under that key when the store was loaded. -/
theorem find?_save {f loaded before after : SharedFile} {members : Keyed Value} {events : List Event}
    {vs : VariableSet} (hmembers : contents? f.disk path = some members) (hwhole : ∀ m ∈ members, m.2.Whole)
    (hload : f.step? path (.load key) = some loaded) (hrun : loaded.run? path events = some before)
    (hsave : before.step? path (.save f.stores.length vs) = some after) :
    ∃ result : Keyed Value, contents? after.disk path = some result ∧
      result.find? key = some vs.toJson.sorted ∧
      (∀ other, other ≠ key → result.find? other = members.find? other) ∧
      ∀ current : Keyed Value, contents? before.disk path = some current →
        ∀ other, other ≠ key →
          (result.find? other = current.find? other ↔ members.find? other = current.find? other) := by
  obtain ⟨store, hstore, rfl⟩ := step?_load_eq_some_iff.1 hload
  obtain ⟨entries, rfl⟩ := JsonFileStore.eq_of_load hstore hmembers
  have hkeeps : Keeps ⟨f.disk, f.stores ++ [⟨path, key, entries, members.erase key⟩]⟩ f.stores.length path key
      (members.erase key) := ⟨entries, List.getElem?_concat_length⟩
  obtain ⟨entries', hindex⟩ := hkeeps.run? hrun
  obtain ⟨store, hstore', hok, rfl⟩ := step?_save_eq_some_iff.1 hsave
  rw [hindex, Option.some.injEq] at hstore'
  subst hstore'
  have hs := (JsonFileStore.storable_of_contents? hmembers hwhole).erase key
  have hfind : ∀ other, other ≠ key →
      ((members.erase key).insert key vs.toJson.sorted).find? other = members.find? other := by
    intro other hne
    rw [Keyed.find?_insert_of_ne _ _ hne.symm, Keyed.find?_erase_of_ne _ hne.symm]
  refine ⟨_, JsonFileStore.contents?_save hs hok, Keyed.find?_insert_self .., hfind, ?_⟩
  intro current _ other hne
  rw [hfind other hne]

theorem step?_save_diskWith {text : String} {stores : List JsonFileStore} {store : JsonFileStore}
    (hstore : stores[index]? = some store) (hpath : store.path = plainPath) (vs : VariableSet) :
    step? path ⟨diskWith text, stores⟩ (.save index vs) =
      some ⟨diskWith ((store.root vs).text .indented), stores.set index { store with entries := vs.entries }⟩ := by
  have hsave := JsonFileStore.save_diskWith store text vs hpath
  exact step?_save_eq_some_iff.2 ⟨store, hstore, by rw [hsave], by rw [hsave]⟩

/-- What another program has put into the file goes with the next save, and what it has taken out comes back. -/
theorem find?_save_other_program :
    let old : Keyed Value := [("z", .number (.int (-5)))]
    let new : Keyed Value := [("c", .number (.int 1))]
    let start : SharedFile := ⟨diskWith ((Value.object old).text .indented), []⟩
    let changed : Disk := diskWith ((Value.object new).text .indented)
    let store : JsonFileStore := ⟨plainPath, "b", [], old⟩
    start.run? plainPath [.load "b", .change changed] = some ⟨changed, [store]⟩ ∧
    contents? changed plainPath = some new ∧
    ∃ after, step? plainPath ⟨changed, [store]⟩ (.save 0 .empty) = some after ∧
      ∃ result : Keyed Value, contents? after.disk plainPath = some result ∧ result.find? "c" = none ∧
        result.find? "z" = some (.number (.int (-5))) := by
  intro old new start changed store
  have hold : Storable old := JsonFileStore.storable_nil.insert "z" (.number ⟨by decide, by decide⟩) rfl (by decide)
  have hnew : Storable new := JsonFileStore.storable_nil.insert "c" (.number ⟨by decide, by decide⟩) rfl (by decide)
  have hmembers : contents? start.disk plainPath = some old := hold.contents?_of_read (JsonFileStore.read_diskWith _)
  have hload : start.step? plainPath (.load "b") = some ⟨start.disk, [store]⟩ :=
    step?_load_eq_some_iff.2 ⟨store, JsonFileStore.load_eq_ok_iff.2 ⟨_, [], hmembers, rfl, rfl⟩, rfl⟩
  have hchange : run? plainPath ⟨start.disk, [store]⟩ [.change changed] = some ⟨changed, [store]⟩ := rfl
  have hsave : step? plainPath ⟨changed, [store]⟩ (.save 0 .empty) = some _ := step?_save_diskWith rfl rfl _
  obtain ⟨result, hresult, -, hothers, -⟩ := find?_save hmembers hold.whole hload hchange hsave
  refine ⟨?_, hnew.contents?_of_read (JsonFileStore.read_diskWith _), _, hsave, result, hresult,
    hothers "c" (by decide), hothers "z" (by decide)⟩
  rw [run?, hload]
  exact hchange

/-- Of two stores that are loaded from a blank file and then saved, one after the other, only the second leaves
anything in the file. -/
theorem save_loses_other_store :
    let x : VariableSet := .ofList [⟨"x", .text, "1"⟩]
    let y : VariableSet := .ofList [⟨"y", .text, "2"⟩]
    ∃ loaded saved saved', run? plainPath ⟨diskWith "", []⟩ [.load "a", .load "b"] = some loaded ∧
      loaded.step? plainPath (.save 0 x) = some saved ∧
      contents? saved.disk plainPath = some [("a", x.toJson.sorted)] ∧
      saved.step? plainPath (.save 1 y) = some saved' ∧
      contents? saved'.disk plainPath = some [("b", y.toJson.sorted)] := by
  intro x y
  have hload : run? plainPath ⟨diskWith "", []⟩ [.load "a", .load "b"] =
      some ⟨diskWith "", [⟨plainPath, "a", [], []⟩, ⟨plainPath, "b", [], []⟩]⟩ := rfl
  refine ⟨_, _, _, hload, step?_save_diskWith rfl rfl x, ?_, step?_save_diskWith rfl rfl y, ?_⟩
  · exact (JsonFileStore.storable_nil.insert_toJson "a" x).contents?_of_read (JsonFileStore.read_diskWith _)
  · exact (JsonFileStore.storable_nil.insert_toJson "b" y).contents?_of_read (JsonFileStore.read_diskWith _)

end SharedFile

end TypedTemplates
