import TypedTemplates.Proofs.Store.File
import Mathlib.Data.List.Permutation

/-!
# Sessions on one file

A session loads a store from a file and saves sets of variables with it, one after the other. However many sessions
there are and whatever keys they use, the file ends up with the set last saved under each key and with all else as it
was in the beginning (`contents?_runAll`). So each key is loaded with the entries last saved under it.
-/

namespace TypedTemplates

open Json (Value)

namespace JsonFileStore

/-- Saves the sets one after the other, as long as no save fails. -/
def saveAll (s : JsonFileStore) (disk : Disk) : List VariableSet → Except StoreError Disk
  | [] => .ok disk
  | vs :: rest =>
    match s.save disk vs with
    | (.ok (), s, disk) => s.saveAll disk rest
    | (.error e, _, _) => .error e

theorem saveAll_cons_of_save {s s' : JsonFileStore} {disk disk' : Disk} {vs : VariableSet}
    (h : s.save disk vs = (.ok (), s', disk')) (rest : List VariableSet) :
    s.saveAll disk (vs :: rest) = s'.saveAll disk' rest := by
  rw [saveAll, h]

end JsonFileStore

/-- The sets that a store saves under its key between being loaded and given up. -/
structure Session where
  key : String
  saves : List VariableSet

namespace Session

open JsonFileStore (contents? load Storable diskWith plainPath)

/-- Loads a store and saves the sets of the session, as long as nothing fails. -/
def run (path : Path) (disk : Disk) (s : Session) : Except StoreError Disk :=
  match load disk path s.key with
  | .ok store => store.saveAll disk s.saves
  | .error e => .error e

/-- One session after the other, as long as nothing fails. -/
def runAll (path : Path) (disk : Disk) : List Session → Except StoreError Disk
  | [] => .ok disk
  | s :: rest =>
    match s.run path disk with
    | .ok disk => runAll path disk rest
    | .error e => .error e

theorem run_of_load {path : Path} {disk : Disk} {s : Session} {store : JsonFileStore}
    (h : load disk path s.key = .ok store) : s.run path disk = store.saveAll disk s.saves := by
  rw [run, h]

theorem runAll_cons_of_run {path : Path} {disk disk' : Disk} {s : Session} (h : s.run path disk = .ok disk')
    (rest : List Session) : runAll path disk (s :: rest) = runAll path disk' rest := by
  rw [runAll, h]

/-- The set that was last saved under a key. -/
def lastSaved (sessions : List Session) (key : String) : Option VariableSet :=
  ((sessions.filter fun s => s.key = key).flatMap (·.saves)).getLast?

theorem lastSaved_cons (s : Session) (rest : List Session) (key : String) :
    lastSaved (s :: rest) key = (lastSaved rest key).or (if s.key = key then s.saves.getLast? else none) := by
  unfold lastSaved
  by_cases h : s.key = key
  · simp [h, List.getLast?_append]
  · simp [h]

/-- After some saves of one store the file holds the last of the sets. -/
theorem contents?_saveAll {store : JsonFileStore} {disk disk' : Disk} {sets : List VariableSet} {vs : VariableSet}
    (hs : Storable store.others) (h : store.saveAll disk sets = .ok disk') (hlast : sets.getLast? = some vs) :
    contents? disk' store.path = some (store.others.insert store.key vs.toJson.sorted) := by
  induction sets generalizing store disk with
  | nil => cases hlast
  | cons first rest ih =>
    rw [JsonFileStore.saveAll] at h
    split at h
    · next store' disk₁ hsave =>
      have hok : (store.save disk first).1 = .ok () := by rw [hsave]
      have hstore := (JsonFileStore.save_of_ok hok).1
      have hfile := JsonFileStore.contents?_save hs hok
      rw [hsave] at hstore hfile
      replace hstore : store' = { store with entries := first.entries } := hstore
      subst hstore
      cases rest with
      | nil =>
        cases h
        cases hlast
        exact hfile
      | cons second rest => exact @ih { store with entries := first.entries } disk₁ hs h (by simpa using hlast)
    · cases h

/-- A session leaves the last of its sets under its key and all else as it was. -/
theorem contents?_run {path : Path} {disk disk' : Disk} {s : Session} {members : Keyed Value}
    (hmembers : contents? disk path = some members) (hs : Storable members) (h : s.run path disk = .ok disk') :
    ∃ members' : Keyed Value, contents? disk' path = some members' ∧ Storable members' ∧
      ∀ key, members'.find? key =
        ((if s.key = key then s.saves.getLast? else none).map (·.toJson.sorted)).or (members.find? key) := by
  unfold run at h
  split at h
  · next store hload =>
    obtain ⟨entries, rfl⟩ := JsonFileStore.eq_of_load hload hmembers
    cases hlast : s.saves.getLast? with
    | none =>
      rw [List.getLast?_eq_none_iff] at hlast
      rw [hlast] at h
      cases h
      exact ⟨members, hmembers, hs, by simp⟩
    | some vs =>
      have hothers := hs.erase s.key
      refine ⟨_, contents?_saveAll hothers h hlast, hothers.insert_toJson s.key vs, ?_⟩
      intro key
      by_cases hkey : s.key = key
      · subst hkey
        simp [Keyed.find?_insert_self]
      · simp [hkey, Keyed.find?_insert_of_ne, Keyed.find?_erase_of_ne]
  · cases h

/-- After any sessions the file holds under each key the set last saved under it, or else what it held before. -/
theorem contents?_runAll {path : Path} {disk disk' : Disk} {sessions : List Session} {start : Keyed Value}
    (hstart : contents? disk path = some start) (hs : Storable start) (h : runAll path disk sessions = .ok disk') :
    ∃ members : Keyed Value, contents? disk' path = some members ∧ Storable members ∧
      ∀ key, members.find? key = ((lastSaved sessions key).map (·.toJson.sorted)).or (start.find? key) := by
  induction sessions generalizing disk start with
  | nil =>
    cases h
    exact ⟨start, hstart, hs, fun _ => rfl⟩
  | cons s rest ih =>
    rw [runAll] at h
    split at h
    · next disk₁ hrun =>
      obtain ⟨members₁, hmembers₁, hs₁, hfind₁⟩ := contents?_run hstart hs hrun
      obtain ⟨members, hmembers, hs', hfind⟩ := ih hmembers₁ hs₁ h
      refine ⟨members, hmembers, hs', ?_⟩
      intro key
      rw [hfind, hfind₁, lastSaved_cons]
      cases lastSaved rest key <;> rfl
    · cases h

/-- However many sessions there are on a file that is missing, blank, or an object whose numbers are all whole, and
whatever keys they use: afterwards every key that was saved is loaded with the variables of the set last saved under
it as entries, and every other key holds what it held in the beginning, or nothing if it was not there. -/
theorem entries_persist {path : Path} {disk disk' : Disk} {sessions : List Session} {start : Keyed Value}
    (hstart : contents? disk path = some start) (hwhole : ∀ m ∈ start, m.2.Whole)
    (hrun : runAll path disk sessions = .ok disk') :
    (∀ key vs, lastSaved sessions key = some vs → ∃ store, load disk' path key = .ok store ∧
      store.entries = vs.entries ∧ ∀ name, store.entries.find? name = vs.get? name) ∧
    ∃ members : Keyed Value, contents? disk' path = some members ∧ members.Ascending ∧
      (∀ key vs, lastSaved sessions key = some vs → members.find? key = some vs.toJson.sorted) ∧
      ∀ key, lastSaved sessions key = none → members.find? key = start.find? key := by
  have hs := JsonFileStore.storable_of_contents? hstart hwhole
  obtain ⟨members, hmembers, hs', hfind⟩ := contents?_runAll hstart hs hrun
  refine ⟨?_, members, hmembers, hs'.ascending, ?_, ?_⟩
  · intro key vs hlast
    have hrecords : members.find? key = some vs.toJson.sorted := by
      rw [hfind, hlast]
      rfl
    have hentries : JsonFileStore.entriesOf? (members.find? key) = some vs.entries := by
      rw [hrecords, JsonFileStore.entriesOf?_toJson]
    exact ⟨_, JsonFileStore.load_eq_ok_iff.2 ⟨members, vs.entries, hmembers, hentries, rfl⟩, rfl, vs.find?_entries⟩
  · intro key vs hlast
    rw [hfind, hlast]
    rfl
  · intro key hlast
    rw [hfind, hlast]
    rfl

/-- The second session passes on what the first one saved, under a key that needs an escape. -/
theorem entries_persist_escape :
    let start : Keyed Value := [("z", .number (.int (-5)))]
    let disk := diskWith ((Value.object start).text .indented)
    let sessions : List Session :=
      [⟨"\"", [.ofList [⟨"\\", .text, "\x00☃"⟩]]⟩, ⟨"b", [.ofList [⟨"m", .url, ""⟩], .empty]⟩]
    contents? disk plainPath = some start ∧
    ∃ disk', runAll plainPath disk sessions = .ok disk' ∧
      (∃ store, load disk' plainPath "\"" = .ok store ∧ store.entries = [("\\", ⟨"\\", .text, "\x00☃"⟩)]) ∧
      (∃ store, load disk' plainPath "b" = .ok store ∧ store.entries = []) ∧
      ∃ members : Keyed Value, contents? disk' plainPath = some members ∧
        members.find? "z" = some (.number (.int (-5))) ∧ members.find? "m" = none := by
  intro start disk sessions
  let saved : VariableSet := .ofList [⟨"\\", .text, "\x00☃"⟩]
  have hs : Storable start := JsonFileStore.storable_nil.insert "z" (.number ⟨by decide, by decide⟩) rfl (by decide)
  have hstart : contents? disk plainPath = some start := hs.contents?_of_read (JsonFileStore.read_diskWith _)
  have hmiddle := (hs.insert_toJson "\"" saved).contents?_of_read (JsonFileStore.read_diskWith _)
  have hfirst : run plainPath disk ⟨"\"", [saved]⟩ = .ok (diskWith _) :=
    (run_of_load (JsonFileStore.load_eq_ok_iff.2 ⟨start, [], hstart, by cbv, rfl⟩)).trans
      (JsonFileStore.saveAll_cons_of_save (JsonFileStore.save_diskWith _ _ saved rfl) [])
  have hsecond : run plainPath (diskWith _) ⟨"b", [.ofList [⟨"m", .url, ""⟩], .empty]⟩ = .ok (diskWith _) :=
    (run_of_load (JsonFileStore.load_eq_ok_iff.2 ⟨_, [], hmiddle, by cbv, rfl⟩)).trans
      ((JsonFileStore.saveAll_cons_of_save (JsonFileStore.save_diskWith _ _ _ rfl) _).trans
        (JsonFileStore.saveAll_cons_of_save (JsonFileStore.save_diskWith _ _ _ rfl) []))
  have hrun := (runAll_cons_of_run hfirst _).trans (runAll_cons_of_run hsecond [])
  obtain ⟨hload, members, hmembers, -, -, hothers⟩ := entries_persist hstart hs.whole hrun
  obtain ⟨store, hstore, hentries, -⟩ := hload "\"" saved (by cbv)
  obtain ⟨store', hstore', hentries', -⟩ := hload "b" .empty (by cbv)
  refine ⟨hstart, _, hrun, ⟨store, hstore, ?_⟩, ⟨store', hstore', ?_⟩, members, hmembers, ?_, ?_⟩
  · rw [hentries]
    cbv
  · rw [hentries']
    cbv
  · rw [hothers "z" (by cbv)]
    cbv
  · rw [hothers "m" (by cbv)]
    cbv

end Session

end TypedTemplates
