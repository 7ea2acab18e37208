import TypedTemplates.Command.Render
import TypedTemplates.Proofs.Engine.Backends
import TypedTemplates.Proofs.Store.Failing
import TypedTemplates.Proofs.Template.Composition

/-!
# What rendering does

A run of `render` begins by saving the variables of its template, and saves them again with every assignment. As long as
the saves succeed, the file holds the variables and the output is the template with these values (`Engine.Saved`).
Changes are made in order (`Rendering.Advanced`), up to one that cannot be saved (`Rendering.Stopped`). If all of them
can be saved (`Engine.SavesAll`), each variable ends up with the value of the last assignment to its name
(`VariableSet.value?_assignAll`). What ends before the first save leaves the disk alone.
-/

namespace TypedTemplates

open Template (Declaration declarations seeded)

/-! ### Assignments to a set -/

/-- The value of the last assignment to a name. -/
def lastAssigned (assignments : List Assignment) (name : String) : Option String :=
  ((assignments.filter fun a => a.name = name).getLast?).map (·.value)

theorem lastAssigned_cons (a : Assignment) (rest : List Assignment) (name : String) :
    lastAssigned (a :: rest) name = (lastAssigned rest name).or (if a.name = name then some a.value else none) := by
  unfold lastAssigned
  by_cases h : a.name = name
  · rw [List.filter_cons_of_pos (by simpa using h), List.getLast?_cons, if_pos h]
    cases (rest.filter fun a => a.name = name).getLast? <;> rfl
  · rw [List.filter_cons_of_neg (by simpa using h), if_neg h, Option.or_none]

namespace VariableSet

/-- The set after the assignments, one after the other. -/
def assignAll (s : VariableSet) (assignments : List Assignment) : VariableSet :=
  assignments.foldl (fun s a => s.mapValue a.name a.value) s

theorem assignAll_append (s : VariableSet) (as bs : List Assignment) :
    s.assignAll (as ++ bs) = (s.assignAll as).assignAll bs :=
  List.foldl_append

theorem names_assignAll (s : VariableSet) (assignments : List Assignment) :
    (s.assignAll assignments).names = s.names := by
  induction assignments generalizing s with
  | nil => rfl
  | cons a rest ih => rw [assignAll, List.foldl_cons, ← assignAll, ih, names_mapValue]

/-- A variable has the value of the last assignment to its name, or else the one that it had. -/
theorem value?_assignAll (s : VariableSet) (assignments : List Assignment) (name : String) :
    (s.assignAll assignments).value? name =
      (s.value? name).map fun old => (lastAssigned assignments name).getD old := by
  induction assignments generalizing s with
  | nil => simp [assignAll, lastAssigned]
  | cons a rest ih =>
    rw [assignAll, List.foldl_cons, ← assignAll, ih, lastAssigned_cons]
    by_cases hmem : a.name ∈ s.names
    · rw [value?_mapValue a.value hmem]
      by_cases hn : name = a.name
      · obtain ⟨old, hold⟩ := mem_names_iff.1 hmem
        rw [if_pos hn, if_pos hn.symm, hn, hold]
        cases lastAssigned rest a.name <;> rfl
      · rw [if_neg hn, if_neg (Ne.symm hn), Option.or_none]
    · rw [mapValue_of_not_mem a.value hmem]
      by_cases hn : a.name = name
      · rw [value?_eq_none_iff.2 (hn ▸ hmem)]
        rfl
      · rw [if_neg hn, Option.or_none]

end VariableSet

/-- The value that a rendering gives to a name: that of the last assignment to it, else the one that was kept, else the
empty one. -/
def finalValue (assignments : List Assignment) (kept : String → Option String) (name : String) : String :=
  (lastAssigned assignments name).getD ((kept name).getD "")

theorem value?_assignAll_seeded (assignments : List Assignment) (kept : String → Option String)
    (ds : List Declaration) (name : String) :
    ((seeded kept ds).assignAll assignments).value? name =
      if name ∈ ds.map (·.name) then some (finalValue assignments kept name) else none := by
  rw [VariableSet.value?_assignAll, Template.value?_seeded]
  split <;> rfl

/-! ### The engine of a rendering -/

/-- The value that a store keeps under a name. -/
def JsonFileStore.value? (s : JsonFileStore) (name : String) : Option String :=
  (s.entries.find? name).map (·.value)

theorem JsonFileStore.value?_of_entries (path : Path) (key : String) (vs : VariableSet) (others : Keyed Json.Value) :
    value? ⟨path, key, vs.entries, others⟩ = vs.value? := by
  funext name
  rw [value?, vs.find?_entries, VariableSet.value?]

namespace Engine

open Command Template

/-- The engine edits the template over a store that was loaded as `s`: the file holds what saving the variables writes,
and the output is up to date. -/
structure Saved (s : JsonFileStore) (directory : Place) (template : String) (e : Engine StoreOnDisk) : Prop where
  store_eq : e.store.store = { s with entries := e.vars.entries }
  read_eq : e.store.disk.read s.path = .ok ((s.root e.vars).text .indented)
  workingDirectory_eq : e.store.disk.workingDirectory = directory
  error_eq : e.error = none
  output_eq : e.output = render template e.vars false
  template_eq : e.template = template

/-- Every save of the changes succeeds, one after the other. -/
def SavesAll {σ : Type} [VariableStore σ] : Engine σ → List Assignment → Prop
  | _, [] => True
  | e, a :: rest =>
    (∃ present, (e.setValue a.name a.value).1 = .ok present) ∧ (e.setValue a.name a.value).2.SavesAll rest

theorem SavesAll.of_append {σ : Type} [VariableStore σ] {e : Engine σ} {changes rest : List Assignment}
    (h : e.SavesAll (changes ++ rest)) : e.SavesAll changes := by
  induction changes generalizing e with
  | nil => trivial
  | cons a changes ih => exact ⟨h.1, ih h.2⟩

variable {s : JsonFileStore} {template : String}

theorem attach_eq_of_error {σ : Type} [VariableStore σ] (store : σ) {error : TemplateError}
    (h : declarations template = .error error) :
    attach store template = (.ok (), ⟨store, template, VariableSet.empty, some error, ""⟩) := by
  rw [attach, setTemplate_of_error _ h]
  rfl

theorem fst_attach {disk : Disk} {ds : List Declaration} (hd : declarations template = .ok ds) :
    (attach (StoreOnDisk.mk s disk) template).1 = (s.save disk (seeded s.value? ds)).1 := by
  have hattach : attach (StoreOnDisk.mk s disk) template = _ := setTemplate_of_ok _ hd
  rw [hattach]
  rfl

/-- If the first save succeeds, the engine begins with the values that are kept for the variables of its template. -/
theorem saved_attach {disk : Disk} {ds : List Declaration} (hd : declarations template = .ok ds)
    (hsave : (s.save disk (seeded s.value? ds)).1 = .ok ()) :
    let attached := (attach (StoreOnDisk.mk s disk) template).2
    attached.vars = seeded s.value? ds ∧ attached.Saved s disk.workingDirectory template := by
  have hattach : attach (StoreOnDisk.mk s disk) template = _ := setTemplate_of_ok _ hd
  obtain ⟨hstore, hread⟩ := JsonFileStore.save_of_ok hsave
  rw [hattach]
  exact ⟨rfl, {
    store_eq := hstore
    read_eq := hread
    workingDirectory_eq := s.workingDirectory_save disk _
    error_eq := rfl
    output_eq := rfl
    template_eq := rfl }⟩

theorem writable_attach {disk : Disk} {ds : List Declaration} (hd : declarations template = .ok ds)
    (hreliable : disk.Reliable) (hsave : (s.save disk (seeded s.value? ds)).1 = .ok ()) :
    (attach (StoreOnDisk.mk s disk) template).2.store.Writable := by
  have hattach : attach (StoreOnDisk.mk s disk) template = _ := setTemplate_of_ok _ hd
  rw [hattach]
  show Disk.Writable _ (s.save disk (seeded s.value? ds)).2.1.path
  rw [(JsonFileStore.save_of_ok hsave).1]
  exact JsonFileStore.writable_of_save hreliable hsave

theorem writesOrRefuses_attach {disk : Disk} {ds : List Declaration} (hd : declarations template = .ok ds)
    (hdisk : disk.WritesOrRefuses) : (attach (StoreOnDisk.mk s disk) template).2.store.disk.WritesOrRefuses := by
  have hattach : attach (StoreOnDisk.mk s disk) template = _ := setTemplate_of_ok _ hd
  rw [hattach]
  exact s.writesOrRefuses_save hdisk _

/-- Where nothing keeps the file from being written, all changes can be saved. -/
theorem savesAll_of_writable {e : Engine StoreOnDisk} (h : e.store.Writable) (changes : List Assignment) :
    e.SavesAll changes := by
  induction changes generalizing e with
  | nil => trivial
  | cons a rest ih =>
    by_cases hn : a.name ∈ e.vars.names
    · obtain ⟨hsave, hwritable⟩ := h.save (e.vars.mapValue a.name a.value)
      rw [SavesAll, setValue_of_mem _ _ hn, hsave]
      exact ⟨⟨true, rfl⟩, ih hwritable⟩
    · rw [SavesAll, setValue_of_not_mem _ _ hn]
      exact ⟨⟨false, rfl⟩, ih h⟩

theorem Saved.setValue_of_ok {e : Engine StoreOnDisk} {directory : Place} (h : e.Saved s directory template)
    {name : String} (value : String) (hn : name ∈ e.vars.names)
    (hsave : (VariableStore.save e.store (e.vars.mapValue name value)).1 = .ok ()) :
    (e.setValue name value).2.Saved s directory template := by
  obtain ⟨hstore, hread⟩ := JsonFileStore.save_of_ok hsave
  rw [h.store_eq] at hstore hread
  rw [setValue_of_mem e value hn]
  exact {
    store_eq := by rw [StoreOnDisk.save_eq, h.store_eq, hstore]
    read_eq := by rw [StoreOnDisk.save_eq, h.store_eq]; exact hread
    workingDirectory_eq := (e.store.store.workingDirectory_save _ _).trans h.workingDirectory_eq
    error_eq := h.error_eq
    output_eq := by rw [h.error_eq, h.template_eq]; rfl
    template_eq := h.template_eq }

end Engine

/-- What the file of a store holds when the variables had been saved and then another save has failed: what the first of
the saves has written or, if the write of the second one can be cut, the beginning of what that was to write. -/
def JsonFileStore.Leaves (s : JsonFileStore) (cuts : Prop) (saved next : VariableSet) (held : Option Content) : Prop :=
  held = some (.text ((s.root saved).text .indented)) ∨
    cuts ∧ ∃ room < ((s.root next).text .indented).utf8ByteSize,
      held = some (.beginning ((s.root next).text .indented) room)

theorem Engine.Saved.leaves {s : JsonFileStore} {directory : Place} {template : String} {e : Engine StoreOnDisk}
    (h : e.Saved s directory template) {next : VariableSet} {error : StoreError}
    (hsave : (VariableStore.save e.store next).1 = .error error) :
    s.Leaves (¬ e.store.disk.WritesOrRefuses) e.vars next ((VariableStore.save e.store next).2.disk.file? s.path) := by
  have hfiles := JsonFileStore.file?_save_of_error hsave
  rw [h.store_eq] at hfiles
  rw [StoreOnDisk.save_eq, h.store_eq]
  refine hfiles.imp_left fun hsame => ?_
  rw [hsame, Disk.file?_of_read h.read_eq]

namespace Command

/-- What is said of an assignment that no variable has the name of. -/
def unknownNotice (a : Assignment) : String :=
  "warning: template has no variable '" ++ a.name ++ "'"

namespace Rendering

variable {s : JsonFileStore} {directory : Place} {template : String} {r r' : Rendering} {changes : List Assignment}

/-! ### Changes -/

/-- The changes have been made and saved. -/
structure Advanced (s : JsonFileStore) (directory : Place) (template : String) (r : Rendering)
    (changes : List Assignment) (r' : Rendering) : Prop where
  saved : r'.engine.Saved s directory template
  vars_eq : r'.engine.vars = r.engine.vars.assignAll changes
  savesAll_iff : ∀ rest, r.engine.SavesAll (changes ++ rest) ↔ r'.engine.SavesAll rest
  writesOrRefuses : r.disk.WritesOrRefuses → r'.disk.WritesOrRefuses

/-- One of the changes could not be saved. Those before it have been made. -/
structure Stopped (s : JsonFileStore) (directory : Place) (r : Rendering) (changes : List Assignment) (r' : Rendering) :
    Prop where
  workingDirectory_eq : r'.disk.workingDirectory = directory
  exists_leaves : ∃ done a, done ++ [a] <+: changes ∧ r.engine.SavesAll done ∧ ¬ r.engine.SavesAll (done ++ [a]) ∧
    s.Leaves (¬ r.disk.WritesOrRefuses) (r.engine.vars.assignAll done) (r.engine.vars.assignAll (done ++ [a]))
      (r'.disk.file? s.path)

theorem Advanced.refl (h : r.engine.Saved s directory template) : Advanced s directory template r [] r :=
  ⟨h, rfl, fun _ => Iff.rfl, id⟩

/-- What does not concern the engine makes no difference. -/
theorem Advanced.of_engine_eq {r₁ : Rendering} (h : Advanced s directory template r changes r₁)
    (hengine : r'.engine = r₁.engine) : Advanced s directory template r changes r' where
  saved := hengine ▸ h.saved
  vars_eq := hengine ▸ h.vars_eq
  savesAll_iff := hengine ▸ h.savesAll_iff
  writesOrRefuses := by
    rw [Rendering.disk, Rendering.disk, hengine]
    exact h.writesOrRefuses

theorem Advanced.append {r₁ : Rendering} {rest : List Assignment} (h : Advanced s directory template r changes r₁)
    (hrest : Advanced s directory template r₁ rest r') : Advanced s directory template r (changes ++ rest) r' where
  saved := hrest.saved
  vars_eq := by rw [hrest.vars_eq, h.vars_eq, VariableSet.assignAll_append]
  savesAll_iff more := by rw [List.append_assoc, h.savesAll_iff, hrest.savesAll_iff]
  writesOrRefuses hdisk := hrest.writesOrRefuses (h.writesOrRefuses hdisk)

theorem Stopped.append (h : Stopped s directory r changes r') (rest : List Assignment) :
    Stopped s directory r (changes ++ rest) r' where
  workingDirectory_eq := h.workingDirectory_eq
  exists_leaves := by
    obtain ⟨done, a, hbegins, hends⟩ := h.exists_leaves
    exact ⟨done, a, hbegins.trans (List.prefix_append changes rest), hends⟩

theorem Advanced.stopped_append {r₁ : Rendering} {rest : List Assignment}
    (h : Advanced s directory template r changes r₁) (hrest : Stopped s directory r₁ rest r') :
    Stopped s directory r (changes ++ rest) r' where
  workingDirectory_eq := hrest.workingDirectory_eq
  exists_leaves := by
    obtain ⟨done, a, hbegins, hsaved, hstops, hleaves⟩ := hrest.exists_leaves
    rw [← h.savesAll_iff] at hsaved hstops
    rw [← List.append_assoc] at hstops
    refine ⟨changes ++ done, a, ?_, hsaved, hstops, ?_⟩
    · rw [List.append_assoc]
      exact (List.prefix_append_right_inj changes).2 hbegins
    · rw [h.vars_eq, ← VariableSet.assignAll_append, ← VariableSet.assignAll_append, ← List.append_assoc] at hleaves
      exact hleaves.imp_right fun hcut => ⟨fun hdisk => hcut.1 (h.writesOrRefuses hdisk), hcut.2⟩

theorem Stopped.not_savesAll (h : Stopped s directory r changes r') (rest : List Assignment) :
    ¬ r.engine.SavesAll (changes ++ rest) := by
  obtain ⟨done, a, ⟨more, rfl⟩, -, hstops, -⟩ := h.exists_leaves
  intro hsaves
  rw [List.append_assoc] at hsaves
  exact hstops hsaves.of_append

/-- A change is made and saved, and answered by whether there is a variable of the name, or it stops there. -/
theorem change_cases (h : r.engine.Saved s directory template) (a : Assignment) :
    (∃ r', r.change a.name a.value = (.ok (r.engine.vars.contains a.name), r') ∧
      Advanced s directory template r [a] r' ∧ r'.notices = r.notices) ∨
      ∃ error r', r.change a.name a.value = (.error error, r') ∧ Stopped s directory r [a] r' := by
  by_cases hn : a.name ∈ r.engine.vars.names
  · have hset := Engine.setValue_of_mem r.engine a.value hn
    cases hsave : (VariableStore.save r.engine.store (r.engine.vars.mapValue a.name a.value)).1 with
    | ok u =>
      have hanswer : (r.change a.name a.value).1 = .ok (r.engine.vars.contains a.name) := by
        show (r.engine.setValue a.name a.value).1 = _
        rw [hset, hsave, VariableSet.contains_iff.2 hn]
        rfl
      refine .inl ⟨_, Prod.ext hanswer rfl, ⟨h.setValue_of_ok a.value hn hsave, ?_,
        fun rest => ⟨fun hsaves => hsaves.2, fun hsaves => ⟨⟨_, hanswer⟩, hsaves⟩⟩, fun hdisk => ?_⟩, rfl⟩
      · show (r.engine.setValue a.name a.value).2.vars = _
        rw [hset]
        rfl
      · show (r.engine.setValue a.name a.value).2.store.disk.WritesOrRefuses
        rw [hset]
        exact r.engine.store.store.writesOrRefuses_save hdisk _
    | error error =>
      have hanswer : (r.engine.setValue a.name a.value).1 = .error error := by
        rw [hset, hsave]
        rfl
      refine .inr ⟨error, _, Prod.ext hanswer rfl, ?_, [], a, List.prefix_rfl, trivial, ?_, ?_⟩
      · show (r.engine.setValue a.name a.value).2.store.disk.workingDirectory = _
        rw [hset]
        exact (r.engine.store.store.workingDirectory_save _ _).trans h.workingDirectory_eq
      · rintro ⟨⟨present, hok⟩, -⟩
        rw [hanswer] at hok
        cases hok
      · show s.Leaves _ _ _ ((r.engine.setValue a.name a.value).2.store.disk.file? s.path)
        rw [hset]
        exact h.leaves hsave
  · have hset : r.engine.setValue a.name a.value = (.ok false, r.engine) := Engine.setValue_of_not_mem _ _ hn
    have hanswer : (r.change a.name a.value).1 = .ok (r.engine.vars.contains a.name) := by
      show (r.engine.setValue a.name a.value).1 = _
      rw [hset, VariableSet.contains_eq_false_iff.2 hn]
    have hengine : (r.change a.name a.value).2.engine = r.engine := congrArg Prod.snd hset
    refine .inl ⟨_, Prod.ext hanswer rfl, ⟨by rwa [hengine], ?_,
      fun rest => ⟨fun hsaves => hsaves.2, fun hsaves => ⟨⟨_, hanswer⟩, hsaves⟩⟩, ?_⟩, rfl⟩
    · rw [hengine, VariableSet.assignAll, List.foldl_cons, VariableSet.mapValue_of_not_mem _ hn]
      rfl
    · rw [Rendering.disk, Rendering.disk, hengine]
      exact id

/-! ### Assignments -/

theorem assign_cases (h : r.engine.Saved s directory template) (a : Assignment) :
    (∃ r', r.assign a = (.ok (), r') ∧ Advanced s directory template r [a] r' ∧
      r'.notices = r.notices ++ if a.name ∈ r.engine.vars.names then [] else [unknownNotice a]) ∨
      ∃ error r', r.assign a = (.error error, r') ∧ Stopped s directory r [a] r' := by
  rcases change_cases h a with ⟨changed, hchange, hadvanced, hnotices⟩ | ⟨error, left, hchange, hstopped⟩
  · by_cases hn : a.name ∈ r.engine.vars.names
    · rw [VariableSet.contains_iff.2 hn] at hchange
      refine .inl ⟨changed.logged ("Set " ++ a.name ++ " from --var"), by simp only [assign, hchange],
        hadvanced.of_engine_eq rfl, ?_⟩
      rw [if_pos hn, List.append_nil]
      exact hnotices
    · rw [VariableSet.contains_eq_false_iff.2 hn] at hchange
      have hassign : r.assign a = (.ok (), { changed with notices := changed.notices ++ [unknownNotice a] }) := by
        rw [assign, hchange]
        rfl
      exact .inl ⟨_, hassign, hadvanced.of_engine_eq rfl, by rw [if_neg hn, hnotices]⟩
  · exact .inr ⟨error, left, by simp only [assign, hchange], hstopped⟩

/-- Assignments are made in order, and there is a warning for each that no variable has the name of, unless one of them
cannot be saved. -/
theorem assignAll_cases (h : r.engine.Saved s directory template) (assignments : List Assignment) :
    (∃ r', r.assignAll assignments = (.ok (), r') ∧ Advanced s directory template r assignments r' ∧
      r'.notices = r.notices ++
        (assignments.filter fun a => a.name ∉ r.engine.vars.names).map unknownNotice) ∨
      ∃ error r', r.assignAll assignments = (.error error, r') ∧ Stopped s directory r assignments r' := by
  induction assignments generalizing r with
  | nil => exact .inl ⟨r, rfl, .refl h, by simp⟩
  | cons a rest ih =>
    rcases assign_cases h a with ⟨r₁, hassign, hadvanced, hnotices⟩ | ⟨error, left, hassign, hstopped⟩
    · rcases ih hadvanced.saved with ⟨r₂, hrest, hadvanced₂, hnotices₂⟩ | ⟨error, left, hrest, hstopped⟩
      · refine .inl ⟨r₂, by simp only [assignAll, hassign, hrest], hadvanced.append hadvanced₂, ?_⟩
        have hnames : r₁.engine.vars.names = r.engine.vars.names := by
          rw [hadvanced.vars_eq, VariableSet.names_assignAll]
        rw [hnotices₂, hnotices, hnames]
        by_cases hn : a.name ∈ r.engine.vars.names <;> simp [hn]
      · exact .inr ⟨error, left, by simp only [assignAll, hassign, hrest], hadvanced.stopped_append hstopped⟩
    · exact .inr ⟨error, left, by simp only [assignAll, hassign], hstopped.append rest⟩

end Rendering

variable {disk : Disk} {settings : Settings} {file : Path} (assignments : List Assignment) (asJson : Bool)

theorem prepare_eq_ok_iff {template : String} {s : JsonFileStore} :
    prepare disk settings file = .ok (template, s) ↔
      disk.read file = .ok template ∧ JsonFileStore.load disk settings.storePath settings.storeKey = .ok s := by
  unfold prepare
  cases disk.read file with
  | error cause => simp
  | ok text =>
    cases JsonFileStore.load disk settings.storePath settings.storeKey with
    | error e => simp
    | ok store => simp

theorem ne_interrupted_of_prepare {f : Failure} (h : prepare disk settings file = .error f) : f ≠ .interrupted := by
  rintro rfl
  unfold prepare at h
  split at h
  · cases h
  · split at h <;> cases h

theorem exitCode_of_ne_interrupted {f : Failure} (h : f ≠ .interrupted) : f.exitCode = 1 := by
  cases f with
  | interrupted => exact absurd rfl h
  | _ => rfl

/-- The text of the file is a template with these declarations, the store can be loaded, and the first save of it
succeeds. -/
structure Ready (disk : Disk) (settings : Settings) (file : Path) (template : String) (s : JsonFileStore)
    (ds : List Declaration) : Prop where
  prepare_eq : prepare disk settings file = .ok (template, s)
  declarations_eq : declarations template = .ok ds
  save_ok : (s.save disk (seeded s.value? ds)).1 = .ok ()

/-- Every save of a rendering succeeds: the one with which it begins, and those of the changes. -/
structure SavesSucceed (disk : Disk) (s : JsonFileStore) (template : String) (changes : List Assignment) : Prop where
  first : (Engine.attach (StoreOnDisk.mk s disk) template).1 = .ok ()
  rest : (Engine.attach (StoreOnDisk.mk s disk) template).2.SavesAll changes

section Ready

variable {assignments asJson} {template : String} {s : JsonFileStore} {ds : List Declaration}

theorem SavesSucceed.ready {changes : List Assignment} (h : SavesSucceed disk s template changes)
    (hprepare : prepare disk settings file = .ok (template, s)) (hd : declarations template = .ok ds) :
    Ready disk settings file template s ds :=
  ⟨hprepare, hd, (Engine.fst_attach hd).symm.trans h.first⟩

theorem SavesSucceed.of_isPrefix {changes all : List Assignment} (h : SavesSucceed disk s template all)
    (hbegins : changes <+: all) : SavesSucceed disk s template changes := by
  obtain ⟨rest, rfl⟩ := hbegins
  exact ⟨h.first, h.rest.of_append⟩

/-- Where nothing keeps the file from being written after the first save, all saves succeed. -/
theorem savesSucceed_of_reliable (hd : declarations template = .ok ds) (hreliable : disk.Reliable)
    (hsave : (s.save disk (seeded s.value? ds)).1 = .ok ()) (changes : List Assignment) :
    SavesSucceed disk s template changes :=
  ⟨(Engine.fst_attach hd).trans hsave, Engine.savesAll_of_writable (Engine.writable_attach hd hreliable hsave) changes⟩

theorem Ready.fst_beginRendering (h : Ready disk settings file template s ds) :
    (beginRendering disk template s).1 = .ok () :=
  (Engine.fst_attach h.declarations_eq).trans h.save_ok

theorem Ready.vars_beginRendering (h : Ready disk settings file template s ds) :
    (beginRendering disk template s).2.engine.vars = seeded s.value? ds :=
  (Engine.saved_attach h.declarations_eq h.save_ok).1

variable (assignments asJson)

/-- The variables are saved with the values that are kept for them, and then the assignments are made, unless one of them
cannot be saved. -/
theorem Ready.untilPrompts_cases (h : Ready disk settings file template s ds) :
    let begun := (beginRendering disk template s).2
    (∃ r, untilPrompts disk settings file assignments asJson = .ok r ∧
      Rendering.Advanced s disk.workingDirectory template begun assignments r ∧
      r.notices = (assignments.filter fun a => a.name ∉ (seeded s.value? ds).names).map unknownNotice) ∨
      ∃ error r, untilPrompts disk settings file assignments asJson = .error (r.failed (.store error)) ∧
        Rendering.Stopped s disk.workingDirectory begun assignments r := by
  obtain ⟨-, hsaved⟩ := Engine.saved_attach h.declarations_eq h.save_ok
  intro begun
  have hbegin : beginRendering disk template s = (.ok (), begun) := Prod.ext h.fst_beginRendering rfl
  have hsaved : begun.engine.Saved s disk.workingDirectory template := hsaved
  rw [untilPrompts, h.prepare_eq]
  simp only
  rw [hbegin]
  simp only [hsaved.error_eq]
  rcases Rendering.assignAll_cases hsaved assignments with
    ⟨r, hassign, hadvanced, hnotices⟩ | ⟨error, r, hassign, hstopped⟩
  · exact .inl ⟨r, by rw [hassign], hadvanced, by rw [hnotices, h.vars_beginRendering]; rfl⟩
  · exact .inr ⟨error, r, by rw [hassign], hstopped⟩

/-- If the assignments can be saved, the template is rendered up to the prompts. -/
theorem Ready.untilPrompts_eq (h : Ready disk settings file template s ds) {rest : List Assignment}
    (hsaves : SavesSucceed disk s template (assignments ++ rest)) :
    ∃ r, untilPrompts disk settings file assignments asJson = .ok r ∧
      r.engine.Saved s disk.workingDirectory template ∧
      r.engine.vars = (seeded s.value? ds).assignAll assignments ∧
      r.notices = (assignments.filter fun a => a.name ∉ (seeded s.value? ds).names).map unknownNotice := by
  rcases h.untilPrompts_cases assignments asJson with ⟨r, huntil, hadvanced, hnotices⟩ | ⟨error, r, -, hstopped⟩
  · exact ⟨r, huntil, hadvanced.saved, by rw [hadvanced.vars_eq, h.vars_beginRendering], hnotices⟩
  · exact absurd hsaves.rest (hstopped.not_savesAll rest)

end Ready

theorem untilPrompts_of_prepare_error {f : Failure} (h : prepare disk settings file = .error f) :
    untilPrompts disk settings file assignments asJson = .error (.failed .render f [] [] disk) := by
  simp only [untilPrompts, h]

/-- A text that is no template ends a rendering before anything is saved. -/
theorem untilPrompts_of_error {template : String} {s : JsonFileStore} {error : TemplateError}
    (hprepare : prepare disk settings file = .ok (template, s)) (hd : declarations template = .error error) :
    ∃ r : Rendering, untilPrompts disk settings file assignments asJson = .error (r.malformed file error asJson) ∧
      r.disk = disk := by
  have hattach := Engine.attach_eq_of_error (StoreOnDisk.mk s disk) hd
  refine ⟨(beginRendering disk template s).2, ?_, by rw [Rendering.disk, beginRendering, hattach]⟩
  simp only [untilPrompts, hprepare, beginRendering, hattach]

/-- A rendering that saves nothing fails, and leaves the disk alone. -/
theorem untilPrompts_of_not_declarations
    (h : ∀ template s ds, prepare disk settings file = .ok (template, s) → declarations template ≠ .ok ds) :
    ∃ o, untilPrompts disk settings file assignments asJson = .error o ∧ o.exitCode = 1 ∧ o.disk = disk := by
  cases hprepare : prepare disk settings file with
  | error f =>
    have hexit := exitCode_of_ne_interrupted (ne_interrupted_of_prepare hprepare)
    exact ⟨_, untilPrompts_of_prepare_error assignments asJson hprepare, hexit, rfl⟩
  | ok prepared =>
    cases hd : declarations prepared.1 with
    | ok ds => exact absurd hd (h prepared.1 prepared.2 ds hprepare)
    | error error =>
      obtain ⟨r, huntil, hdisk⟩ := untilPrompts_of_error assignments asJson hprepare hd
      refine ⟨_, huntil, ?_⟩
      cases asJson with
      | true => exact ⟨rfl, hdisk⟩
      | false => exact ⟨rfl, hdisk⟩

/-! ### How a rendering ends -/

section Ends

variable {assignments asJson} {terminal : Terminal} {batch : Bool}

/-- What ends a rendering before the prompts is all that comes of it. -/
theorem render_of_untilPrompts_error {o : Outcome}
    (huntil : untilPrompts disk settings file assignments asJson = .error o) :
    render disk terminal settings file assignments batch asJson = o := by
  simp only [render, huntil]

variable {begun r : Rendering} (huntil : untilPrompts disk settings file assignments asJson = .ok begun)
include huntil

theorem render_of_prompt (hprompt : begun.prompt (if batch then .absent else terminal) = (.ok (), r)) :
    render disk terminal settings file assignments batch asJson = r.finished asJson := by
  simp only [render, huntil, hprompt]

theorem render_of_prompt_error {f : Failure}
    (hprompt : begun.prompt (if batch then .absent else terminal) = (.error f, r)) :
    render disk terminal settings file assignments batch asJson = r.failed f := by
  simp only [render, huntil, hprompt]

end Ends

theorem disk_render_of_not_declarations (terminal : Terminal) (batch : Bool)
    (h : ∀ template s ds, prepare disk settings file = .ok (template, s) → declarations template ≠ .ok ds) :
    (render disk terminal settings file assignments batch asJson).exitCode = 1 ∧
      (render disk terminal settings file assignments batch asJson).disk = disk := by
  obtain ⟨o, huntil, hexit, hdisk⟩ := untilPrompts_of_not_declarations assignments asJson h
  rw [render_of_untilPrompts_error huntil]
  exact ⟨hexit, hdisk⟩

/-! ### Without a terminal -/

/-- Without a terminal a rendering is finished when all assignments have been made. -/
theorem Ready.exists_finished {template : String} {s : JsonFileStore} {ds : List Declaration}
    (h : Ready disk settings file template s ds) (hsaves : SavesSucceed disk s template assignments) (batch : Bool) :
    ∃ r : Rendering, render disk .absent settings file assignments batch asJson = r.finished asJson ∧
      r.engine.Saved s disk.workingDirectory template ∧
      r.engine.vars = (seeded s.value? ds).assignAll assignments ∧
      r.notices = (assignments.filter fun a => a.name ∉ (seeded s.value? ds).names).map unknownNotice := by
  obtain ⟨r, huntil, hsaved, hvars, hnotices⟩ :=
    h.untilPrompts_eq assignments asJson (by rwa [List.append_nil])
  have hprompt : r.prompt (if batch then .absent else .absent) = (.ok (), r.logged "Prompted for: []") := by
    rw [ite_self]
    rfl
  exact ⟨r.logged "Prompted for: []", render_of_prompt huntil hprompt, hsaved, hvars, hnotices⟩

/-- Without a terminal a well formed template is rendered with the values that are kept, changed by the assignments, and
these are the values that are kept afterwards. -/
theorem Ready.render_eq {template : String} {s : JsonFileStore} {ds : List Declaration}
    (h : Ready disk settings file template s ds) (hsaves : SavesSucceed disk s template assignments) (batch : Bool) :
    let vars := (seeded s.value? ds).assignAll assignments
    let o := render disk .absent settings file assignments batch asJson
    o.exitCode = 0 ∧ (asJson = false → o.output = Template.render template vars false) ∧
      o.notices = (assignments.filter fun a => a.name ∉ vars.names).map unknownNotice ∧
      o.disk.workingDirectory = disk.workingDirectory ∧
      o.disk.read s.path = .ok ((s.root vars).text .indented) := by
  obtain ⟨r, hrender, hsaved, hvars, hnotices⟩ := h.exists_finished assignments asJson hsaves batch
  intro vars o
  have hrender : o = r.finished asJson := hrender
  rw [hrender]
  refine ⟨rfl, ?_, ?_, hsaved.workingDirectory_eq, ?_⟩
  · rintro rfl
    show r.engine.output = _
    rw [hsaved.output_eq, hvars]
  · show r.notices = _
    rw [VariableSet.names_assignAll, hnotices]
  · show r.engine.store.disk.read s.path = _
    rw [hsaved.read_eq, hvars]

/-- What comes of rendering a template that declares these names, over a store that keeps these values: the template is
written with the final values in place of its placeholders, each assignment to a name that is not declared gives a
warning, and the final values of the declared names are kept afterwards, with what the store has under other keys. So
what is written is the template rendered with what is now kept. -/
structure Rendered (kept : JsonFileStore) (template : String) (names : List String) (assignments : List Assignment)
    (asJson : Bool) (o : Outcome) : Prop where
  exitCode_eq : o.exitCode = 0
  output_eq : asJson = false → o.output = String.ofList ((Template.Layout.of template.toList).fill fun m =>
    (finalValue assignments kept.value? m.varName).toList)
  notices_eq : o.notices = (assignments.filter fun a => a.name ∉ names).map unknownNotice
  exists_stored : ∃ stored vars,
    JsonFileStore.load o.disk kept.path kept.key = .ok stored ∧ stored.others = kept.others ∧
    (∀ name, stored.value? name = if name ∈ names then some (finalValue assignments kept.value? name) else none) ∧
    Template.parse template stored.value? = .ok vars ∧ (asJson = false → o.output = Template.render template vars false)

/-- Nothing but the file of the store counts on the disk. -/
theorem Rendered.of_look?_eq {kept : JsonFileStore} {template : String} {names : List String}
    {assignments : List Assignment} {asJson : Bool} {o : Outcome}
    (h : Rendered kept template names assignments asJson o) {disk : Disk}
    (hlook : disk.look? kept.path = o.disk.look? kept.path) :
    Rendered kept template names assignments asJson { o with disk := disk } where
  exitCode_eq := h.exitCode_eq
  output_eq := h.output_eq
  notices_eq := h.notices_eq
  exists_stored := by
    obtain ⟨stored, vars, hload, hrest⟩ := h.exists_stored
    exact ⟨stored, vars, (JsonFileStore.load_congr hlook kept.key).trans hload, hrest⟩

theorem Ready.rendered {template : String} {s : JsonFileStore} {ds : List Declaration}
    (h : Ready disk settings file template s ds) (hsaves : SavesSucceed disk s template assignments)
    (hs : StoreOnDisk.Settled ⟨s, disk⟩) (batch : Bool) :
    Rendered s template (seeded s.value? ds).names assignments asJson
      (render disk .absent settings file assignments batch asJson) := by
  obtain ⟨hexit, houtput, hnotices, -, hread⟩ := h.render_eq assignments asJson hsaves batch
  have hstored := hs.of_read hread
  let vars := (seeded s.value? ds).assignAll assignments
  have hvalue : ∀ name, vars.value? name =
      if name ∈ ds.map (·.name) then some (finalValue assignments s.value? name) else none :=
    value?_assignAll_seeded assignments s.value? ds
  have hkept : JsonFileStore.value? { s with entries := vars.entries } = vars.value? :=
    JsonFileStore.value?_of_entries _ _ vars _
  -- what is kept are the values of the variables, so they are found again
  have hagain : (seeded vars.value? ds).value? = vars.value? := by
    funext name
    rw [Template.value?_seeded, hvalue]
    split <;> rfl
  exact {
    exitCode_eq := hexit
    output_eq := by
      intro hjson
      refine (houtput hjson).trans (Template.render_eq_fill _ h.declarations_eq ?_)
      intro name hn
      rw [hvalue, if_pos hn]
    notices_eq := by rw [hnotices, VariableSet.names_assignAll]
    exists_stored := by
      refine ⟨_, seeded vars.value? ds, hstored.load_eq, rfl, ?_, ?_, ?_⟩
      · intro name
        rw [hkept, hvalue, Template.names_seeded]
        simp only [List.mem_eraseDups]
      · rw [hkept]
        exact Template.parse_eq_ok_iff.2 ⟨ds, h.declarations_eq, rfl⟩
      · intro hjson
        rw [houtput hjson, Template.render, Template.render, Template.fillIn_congr hagain] }

/-! ### The other subcommands -/

theorem disk_check (disk : Disk) (settings : Settings) (file : Path) : (check disk settings file).disk = disk := by
  unfold check
  split <;> rfl

theorem disk_vars (disk : Disk) (settings : Settings) (file : Path) (asJson : Bool) :
    (vars disk settings file asJson).disk = disk := by
  unfold vars
  split <;> rfl

end Command

end TypedTemplates
