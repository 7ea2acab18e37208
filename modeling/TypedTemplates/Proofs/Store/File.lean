import TypedTemplates.Proofs.Disk.Places
import TypedTemplates.Proofs.Json.RoundTrip
import TypedTemplates.Proofs.Template.Record
import TypedTemplates.Store.JsonFile

/-!
# What the file of a store holds

`contents?` is the object in a file, and a store is loaded from it (`load_eq_ok_iff`). A save leaves an object in
the file, with the variables under the key of the store and under every other key what was there when the store was
loaded (`contents?_save`).
-/

namespace TypedTemplates

open Json (Value)

namespace JsonFileStore

/-- The members of the object in a file. A file that is missing or blank has none. -/
def contents? (disk : Disk) (path : Path) : Option (Keyed Value) :=
  if disk.contains path then
    match disk.read path with
    | .error _ => none
    | .ok text =>
      if text.toList.all Text.isBlank then some []
      else
        match Value.ofText? text with
        | some (.object root) => some root
        | _ => none
  else some []

/-- A store is what the object in its file says: the entries stand under the key, all else is kept as it is. -/
theorem load_eq_ok_iff {disk : Disk} {path : Path} {key : String} {s : JsonFileStore} :
    load disk path key = .ok s ↔ ∃ (members : Keyed Value) (entries : Keyed Variable),
      contents? disk path = some members ∧ entriesOf? (members.find? key) = some entries ∧
      s = ⟨path, key, entries, members.erase key⟩ := by
  have hempty : (.ok ⟨path, key, [], []⟩ : Except StoreError JsonFileStore) = .ok s ↔
      ∃ (members : Keyed Value) (entries : Keyed Variable), some [] = some members ∧
        entriesOf? (members.find? key) = some entries ∧ s = ⟨path, key, entries, members.erase key⟩ := by
    constructor
    · intro h
      exact ⟨[], [], rfl, rfl, (Except.ok.inj h).symm⟩
    · rintro ⟨members, entries, hmembers, hentries, rfl⟩
      cases hmembers
      cases hentries
      rfl
  unfold load contents?
  by_cases hcontains : disk.contains path = true
  · rw [if_pos hcontains, if_pos hcontains]
    cases disk.read path with
    | error cause => simp
    | ok text =>
      by_cases hblank : text.toList.all Text.isBlank = true
      · simpa only [hblank, if_true] using hempty
      · simp only [hblank, Bool.false_eq_true, if_false, ofText?]
        cases Value.ofText? text with
        | none => simp
        | some v =>
          cases v with
          | object members =>
            cases hentries : entriesOf? (Keyed.find? key members) with
            | none => simp [hentries]
            | some entries => simp [hentries, eq_comm]
          | _ => simp
  · rw [if_neg hcontains, if_neg hcontains]
    exact hempty

theorem eq_of_load {disk : Disk} {path : Path} {key : String} {s : JsonFileStore} {members : Keyed Value}
    (hload : load disk path key = .ok s) (hmembers : contents? disk path = some members) :
    ∃ entries, s = ⟨path, key, entries, members.erase key⟩ := by
  obtain ⟨members', entries, hmembers', -, rfl⟩ := load_eq_ok_iff.1 hload
  rw [hmembers, Option.some.injEq] at hmembers'
  subst hmembers'
  exact ⟨entries, rfl⟩

theorem path_eq_of_load {disk : Disk} {path : Path} {key : String} {s : JsonFileStore}
    (h : load disk path key = .ok s) : s.path = path := by
  obtain ⟨members, entries, -, -, rfl⟩ := load_eq_ok_iff.1 h
  rfl

/-- What is loaded depends on nothing but what the path leads to. -/
theorem load_congr {disk disk' : Disk} {path : Path} (h : disk.look? path = disk'.look? path) (key : String) :
    load disk path key = load disk' path key := by
  rw [load, load, Disk.contains, Disk.contains, h, Disk.read_congr h]

/-! ### Objects that a file keeps -/

/-- Members that are read back as they are from the file to which they are written. -/
structure Storable (root : Keyed Value) : Prop where
  ascending : root.Ascending
  whole : ∀ m ∈ root, m.2.Whole
  sorted_eq : ∀ m ∈ root, m.2.sorted = m.2
  depth_lt : ∀ m ∈ root, m.2.depth < Json.maxDepth

theorem storable_nil : Storable [] :=
  ⟨List.Pairwise.nil, by simp, by simp, by simp⟩

theorem Storable.erase {root : Keyed Value} (h : Storable root) (key : String) : Storable (root.erase key) where
  ascending := h.ascending.erase key
  whole m hm := h.whole m (Keyed.mem_of_mem_erase hm)
  sorted_eq m hm := h.sorted_eq m (Keyed.mem_of_mem_erase hm)
  depth_lt m hm := h.depth_lt m (Keyed.mem_of_mem_erase hm)

theorem Storable.insert {root : Keyed Value} (h : Storable root) (key : String) {v : Value} (hwhole : v.Whole)
    (hsorted : v.sorted = v) (hdepth : v.depth < Json.maxDepth) : Storable (root.insert key v) where
  ascending := h.ascending.insert key v
  whole m hm := by
    rcases Keyed.mem_insert hm with rfl | hm
    · exact hwhole
    · exact h.whole m hm
  sorted_eq m hm := by
    rcases Keyed.mem_insert hm with rfl | hm
    · exact hsorted
    · exact h.sorted_eq m hm
  depth_lt m hm := by
    rcases Keyed.mem_insert hm with rfl | hm
    · exact hdepth
    · exact h.depth_lt m hm

/-- What is read from a file can be written to it, as far as its numbers are whole. -/
theorem storable_of_contents? {disk : Disk} {path : Path} {root : Keyed Value} (h : contents? disk path = some root)
    (hwhole : ∀ m ∈ root, m.2.Whole) : Storable root := by
  unfold contents? at h
  split at h
  · split at h
    · cases h
    · next text _ =>
      split at h
      · cases h
        exact storable_nil
      · split at h
        · next members hvalue =>
          rw [Option.some.injEq] at h
          subst h
          obtain ⟨hsorted, hdepth⟩ := Value.of_ofText? hvalue
          obtain ⟨hascending, hmembers⟩ := Value.of_sorted_object_eq hsorted
          refine ⟨hascending, hwhole, ?_, ?_⟩
          · intro m hm
            obtain ⟨v, hv⟩ := hmembers m hm
            rw [hv, v.sorted_sorted]
          · intro m hm
            have hless := Value.depth_object_le_iff.1 hdepth m hm
            exact Nat.lt_succ_of_le hless
        · cases h
  · cases h
    exact storable_nil

theorem contents?_of_read {disk : Disk} {path : Path} {text : String} {members : Keyed Value}
    (hread : disk.read path = .ok text) (hblank : text.toList.all Text.isBlank = false)
    (hvalue : Value.ofText? text = some (.object members)) : contents? disk path = some members := by
  unfold contents?
  rw [if_pos (Disk.contains_of_read hread), hread]
  simp only [hblank, Bool.false_eq_true, if_false, hvalue]

/-- An object is what the file holds to which its text was written. -/
theorem Storable.contents?_of_read {disk : Disk} {path : Path} {members : Keyed Value} (h : Storable members)
    (hread : disk.read path = .ok ((Value.object members).text .indented)) : contents? disk path = some members := by
  have hbrace : ((Value.object members).text .indented).toList.all Text.isBlank = false := by
    rw [Value.text, String.toList_ofList]
    cases members <;> rfl
  have hdepth : (Value.object members).depth ≤ Json.maxDepth :=
    Value.depth_object_le_iff.2 fun m hm => Nat.le_of_lt_succ (h.depth_lt m hm)
  have hvalue := Value.ofText?_text (.object h.whole) hdepth .indented
  rw [Value.sorted_object_eq h.ascending h.sorted_eq] at hvalue
  exact JsonFileStore.contents?_of_read hread hbrace hvalue

/-! ### The records of a set -/

theorem sorted_toJson (vs : VariableSet) :
    vs.toJson.sorted = .object (vs.entries.map fun p => (p.1, p.2.toJson)) := by
  rw [VariableSet.toJson, Value.sorted_object, VariableSet.entries, Keyed.map_ofList, Keyed.map_ofList, List.map_map,
    List.map_map]
  congr 2
  apply List.map_congr_left
  intro v _
  simp [v.sorted_toJson]

theorem depth_toJson_le (vs : VariableSet) : vs.toJson.depth ≤ 2 := by
  refine Value.depth_object_le_iff.2 ?_
  intro m hm
  obtain ⟨v, _, rfl⟩ := List.mem_map.1 hm
  exact Nat.le_of_eq v.depth_toJson

/-- The entries of a store are read back from the records of the set that was saved. -/
theorem entriesOf?_toJson (vs : VariableSet) : entriesOf? (some vs.toJson.sorted) = some vs.entries := by
  have h : ∀ entries : Keyed Variable, entriesOfMembers? (entries.map fun p => (p.1, p.2.toJson)) = some entries := by
    intro entries
    induction entries with
    | nil => rfl
    | cons p rest ih => rw [List.map_cons, entriesOfMembers?, Variable.ofJson?_toJson, ih]
  rw [sorted_toJson, entriesOf?, h]

/-! ### What a save leaves -/

/-- The disk stays as it is, or the directory above the path is made. -/
theorem makeParent_cases (disk : Disk) (path : Path) :
    makeParent disk path = (.ok (), disk) ∨ ∃ parent, path.parent? = some parent ∧ parent.text ≠ "" ∧
      makeParent disk path =
        ((disk.makeDirectories parent).1.mapError (.access parent), (disk.makeDirectories parent).2) := by
  unfold makeParent
  split
  · exact .inl rfl
  · next parent hparent =>
    split
    · exact .inl rfl
    · next hne =>
      refine .inr ⟨parent, hparent, hne, ?_⟩
      split
      · next hmade => rw [hmade]; rfl
      · next hmade => rw [hmade]; rfl

theorem save_of_ok {s : JsonFileStore} {disk : Disk} {vs : VariableSet} (h : (s.save disk vs).1 = .ok ()) :
    (s.save disk vs).2.1 = { s with entries := vs.entries } ∧
      (s.save disk vs).2.2.read s.path = .ok ((s.root vs).text .indented) := by
  unfold save at h ⊢
  split at h
  · cases h
  · next made hmade =>
    split at h
    · cases h
    · next written hwrite =>
      refine ⟨rfl, ?_⟩
      have hread := Disk.read_write (congrArg Prod.fst hwrite)
      rwa [hwrite] at hread

/-- Where the file can be written, every save succeeds, and so does the next one. -/
theorem save_of_writable (s : JsonFileStore) {disk : Disk} (h : disk.Writable s.path) (vs : VariableSet) :
    ∃ disk', s.save disk vs = (.ok (), { s with entries := vs.entries }, disk') ∧ disk'.Writable s.path := by
  obtain ⟨disk', hwrite, hwritable⟩ := h.write ((s.root vs).text .indented)
  have hparent : makeParent disk s.path = (.ok (), disk) := by
    rcases makeParent_cases disk s.path with hsame | ⟨parent, hparent, hne, hmade⟩
    · exact hsame
    · rw [hmade, h.makeDirectories hparent hne]
      rfl
  refine ⟨disk', ?_, hwritable⟩
  rw [save, hparent]
  simp only [hwrite]

theorem reliable_makeParent {disk : Disk} (h : disk.Reliable) (path : Path) : (makeParent disk path).2.Reliable := by
  rcases makeParent_cases disk path with hmade | ⟨parent, -, -, hmade⟩
  · rwa [hmade]
  · rw [hmade]
    exact h.makeDirectories parent

/-- Where a save has succeeded, the file can be written again, if there are no faults to come. -/
theorem writable_of_save {s : JsonFileStore} {disk : Disk} {vs : VariableSet} (hreliable : disk.Reliable)
    (h : (s.save disk vs).1 = .ok ()) : (s.save disk vs).2.2.Writable s.path := by
  unfold save at h ⊢
  have hmadeReliable := reliable_makeParent hreliable s.path
  rcases hmade : makeParent disk s.path with ⟨result, made⟩
  rw [hmade] at h hmadeReliable
  cases result with
  | error e => cases h
  | ok u =>
    have hparent : ∀ parent, s.path.parent? = some parent → parent.text ≠ "" →
        ∃ before : Disk, before.makeDirectories parent = (.ok (), made) := by
      intro parent hp hne
      simp only [makeParent, hp, hne, if_false] at hmade
      refine ⟨disk, ?_⟩
      rcases hmake : disk.makeDirectories parent with ⟨result, cleared⟩
      rw [hmake] at hmade
      cases result <;> cases hmade
      rfl
    cases hplace : made.target? s.path with
    | none => simp [Disk.write, hplace] at h
    | some place =>
      have hwritable := Disk.writable_of_target? hmadeReliable hplace hparent
      obtain ⟨disk', hwrite, hnext⟩ := hwritable.write ((s.root vs).text .indented)
      simp only [hwrite]
      exact hnext

/-- A save is the making of the directory and, if that goes well, the writing of the file. -/
theorem disk_save (s : JsonFileStore) (disk : Disk) (vs : VariableSet) :
    (s.save disk vs).2.2 = (makeParent disk s.path).2 ∨
      (s.save disk vs).2.2 = ((makeParent disk s.path).2.write s.path ((s.root vs).text .indented)).2 := by
  unfold save
  split
  · next hmade => exact .inl (by rw [hmade])
  · next hmade =>
    rw [hmade]
    split
    · next hwrite => exact .inr (by rw [hwrite])
    · next hwrite => exact .inr (by rw [hwrite])

theorem workingDirectory_makeParent (disk : Disk) (path : Path) :
    (makeParent disk path).2.workingDirectory = disk.workingDirectory := by
  rcases makeParent_cases disk path with hmade | ⟨parent, -, -, hmade⟩
  · rw [hmade]
  · rw [hmade]
    exact disk.workingDirectory_makeDirectories parent

theorem workingDirectory_save (s : JsonFileStore) (disk : Disk) (vs : VariableSet) :
    (s.save disk vs).2.2.workingDirectory = disk.workingDirectory := by
  have hmade := workingDirectory_makeParent disk s.path
  rcases s.disk_save disk vs with hsave | hsave
  · rw [hsave, hmade]
  · rw [hsave, Disk.workingDirectory_write, hmade]

/-- A save fails only because a directory or the file cannot be made. -/
theorem ofWriting_of_save {s : JsonFileStore} {disk : Disk} {vs : VariableSet} {e : StoreError}
    (h : (s.save disk vs).1 = .error e) : ∃ path cause, e = .access path cause ∧ cause.OfWriting := by
  unfold save at h
  split at h
  · next hmade =>
    cases h
    rcases makeParent_cases disk s.path with hsame | ⟨parent, -, -, hcases⟩
    · rw [hsame] at hmade
      cases hmade
    · rw [hcases] at hmade
      cases hresult : (disk.makeDirectories parent).1 with
      | ok u =>
        rw [hresult] at hmade
        cases hmade
      | error cause =>
        rw [hresult] at hmade
        cases hmade
        exact ⟨parent, cause, rfl, Disk.ofWriting_of_makeDirectories_error hresult⟩
  · split at h
    · next cause _ hwrite =>
      cases h
      exact ⟨s.path, cause, rfl, Disk.ofWriting_of_write_error (congrArg Prod.fst hwrite)⟩
    · cases h

theorem Storable.insert_toJson {members : Keyed Value} (h : Storable members) (key : String) (vs : VariableSet) :
    Storable (members.insert key vs.toJson.sorted) := by
  have hdepth : vs.toJson.sorted.depth ≤ 2 := Value.depth_sorted_le (depth_toJson_le vs)
  exact h.insert key vs.whole_toJson.sorted vs.toJson.sorted_sorted (Nat.lt_of_le_of_lt hdepth (by decide))

/-- The file holds the variables under the key of the store, and what the store kept under every other key. -/
theorem contents?_save {s : JsonFileStore} {disk : Disk} {vs : VariableSet} (hs : Storable s.others)
    (h : (s.save disk vs).1 = .ok ()) :
    contents? (s.save disk vs).2.2 s.path = some (s.others.insert s.key vs.toJson.sorted) :=
  (hs.insert_toJson s.key vs).contents?_of_read (save_of_ok h).2

/-- A store is loaded from the text that its save writes as the save leaves it. -/
theorem load_of_read {s : JsonFileStore} {disk : Disk} {vs : VariableSet} (hs : Storable s.others)
    (hkey : s.others.erase s.key = s.others) (hread : disk.read s.path = .ok ((s.root vs).text .indented)) :
    load disk s.path s.key = .ok { s with entries := vs.entries } := by
  refine load_eq_ok_iff.2 ⟨_, vs.entries, (hs.insert_toJson s.key vs).contents?_of_read hread, ?_, ?_⟩
  · rw [Keyed.find?_insert_self, entriesOf?_toJson]
  · rw [Keyed.erase_insert_self, hkey]

/-! ### A disk with one file -/

/-- The path of a file in the root directory. -/
def plainPath : Path := ⟨"v"⟩

/-- The disk on which there is only one file, holding the text. -/
def diskWith (text : String) : Disk := ⟨⟨[(["v"], .file (.text text))]⟩, []⟩

theorem read_diskWith (text : String) : (diskWith text).read plainPath = .ok text := rfl

/-- A file in the root directory can be written, if that is where relative paths start. -/
theorem writable_plainPath {disk : Disk} (hreliable : disk.Reliable) (hroot : disk.workingDirectory = [])
    (hfile : disk.tree.isDirectory ["v"] = false) : disk.Writable plainPath where
  reliable := hreliable
  exists_target := by
    have hwalk : disk.tree.walk? (disk.start plainPath) plainPath.names = some ["v"] := by
      rw [Disk.start, hroot]
      rfl
    have hname : (Disk.admits plainPath && !plainPath.meansDirectory && plainPath.names.getLast? ≠ some "..") = true :=
      rfl
    refine ⟨["v"], ?_⟩
    rw [Disk.target?, if_pos hname]
    simp only [hwalk, hfile]
    rfl
  exists_parent := by
    intro parent hparent hne
    have hworking : plainPath.parent? = some ⟨""⟩ := rfl
    rw [hworking, Option.some.injEq] at hparent
    exact absurd (congrArg Path.text hparent.symm) hne

theorem reliable_diskWith (text : String) : (diskWith text).Reliable :=
  nofun

theorem writable_diskWith (text : String) : (diskWith text).Writable plainPath :=
  writable_plainPath (reliable_diskWith text) rfl rfl

/-- Nothing keeps a store from being saved there. -/
theorem save_diskWith (s : JsonFileStore) (text : String) (vs : VariableSet) (h : s.path = plainPath) :
    s.save (diskWith text) vs = (.ok (), { s with entries := vs.entries }, diskWith ((s.root vs).text .indented)) := by
  have hparent : makeParent (diskWith text) plainPath = (.ok (), diskWith text) := rfl
  have hwrite : ∀ new, (diskWith text).write plainPath new = (.ok (), diskWith new) := fun _ => rfl
  rw [save, h, hparent]
  simp only [hwrite]

end JsonFileStore

end TypedTemplates
