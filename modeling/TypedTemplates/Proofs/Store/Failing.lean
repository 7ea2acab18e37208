import TypedTemplates.Proofs.Disk.Parents
import TypedTemplates.Proofs.Store.File

/-!
# Saves that fail

A save that fails leaves the store as it is. It changes no file, unless its write is cut and leaves the beginning of the
text (`file?_save_of_error`). It can leave directories that it made above the file, and these make no difference to
loading the store again unless a `..` of its path leads back from one of them (`load_save_of_error`). What a store
writes does not depend on the saves that were tried before (`read_save_attempts`), so a save that fails makes no
difference to those that come after it either.
-/

namespace TypedTemplates

namespace JsonFileStore

/-! ### The directory above the file -/

theorem file?_makeParent (disk : Disk) (path other : Path) :
    (makeParent disk path).2.file? other = disk.file? other := by
  rcases makeParent_cases disk path with hmade | ⟨parent, -, -, hmade⟩
  · rw [hmade]
  · rw [hmade, disk.file?_makeDirectories]

theorem rooted_makeParent {disk : Disk} (h : disk.tree.Rooted) (path : Path) :
    (makeParent disk path).2.tree.Rooted := by
  rcases makeParent_cases disk path with hmade | ⟨parent, -, -, hmade⟩
  · rwa [hmade]
  · rw [hmade]
    exact Disk.rooted_makeDirectories h parent

theorem writesOrRefuses_makeParent {disk : Disk} (h : disk.WritesOrRefuses) (path : Path) :
    (makeParent disk path).2.WritesOrRefuses := by
  rcases makeParent_cases disk path with hmade | ⟨parent, -, -, hmade⟩
  · rwa [hmade]
  · rw [hmade]
    exact h.makeDirectories parent

theorem look?_makeParent {disk : Disk} {path : Path} (hrooted : disk.tree.Rooted)
    (hreturns : disk.tree.Returns (disk.start path) path.names) :
    (makeParent disk path).2.look? path = disk.look? path := by
  rcases makeParent_cases disk path with hmade | ⟨parent, hparent, hne, hmade⟩
  · rw [hmade]
  · rw [hmade, Disk.look?_makeDirectories hparent hne hrooted hreturns]

/-! ### What a save changes -/

theorem rooted_save (s : JsonFileStore) {disk : Disk} (h : disk.tree.Rooted) (vs : VariableSet) :
    (s.save disk vs).2.2.tree.Rooted := by
  have hmade := rooted_makeParent h s.path
  rcases s.disk_save disk vs with hsave | hsave
  · rwa [hsave]
  · rw [hsave]
    exact Disk.rooted_write hmade _ _

theorem writesOrRefuses_save (s : JsonFileStore) {disk : Disk} (h : disk.WritesOrRefuses) (vs : VariableSet) :
    (s.save disk vs).2.2.WritesOrRefuses := by
  have hmade := writesOrRefuses_makeParent h s.path
  rcases s.disk_save disk vs with hsave | hsave
  · rwa [hsave]
  · rw [hsave]
    exact hmade.write _ _

/-- Whatever comes of a save, it makes no difference to the files at other places. -/
theorem file?_save_of_ne (s : JsonFileStore) (disk : Disk) (vs : VariableSet) {path : Path}
    (hne : disk.place s.path ≠ disk.place path) : (s.save disk vs).2.2.file? path = disk.file? path := by
  have hworking := workingDirectory_makeParent disk s.path
  rcases s.disk_save disk vs with hsave | hsave
  · rw [hsave, file?_makeParent]
  · rw [hsave, Disk.file?_write_of_ne, file?_makeParent]
    rwa [Disk.place_congr hworking, Disk.place_congr hworking]

/-- A save that fails leaves the store as it is. It has failed to make the directory or to write the file. -/
theorem save_of_error {s : JsonFileStore} {disk : Disk} {vs : VariableSet} {error : StoreError}
    (h : (s.save disk vs).1 = .error error) :
    (s.save disk vs).2.1 = s ∧
      ((s.save disk vs).2.2 = (makeParent disk s.path).2 ∨
        ∃ cause, ((makeParent disk s.path).2.write s.path ((s.root vs).text .indented)).1 = .error cause ∧
          (s.save disk vs).2.2 = ((makeParent disk s.path).2.write s.path ((s.root vs).text .indented)).2) := by
  unfold save at h ⊢
  split at h
  · next hmade =>
    rw [hmade]
    exact ⟨rfl, .inl rfl⟩
  · next hmade =>
    rw [hmade]
    split at h
    · next cause left hwrite =>
      rw [hwrite]
      exact ⟨rfl, .inr ⟨cause, rfl, rfl⟩⟩
    · cases h

/-- A save that fails changes no file, or it leaves the beginning of what it was to write. -/
theorem file?_save_of_error {s : JsonFileStore} {disk : Disk} {vs : VariableSet} {error : StoreError}
    (h : (s.save disk vs).1 = .error error) :
    (∀ path, (s.save disk vs).2.2.file? path = disk.file? path) ∨
      ¬ disk.WritesOrRefuses ∧ ∃ room < ((s.root vs).text .indented).utf8ByteSize,
        (s.save disk vs).2.2.file? s.path = some (.beginning ((s.root vs).text .indented) room) := by
  obtain ⟨-, hsave | ⟨cause, herror, hsave⟩⟩ := save_of_error h
  · exact .inl fun path => by rw [hsave, file?_makeParent]
  · rw [hsave]
    refine (Disk.file?_write_of_error herror).imp (fun hfiles path => by rw [hfiles, file?_makeParent]) ?_
    rintro ⟨hcuts, hcut⟩
    exact ⟨fun hdisk => hcuts (writesOrRefuses_makeParent hdisk s.path), hcut⟩

/-- Where every write is done or refused, all that a save that fails can have done is to make the directory. -/
theorem tree_save_of_error {s : JsonFileStore} {disk : Disk} {vs : VariableSet} {error : StoreError}
    (h : (s.save disk vs).1 = .error error) (hdisk : disk.WritesOrRefuses) :
    (s.save disk vs).2.2.tree = (makeParent disk s.path).2.tree := by
  obtain ⟨-, hsave | ⟨cause, herror, hsave⟩⟩ := save_of_error h
  · rw [hsave]
  · rw [hsave, (writesOrRefuses_makeParent hdisk s.path).tree_write_of_error herror]

theorem workingDirectory_save_eq_makeParent (s : JsonFileStore) (disk : Disk) (vs : VariableSet) :
    (s.save disk vs).2.2.workingDirectory = (makeParent disk s.path).2.workingDirectory := by
  rw [workingDirectory_save, workingDirectory_makeParent]

/-- After a save that fails the store is loaded as before it, unless its path leads back from a missing directory. -/
theorem load_save_of_error {s : JsonFileStore} {disk : Disk} {vs : VariableSet} {error : StoreError}
    (h : (s.save disk vs).1 = .error error) (hdisk : disk.WritesOrRefuses) (hrooted : disk.tree.Rooted)
    (hreturns : disk.tree.Returns (disk.start s.path) s.path.names) (key : String) :
    load (s.save disk vs).2.2 s.path key = load disk s.path key := by
  refine load_congr ?_ key
  rw [Disk.look?_congr (tree_save_of_error h hdisk) (s.workingDirectory_save_eq_makeParent disk vs),
    look?_makeParent hrooted hreturns]

/-! ### Saves after others -/

/-- Apart from its entries a save leaves the store as it is. -/
theorem exists_save_eq (s : JsonFileStore) (disk : Disk) (vs : VariableSet) :
    ∃ entries, (s.save disk vs).2.1 = { s with entries := entries } := by
  unfold save
  split
  · exact ⟨_, rfl⟩
  · split <;> exact ⟨_, rfl⟩

/-- The store after saves of those sets have been tried, each on the disk as it was then. -/
def attempts (s : JsonFileStore) : List (Disk × VariableSet) → JsonFileStore
  | [] => s
  | (disk, vs) :: tries => (s.save disk vs).2.1.attempts tries

theorem exists_attempts_eq (s : JsonFileStore) (tries : List (Disk × VariableSet)) :
    ∃ entries, s.attempts tries = { s with entries := entries } := by
  induction tries generalizing s with
  | nil => exact ⟨_, rfl⟩
  | cons t tries ih =>
    obtain ⟨saved, hsave⟩ := s.exists_save_eq t.1 t.2
    obtain ⟨entries, hattempts⟩ := ih (s.save t.1 t.2).2.1
    refine ⟨entries, ?_⟩
    rw [attempts, hattempts, hsave]

/-- What a store writes does not depend on the saves that were tried before. -/
theorem read_save_attempts (s : JsonFileStore) (tries : List (Disk × VariableSet)) {disk : Disk} {vs : VariableSet}
    (h : ((s.attempts tries).save disk vs).1 = .ok ()) :
    ((s.attempts tries).save disk vs).2.2.read s.path = .ok ((s.root vs).text .indented) := by
  obtain ⟨entries, hattempts⟩ := s.exists_attempts_eq tries
  have hread := (save_of_ok h).2
  rw [hattempts] at hread ⊢
  exact hread

/-- A save that fails leaves the store and all files as they are, as long as a write that goes wrong leaves the file as it
was. The store is loaded again as before, unless its path leads back from a missing directory, and every later save that
succeeds writes what it would have written anyway. -/
theorem failed_save_changes_nothing {s : JsonFileStore} {disk : Disk} {vs : VariableSet} {error : StoreError}
    (h : (s.save disk vs).1 = .error error) :
    (s.save disk vs).2.1 = s ∧
    VariableStore.get? (VariableStore.save (StoreOnDisk.mk s disk) vs).2 = VariableStore.get? (StoreOnDisk.mk s disk) ∧
    (∀ path, disk.WritesOrRefuses ∨ disk.place s.path ≠ disk.place path →
      (s.save disk vs).2.2.file? path = disk.file? path) ∧
    (disk.tree.Rooted → (s.save disk vs).2.2.tree.Rooted ∧
      (disk.WritesOrRefuses → disk.tree.Returns (disk.start s.path) s.path.names →
        ∀ key, load (s.save disk vs).2.2 s.path key = load disk s.path key)) ∧
    ∀ start ∈ [(s.save disk vs).2.1, s], ∀ tries later ws, ((start.attempts tries).save later ws).1 = .ok () →
      ((start.attempts tries).save later ws).2.2.read s.path = .ok ((s.root ws).text .indented) := by
  have hstore : (s.save disk vs).2.1 = s := (save_of_error h).1
  refine ⟨hstore, ?_, ?_, fun hrooted => ⟨s.rooted_save hrooted vs, fun hdisk => load_save_of_error h hdisk hrooted⟩, ?_⟩
  · exact LawfulVariableStore.get?_save_of_error (StoreOnDisk.mk s disk) vs error h
  · rintro path (hdisk | hne)
    · rw [Disk.file?_congr (tree_save_of_error h hdisk) (s.workingDirectory_save_eq_makeParent disk vs),
        file?_makeParent]
    · exact s.file?_save_of_ne disk vs hne
  · intro start hstart tries later ws hlater
    have heq : start = s := by simpa [hstore] using hstart
    subst heq
    exact read_save_attempts start tries hlater

/-- The disk on which there is nothing but its root. -/
def emptyDisk : Disk := ⟨⟨[]⟩, []⟩

/-- The store that is loaded from a path at which nothing is. -/
def emptyStore (path : String) : JsonFileStore := ⟨⟨path⟩, "k", [], []⟩

/-- A disk with nothing on it, which will make one directory and then refuse one operation. -/
def refusingDisk : Disk := { emptyDisk with faults := ⟨[none, some .refused]⟩ }

theorem writesOrRefuses_refusingDisk : refusingDisk.WritesOrRefuses := by
  intro room hroom
  change some (.full room) ∈ [none, some Fault.refused] at hroom
  simp at hroom

/-- The directory above the file is made, and then the disk refuses to write the file. The next save succeeds. -/
theorem failed_save_changes_nothing_refused :
    let s := emptyStore "new/v"
    let left := (s.save refusingDisk .empty).2.2
    (s.save refusingDisk .empty).1 = .error (.access ⟨"new/v"⟩ .refused) ∧ left.tree.isDirectory ["new"] = true ∧
    (∀ path, left.file? path = refusingDisk.file? path) ∧ load left ⟨"new/v"⟩ "k" = .ok s ∧
    (s.save left .empty).2.2.read ⟨"new/v"⟩ = .ok ((s.root .empty).text .indented) := by
  have hfails : ((emptyStore "new/v").save refusingDisk .empty).1 = .error (.access ⟨"new/v"⟩ .refused) := rfl
  have hmade : ((emptyStore "new/v").save refusingDisk .empty).2.2.tree.isDirectory ["new"] = true := rfl
  have hagain : ((emptyStore "new/v").save ((emptyStore "new/v").save refusingDisk .empty).2.2 .empty).1 = .ok () := rfl
  have hempty : load refusingDisk ⟨"new/v"⟩ "k" = .ok (emptyStore "new/v") := rfl
  have hreturns : refusingDisk.tree.Returns (refusingDisk.start ⟨"new/v"⟩) (Path.mk "new/v").names :=
    FileTree.returns_of_not_mem _ _ (by decide)
  have hrooted : refusingDisk.tree.Rooted := by simp [refusingDisk, emptyDisk, FileTree.Rooted]
  obtain ⟨-, -, hfiles, hload, hlater⟩ := failed_save_changes_nothing hfails
  obtain ⟨-, hsame⟩ := hload hrooted
  exact ⟨hfails, hmade, fun path => hfiles path (.inl writesOrRefuses_refusingDisk),
    (hsame writesOrRefuses_refusingDisk hreturns "k").trans hempty,
    hlater (emptyStore "new/v") (by simp) [] _ .empty hagain⟩

/-- A path that leads back from a directory that the save makes: what was missing is a directory afterwards. -/
theorem failed_save_makes_directory :
    load emptyDisk ⟨"d/../d"⟩ "k" = .ok (emptyStore "d/../d") ∧
    ((emptyStore "d/../d").save emptyDisk .empty).1 = .error (.access ⟨"d/../d"⟩ .unreachable) ∧
    load ((emptyStore "d/../d").save emptyDisk .empty).2.2 ⟨"d/../d"⟩ "k" =
      .error (.access ⟨"d/../d"⟩ .directory) :=
  ⟨rfl, rfl, rfl⟩

end JsonFileStore

end TypedTemplates
