import TypedTemplates.Disk.Tree

/-!
# Writing to a file

A write either leaves the tree as it is or puts a file at the place to which the path leads (`Disk.write_cases`). If it
goes well, the file holds the text (`Disk.read_write`). On a disk without faults to come (`Disk.Reliable`) the file can
be written again (`Disk.Writable.write`): it does not stand in its own way, since the way to it leads through
directories only.
-/

namespace TypedTemplates

/-- Only for these causes a file cannot be written or a directory cannot be made. Reading fails for others. -/
def FileError.OfWriting : FileError → Prop
  | .unreachable | .refused | .full => True
  | .missing | .directory | .notText => False

theorem Fault.ofWriting_cause (fault : Fault) : fault.cause.OfWriting := by
  cases fault <;> trivial

namespace FileTree

theorem isDirectory_set_of_ne (t : FileTree) {place other : Place} (node : Node) (h : place ≠ other) :
    (t.set place node).isDirectory other = t.isDirectory other := by
  rw [isDirectory, isDirectory, t.node?_set_of_ne node h]

/-- A node put where there was no directory is on no way to another place. -/
theorem walk?_set {t : FileTree} {target : Place} (node : Node) (htarget : t.isDirectory target = false)
    {place : Place} {names : List String} {last : Place} (h : t.walk? place names = some last) :
    (t.set target node).walk? place names = some last := by
  induction names generalizing place with
  | nil => exact h
  | cons name names ih =>
    rw [walk?] at h
    split at h
    · next hway =>
      have hdirectory : t.isDirectory place = true := by simp_all
      have hne : target ≠ place := by
        rintro rfl
        rw [htarget] at hdirectory
        cases hdirectory
      rw [walk?, t.isDirectory_set_of_ne node hne, if_pos hway]
      exact ih h
    · cases h

theorem isDirectory_of_walk? {t : FileTree} {place last : Place} {names : List String}
    (h : t.walk? place names = some last) (hlast : t.isDirectory last = true) : t.isDirectory place = true := by
  cases names with
  | nil => exact Option.some.inj h ▸ hlast
  | cons name names =>
    rw [walk?] at h
    split at h
    · simp_all
    · cases h

end FileTree

namespace Disk

@[simp] theorem tree_proceed (d : Disk) : d.proceed.tree = d.tree := rfl

@[simp] theorem tree_put (d : Disk) (place : Place) (node : Node) : (d.put place node).tree = d.tree.set place node := rfl

theorem start_congr {d d' : Disk} (h : d.workingDirectory = d'.workingDirectory) (p : Path) : d.start p = d'.start p := by
  rw [start, start, h]

/-! ### Disks without faults -/

/-- Nothing will go wrong with the operations to come. -/
def Reliable (d : Disk) : Prop :=
  ∀ fault ∈ d.faults.coming, fault = none

theorem Reliable.fault?_eq {d : Disk} (h : d.Reliable) : d.fault? = none := by
  unfold fault?
  cases hcoming : d.faults.coming with
  | nil => rfl
  | cons fault rest => rw [h fault (by rw [hcoming]; exact List.mem_cons_self)]; rfl

theorem Reliable.proceed {d : Disk} (h : d.Reliable) : d.proceed.Reliable :=
  fun fault hfault => h fault (List.mem_of_mem_tail hfault)

theorem Reliable.put {d : Disk} (h : d.Reliable) (place : Place) (node : Node) : (d.put place node).Reliable :=
  h

/-- On a way on which all directories are there, none is made. -/
theorem clearWay_of_walk? {d : Disk} {place last : Place} {names : List String}
    (h : d.tree.walk? place names = some last) (hlast : d.tree.isDirectory last = true) :
    d.clearWay place names = (.ok (), d) := by
  induction names generalizing place with
  | nil =>
    rw [FileTree.walk?, Option.some.injEq] at h
    rw [clearWay, h, hlast, if_pos rfl]
  | cons name names ih =>
    rw [FileTree.walk?] at h
    split at h
    · next hway =>
      have hnext : d.tree.node? (FileTree.step place name) = some .directory := by
        simpa [FileTree.isDirectory] using FileTree.isDirectory_of_walk? h hlast
      rw [clearWay, if_pos hway]
      simp only [hnext]
      exact ih h
    · cases h

/-! ### What a write does -/

theorem of_target? {d : Disk} {p : Path} {place : Place} (h : d.target? p = some place) :
    admits p = true ∧ p.meansDirectory = false ∧ d.tree.walk? (d.start p) p.names = some place ∧
      d.tree.isDirectory place = false := by
  unfold target? at h
  split at h
  · next hadmits =>
    simp only [Bool.and_eq_true, Bool.not_eq_true'] at hadmits
    split at h
    · next found hwalk =>
      split at h
      · cases h
      · next hdirectory =>
        rw [Option.some.injEq] at h
        subst h
        exact ⟨hadmits.1.1, hadmits.1.2, hwalk, by simpa using hdirectory⟩
    · cases h
  · cases h

theorem ne_root_of_target? {d : Disk} {p : Path} {place : Place} (h : d.target? p = some place) : place ≠ [] := by
  obtain ⟨-, -, -, hdirectory⟩ := of_target? h
  rintro rfl
  simp [FileTree.isDirectory, FileTree.node?] at hdirectory

/-- A write that goes wrong leaves the tree as it is, or it leaves the beginning of the text in the file. -/
theorem write_cases (d : Disk) (p : Path) (text : String) :
    ((∃ cause, (d.write p text).1 = .error cause) ∧ (d.write p text).2.tree = d.tree) ∨
      ∃ place content, d.target? p = some place ∧ (d.write p text).2.tree = d.tree.set place (.file content) ∧
        ((d.write p text).1 = .ok () ∧ content = .text text ∨
          (d.write p text).1 = .error .full ∧ ∃ room, some (.full room) ∈ d.faults.coming ∧
            room < text.utf8ByteSize ∧ content = .beginning text room) := by
  unfold write
  cases hplace : d.target? p with
  | none => exact .inl ⟨⟨_, rfl⟩, rfl⟩
  | some place =>
    cases hfault : d.fault? with
    | none => exact .inr ⟨place, _, rfl, rfl, .inl ⟨rfl, rfl⟩⟩
    | some fault =>
      cases fault with
      | refused => exact .inl ⟨⟨_, rfl⟩, rfl⟩
      | full room =>
        by_cases hroom : text.utf8ByteSize ≤ room
        · simp only [hroom, if_true]
          exact .inr ⟨place, _, rfl, rfl, .inl ⟨trivial, rfl⟩⟩
        · have hcoming : some (.full room) ∈ d.faults.coming :=
            List.mem_of_mem_head? (Option.join_eq_some_iff.1 hfault)
          simp only [hroom, if_false]
          exact .inr ⟨place, _, rfl, rfl, .inr ⟨trivial, room, hcoming, Nat.lt_of_not_le hroom, rfl⟩⟩

/-- A write that goes well puts the text at the place to which the path leads. -/
theorem tree_write_of_ok {d : Disk} {p : Path} {text : String} (h : (d.write p text).1 = .ok ()) :
    ∃ place, d.target? p = some place ∧ (d.write p text).2.tree = d.tree.set place (.file (.text text)) := by
  rcases d.write_cases p text with ⟨⟨cause, herror⟩, -⟩ | ⟨place, content, hplace, htree, ⟨-, rfl⟩ | ⟨herror, -⟩⟩
  · rw [h] at herror
    cases herror
  · exact ⟨place, hplace, htree⟩
  · rw [h] at herror
    cases herror

theorem ofWriting_of_write_error {d : Disk} {p : Path} {text : String} {cause : FileError}
    (h : (d.write p text).1 = .error cause) : cause.OfWriting := by
  unfold write at h
  split at h
  · cases h
    trivial
  · split at h
    · cases h
    · cases h
      trivial
    · split at h
      · cases h
      · cases h
        trivial

theorem workingDirectory_write (d : Disk) (p : Path) (text : String) :
    (d.write p text).2.workingDirectory = d.workingDirectory := by
  unfold write
  split
  · rfl
  · split
    · rfl
    · rfl
    · split <;> rfl

/-- What was written to a path is what the path leads to. -/
theorem look?_write {d : Disk} {p : Path} {text : String} (h : (d.write p text).1 = .ok ()) :
    (d.write p text).2.look? p = some (.file (.text text)) := by
  obtain ⟨place, hplace, htree⟩ := tree_write_of_ok h
  obtain ⟨hadmits, hname, hwalk, hdirectory⟩ := of_target? hplace
  have hwalk' := FileTree.walk?_set (.file (.text text)) hdirectory hwalk
  have hnode := d.tree.node?_set_self (.file (.text text)) (ne_root_of_target? hplace)
  have hstart := start_congr (d.workingDirectory_write p text) p
  simp [look?, hadmits, hstart, htree, hwalk', hnode, hname]

theorem read_write {d : Disk} {p : Path} {text : String} (h : (d.write p text).1 = .ok ()) :
    (d.write p text).2.read p = .ok text := by
  rw [read, look?_write h]

/-! ### Files that can be written -/

/-- A file of that path can be written, now and later, and its directory is there. -/
structure Writable (d : Disk) (p : Path) : Prop where
  reliable : d.Reliable
  exists_target : ∃ place, d.target? p = some place
  exists_parent : ∀ parent, p.parent? = some parent → parent.text ≠ "" → admits parent = true ∧
    ∃ place, d.tree.walk? (d.start parent) parent.names = some place ∧ d.tree.isDirectory place = true

theorem Writable.makeDirectories {d : Disk} {p parent : Path} (h : d.Writable p) (hparent : p.parent? = some parent)
    (hne : parent.text ≠ "") : d.makeDirectories parent = (.ok (), d) := by
  obtain ⟨hadmits, place, hwalk, hdirectory⟩ := h.exists_parent parent hparent hne
  rw [Disk.makeDirectories, if_pos hadmits, clearWay_of_walk? hwalk hdirectory]

/-- A reliable disk writes at the place to which the path leads. -/
theorem Reliable.write_eq {d : Disk} (h : d.Reliable) {p : Path} {place : Place} (hplace : d.target? p = some place)
    (text : String) : d.write p text = (.ok (), d.proceed.put place (.file (.text text))) := by
  simp only [write, hplace, h.fault?_eq]

/-- A file that can be written can be written again. -/
theorem Writable.write {d : Disk} {p : Path} (h : d.Writable p) (text : String) :
    ∃ d', d.write p text = (.ok (), d') ∧ d'.Writable p := by
  obtain ⟨place, hplace⟩ := h.exists_target
  obtain ⟨-, -, hwalk, hdirectory⟩ := of_target? hplace
  refine ⟨_, h.reliable.write_eq hplace text, h.reliable.proceed.put _ _, ⟨place, ?_⟩, ?_⟩
  · have hfile : (d.tree.set place (.file (.text text))).isDirectory place = false := by
      rw [FileTree.isDirectory, d.tree.node?_set_self _ (ne_root_of_target? hplace)]
      rfl
    unfold target? at hplace ⊢
    split at hplace
    · next hadmits =>
      rw [if_pos hadmits]
      have hstart : (d.proceed.put place (.file (.text text))).start p = d.start p := rfl
      simp [hstart, FileTree.walk?_set _ hdirectory hwalk, hfile]
    · cases hplace
  · intro parent hparent hne
    obtain ⟨hadmits, last, hparentWalk, hlast⟩ := h.exists_parent parent hparent hne
    have hplaces : place ≠ last := by
      rintro rfl
      rw [hdirectory] at hlast
      cases hlast
    refine ⟨hadmits, last, FileTree.walk?_set _ hdirectory hparentWalk, ?_⟩
    rw [tree_put, tree_proceed, d.tree.isDirectory_set_of_ne _ hplaces, hlast]

end Disk

end TypedTemplates
