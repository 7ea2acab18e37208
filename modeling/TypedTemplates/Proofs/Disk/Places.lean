import TypedTemplates.Proofs.Disk.Writing

/-!
# Places of files

The names of a path lead to one place, or nowhere if the way is not clear (`FileTree.eq_of_walk?`). Only directories
are on the way to other places, so a file that is written at one place makes no difference to the paths to other
places (`Disk.look?_write_of_ne`). Making directories clears the way that was asked for, if that goes well
(`Disk.exists_walk?_clearWay`), and so leaves a disk on which the file in them can be written
(`Disk.writable_of_target?`).
-/

namespace TypedTemplates

namespace FileTree

theorem eq_of_walk? {t : FileTree} {place last : Place} {names : List String}
    (h : t.walk? place names = some last) : last = names.foldl step place := by
  induction names generalizing place with
  | nil => exact (Option.some.inj h).symm
  | cons name names ih =>
    rw [walk?] at h
    split at h
    · exact ih h
    · cases h

/-- Where names lead depends on the directories only. -/
theorem walk?_congr {t t' : FileTree} (h : ∀ place, t.isDirectory place = t'.isDirectory place) (place : Place)
    (names : List String) : t.walk? place names = t'.walk? place names := by
  induction names generalizing place with
  | nil => rfl
  | cons name names ih => rw [walk?, walk?, h, ih]

theorem isDirectory_set_file {t : FileTree} {target : Place} (h : t.isDirectory target = false) (content : Content)
    (place : Place) : (t.set target (.file content)).isDirectory place = t.isDirectory place := by
  by_cases hne : target = place
  · subst hne
    have hroot : target ≠ [] := by
      rintro rfl
      simp [isDirectory, node?] at h
    rw [h, isDirectory, t.node?_set_self _ hroot]
    rfl
  · exact t.isDirectory_set_of_ne _ hne

theorem isDirectory_set_directory {t : FileTree} {place : Place} (h : t.isDirectory place = true) (made : Place) :
    (t.set made .directory).isDirectory place = true := by
  by_cases hne : made = place
  · subst hne
    by_cases hroot : made = []
    · simp [isDirectory, node?, hroot]
    · simp [isDirectory, t.node?_set_self _ hroot]
  · rw [t.isDirectory_set_of_ne _ hne, h]

end FileTree

namespace Disk

/-- What holds of a disk holds of it when the missing directories on a way have been made, if one of them keeps it, and
if it does not depend on the faults to come. -/
theorem clearWay_preserves {motive : Disk → Prop} {d : Disk} (h : motive d)
    (hproceed : ∀ d, motive d → motive d.proceed)
    (hput : ∀ d place name, motive d → d.tree.isDirectory place = true →
      d.tree.node? (FileTree.step place name) = none → motive (d.put (FileTree.step place name) .directory))
    (start : Place) (names : List String) : motive (d.clearWay start names).2 := by
  induction names generalizing d start with
  | nil => exact h
  | cons name names ih =>
    rw [clearWay]
    split
    · next hway =>
      dsimp only
      split
      · exact ih h _
      · next hnone _ =>
        exact ih (hput d.proceed start name (hproceed d h) (Bool.and_eq_true_iff.1 hway).1 hnone) _
      · exact hproceed d h
    · exact h

/-- Directories stay where they are while others are made. -/
theorem isDirectory_clearWay {d : Disk} {place : Place} (h : d.tree.isDirectory place = true) (start : Place)
    (names : List String) : (d.clearWay start names).2.tree.isDirectory place = true :=
  clearWay_preserves (motive := fun d => d.tree.isDirectory place = true) h (fun _ h => h)
    (fun _ _ _ h _ _ => FileTree.isDirectory_set_directory h _) start names

theorem Reliable.clearWay {d : Disk} (h : d.Reliable) (start : Place) (names : List String) :
    (d.clearWay start names).2.Reliable :=
  clearWay_preserves h (fun _ h => h.proceed) (fun _ _ _ h _ _ => h.put _ _) start names

theorem workingDirectory_clearWay (d : Disk) (start : Place) (names : List String) :
    (d.clearWay start names).2.workingDirectory = d.workingDirectory :=
  clearWay_preserves (motive := fun made => made.workingDirectory = d.workingDirectory) rfl (fun _ h => h)
    (fun _ _ _ h _ _ => h) start names

theorem ofWriting_of_clearWay_error {d : Disk} {start : Place} {names : List String} {cause : FileError}
    (h : (d.clearWay start names).1 = .error cause) : cause.OfWriting := by
  induction names generalizing d start with
  | nil =>
    rw [clearWay] at h
    split at h
    · cases h
    · cases h
      trivial
  | cons name names ih =>
    rw [clearWay] at h
    split at h
    · dsimp only at h
      split at h
      · exact ih h
      · exact ih h
      · next fault _ _ =>
        cases h
        exact fault.ofWriting_cause
    · cases h
      trivial

/-- When the way has been made clear, it leads to a directory. -/
theorem exists_walk?_clearWay {d : Disk} {place : Place} {names : List String}
    (h : (d.clearWay place names).1 = .ok ()) :
    ∃ last, (d.clearWay place names).2.tree.walk? place names = some last ∧
      (d.clearWay place names).2.tree.isDirectory last = true := by
  induction names generalizing d place with
  | nil =>
    refine ⟨place, rfl, ?_⟩
    by_cases hplace : d.tree.isDirectory place = true
    · exact hplace
    · rw [clearWay, if_neg hplace] at h
      cases h
  | cons name names ih =>
    -- the directory at the start is still there when all others have been made
    have hnext : ∀ d' : Disk, d'.tree.isDirectory place = true → name.utf8ByteSize ≤ FileTree.maxNameLength →
        (d'.clearWay (FileTree.step place name) names).1 = .ok () →
        ∃ last, (d'.clearWay (FileTree.step place name) names).2.tree.walk? place (name :: names) = some last ∧
          (d'.clearWay (FileTree.step place name) names).2.tree.isDirectory last = true := by
      intro d' hplace hname hclear
      obtain ⟨last, hlast, hdirectory⟩ := ih hclear
      have hstart := isDirectory_clearWay hplace (FileTree.step place name) names
      refine ⟨last, ?_, hdirectory⟩
      rw [FileTree.walk?, if_pos (by simpa using ⟨hstart, hname⟩), hlast]
    rw [clearWay] at h ⊢
    split at h
    · next hway =>
      obtain ⟨hplace, hname⟩ := Bool.and_eq_true_iff.1 hway
      rw [if_pos hway]
      dsimp only at h ⊢
      split at h
      · exact hnext _ hplace (by simpa using hname) h
      · exact hnext _ (FileTree.isDirectory_set_directory hplace _) (by simpa using hname) h
      · cases h
    · cases h

/-- The place that the names of a path lead to if the way is clear. -/
def place (d : Disk) (p : Path) : Place :=
  p.names.foldl FileTree.step (d.start p)

theorem place_congr {d d' : Disk} (h : d.workingDirectory = d'.workingDirectory) (p : Path) :
    d.place p = d'.place p := by
  rw [place, place, start, start, h]

theorem read_congr {d d' : Disk} {p : Path} (h : d.look? p = d'.look? p) : d.read p = d'.read p := by
  rw [read, read, h]

/-- What a path leads to depends on the tree and the working directory only. -/
theorem look?_congr {d d' : Disk} (htree : d.tree = d'.tree) (hworking : d.workingDirectory = d'.workingDirectory)
    (p : Path) : d.look? p = d'.look? p := by
  rw [look?, look?, htree, start_congr hworking]

theorem look?_of_read {d : Disk} {p : Path} {text : String} (h : d.read p = .ok text) :
    d.look? p = some (.file (.text text)) := by
  rw [read] at h
  cases hlook : d.look? p with
  | none =>
    rw [hlook] at h
    cases h
  | some node =>
    rw [hlook] at h
    cases node with
    | directory => cases h
    | file content =>
      cases content with
      | bytes bs => cases h
      | text s => rw [Except.ok.inj h]

theorem contains_of_read {d : Disk} {p : Path} {text : String} (h : d.read p = .ok text) : d.contains p = true := by
  rw [contains, look?_of_read h]
  rfl

theorem workingDirectory_makeDirectories (d : Disk) (p : Path) :
    (d.makeDirectories p).2.workingDirectory = d.workingDirectory := by
  unfold makeDirectories
  split
  · exact d.workingDirectory_clearWay _ _
  · rfl

theorem ofWriting_of_makeDirectories_error {d : Disk} {p : Path} {cause : FileError}
    (h : (d.makeDirectories p).1 = .error cause) : cause.OfWriting := by
  unfold makeDirectories at h
  split at h
  · exact ofWriting_of_clearWay_error h
  · cases h
    trivial

theorem Reliable.makeDirectories {d : Disk} (h : d.Reliable) (p : Path) : (d.makeDirectories p).2.Reliable := by
  unfold Disk.makeDirectories
  split
  · exact h.clearWay _ _
  · exact h

/-- Whatever comes of a write, it makes no difference to the paths to other places. -/
theorem look?_write_of_ne {d : Disk} {p q : Path} (text : String) (hne : d.place p ≠ d.place q) :
    (d.write p text).2.look? q = d.look? q := by
  have hworking := d.workingDirectory_write p text
  rcases d.write_cases p text with ⟨-, htree⟩ | ⟨place, content, hplace, htree, -⟩
  · exact look?_congr htree hworking q
  · obtain ⟨-, -, hwalk, hdirectory⟩ := of_target? hplace
    have hp : place = d.place p := FileTree.eq_of_walk? hwalk
    have hways := FileTree.walk?_congr (FileTree.isDirectory_set_file hdirectory content) (d.start q) q.names
    have hfound : (d.tree.walk? (d.start q) q.names).bind (d.tree.set place (.file content)).node? =
        (d.tree.walk? (d.start q) q.names).bind d.tree.node? := by
      cases hq : d.tree.walk? (d.start q) q.names with
      | none => rfl
      | some last =>
        have hlast : last = d.place q := FileTree.eq_of_walk? hq
        exact d.tree.node?_set_of_ne _ (by rwa [hp, hlast])
    rw [look?, look?, htree, start_congr hworking, hways, hfound]

/-- A file can be written if it has a place, its directory was made, and there are no faults to come. -/
theorem writable_of_target? {d : Disk} {p : Path} {place : Place} (hreliable : d.Reliable)
    (hplace : d.target? p = some place)
    (hparent : ∀ parent, p.parent? = some parent → parent.text ≠ "" →
      ∃ before : Disk, before.makeDirectories parent = (.ok (), d)) : d.Writable p := by
  refine ⟨hreliable, ⟨place, hplace⟩, ?_⟩
  intro parent hp hne
  obtain ⟨before, hmade⟩ := hparent parent hp hne
  unfold makeDirectories at hmade
  split at hmade
  · next hadmits =>
    have hstart : before.start parent = d.start parent := by
      have hworking := before.workingDirectory_clearWay (before.start parent) parent.names
      rw [hmade] at hworking
      exact (start_congr hworking parent).symm
    have hclear := exists_walk?_clearWay (congrArg Prod.fst hmade)
    rw [hmade, hstart] at hclear
    exact ⟨hadmits, hclear⟩
  · cases hmade

end Disk

end TypedTemplates
