import TypedTemplates.Proofs.Disk.Places

/-!
# What files hold

A file is found at its place, whether or not the way to it is clear (`Disk.file?`). Only a text written at its own
place changes what it holds (`Disk.file?_write_of_ne`), whereas making directories changes no file
(`Disk.file?_makeDirectories`), be it to make a way clear for the file itself. A write that goes wrong can have emptied
the file (`Disk.file?_write_of_error`), unless every write is done or refused (`Disk.WritesOrRefuses`).
-/

namespace TypedTemplates

namespace FileTree

/-- What the file at a place holds. -/
def file? (t : FileTree) (place : Place) : Option Content :=
  match t.node? place with
  | some (.file content) => some content
  | _ => none

theorem file?_congr {t t' : FileTree} {place : Place} (h : t.node? place = t'.node? place) :
    t.file? place = t'.file? place := by
  rw [file?, file?, h]

theorem file?_set_directory {t : FileTree} {made : Place} (h : t.node? made = none) (place : Place) :
    (t.set made .directory).file? place = t.file? place := by
  by_cases hne : made = place
  · subst hne
    have hroot : made ≠ [] := by
      rintro rfl
      simp [node?] at h
    rw [file?, t.node?_set_self _ hroot, file?, h]
  · exact file?_congr (t.node?_set_of_ne _ hne)

end FileTree

namespace Disk

/-- What the file holds that a path names. The way to it need not be clear. -/
def file? (d : Disk) (p : Path) : Option Content :=
  d.tree.file? (d.place p)

/-- What a path leads to is at the place that it names. -/
theorem node?_place_of_look? {d : Disk} {p : Path} {content : Content} (h : d.look? p = some (.file content)) :
    d.tree.node? (d.place p) = some (.file content) := by
  by_cases hadmits : admits p = true
  · rw [look?, if_pos hadmits] at h
    cases hwalk : d.tree.walk? (d.start p) p.names with
    | none =>
      rw [hwalk] at h
      cases h
    | some last =>
      have hplace : last = d.place p := FileTree.eq_of_walk? hwalk
      rw [hwalk, Option.bind_some, hplace] at h
      cases hnode : d.tree.node? (d.place p) with
      | none =>
        rw [hnode] at h
        cases h
      | some node =>
        rw [hnode] at h
        cases node with
        | directory => cases h
        | file found =>
          by_cases hname : p.meansDirectory = true
          · simp only [hname, if_true] at h
            cases h
          · simpa only [hname, Bool.false_eq_true, if_false] using h
  · rw [look?, if_neg hadmits] at h
    cases h

theorem file?_of_read {d : Disk} {p : Path} {text : String} (h : d.read p = .ok text) :
    d.file? p = some (.text text) := by
  rw [file?, FileTree.file?, node?_place_of_look? (look?_of_read h)]

theorem file?_congr {d d' : Disk} (htree : d.tree = d'.tree) (hworking : d.workingDirectory = d'.workingDirectory)
    (p : Path) : d.file? p = d'.file? p := by
  rw [file?, file?, htree, place_congr hworking]

/-- Whatever comes of a write, it makes no difference to the files at other places. -/
theorem file?_write_of_ne {d : Disk} {p q : Path} (text : String) (hne : d.place p ≠ d.place q) :
    (d.write p text).2.file? q = d.file? q := by
  have hworking := d.workingDirectory_write p text
  rcases d.write_cases p text with ⟨-, htree⟩ | ⟨place, content, hplace, htree, -⟩
  · exact file?_congr htree hworking q
  · obtain ⟨-, -, hwalk, -⟩ := of_target? hplace
    have hp : place = d.place p := FileTree.eq_of_walk? hwalk
    rw [file?, file?, place_congr hworking, htree]
    exact FileTree.file?_congr (d.tree.node?_set_of_ne _ (by rwa [hp]))

/-- Every write is done or refused: one that goes wrong leaves the file as it was. -/
def WritesOrRefuses (d : Disk) : Prop :=
  ∀ room, some (.full room) ∉ d.faults.coming

/-- A write that goes wrong changes no file, or it leaves the beginning of the text in the file. -/
theorem file?_write_of_error {d : Disk} {p : Path} {text : String} {cause : FileError}
    (h : (d.write p text).1 = .error cause) :
    (∀ q, (d.write p text).2.file? q = d.file? q) ∨
      ¬ d.WritesOrRefuses ∧
        ∃ room < text.utf8ByteSize, (d.write p text).2.file? p = some (.beginning text room) := by
  have hworking := d.workingDirectory_write p text
  rcases d.write_cases p text with
    ⟨-, htree⟩ | ⟨place, content, hplace, htree, ⟨hok, -⟩ | ⟨-, room, hcoming, hroom, rfl⟩⟩
  · exact .inl (file?_congr htree hworking)
  · rw [hok] at h
    cases h
  · obtain ⟨-, -, hwalk, -⟩ := of_target? hplace
    have hp : place = d.place p := FileTree.eq_of_walk? hwalk
    refine .inr ⟨fun hdisk => hdisk room hcoming, room, hroom, ?_⟩
    rw [file?, place_congr hworking, htree, ← hp, FileTree.file?, d.tree.node?_set_self _ (ne_root_of_target? hplace)]

theorem file?_makeDirectories (d : Disk) (p q : Path) : (d.makeDirectories p).2.file? q = d.file? q := by
  unfold makeDirectories
  split
  · have hplace : (d.clearWay (d.start p) p.names).2.place q = d.place q :=
      place_congr (d.workingDirectory_clearWay _ _) q
    rw [file?, file?, hplace]
    refine clearWay_preserves (motive := fun made => made.tree.file? (d.place q) = d.tree.file? (d.place q)) rfl
      (fun _ h => h) (fun made place name h _ hnone => ?_) _ _
    -- a directory is made only where nothing is
    rw [tree_put, FileTree.file?_set_directory hnone, h]
  · rfl

/-! ### Disks on which no write is cut -/

theorem WritesOrRefuses.proceed {d : Disk} (h : d.WritesOrRefuses) : d.proceed.WritesOrRefuses :=
  fun room hroom => h room (List.mem_of_mem_tail hroom)

theorem WritesOrRefuses.makeDirectories {d : Disk} (h : d.WritesOrRefuses) (p : Path) :
    (d.makeDirectories p).2.WritesOrRefuses := by
  unfold Disk.makeDirectories
  split
  · exact clearWay_preserves h (fun _ h => h.proceed) (fun _ _ _ h _ _ => h) _ _
  · exact h

theorem WritesOrRefuses.write {d : Disk} (h : d.WritesOrRefuses) (p : Path) (text : String) :
    (d.write p text).2.WritesOrRefuses := by
  unfold Disk.write
  split
  · exact h
  · split
    · exact h.proceed
    · exact h.proceed
    · split
      · exact h.proceed
      · exact h.proceed

theorem WritesOrRefuses.tree_write_of_error {d : Disk} (h : d.WritesOrRefuses) {p : Path} {text : String}
    {cause : FileError} (herror : (d.write p text).1 = .error cause) : (d.write p text).2.tree = d.tree := by
  rcases d.write_cases p text with ⟨-, htree⟩ | ⟨place, content, -, -, ⟨hok, -⟩ | ⟨-, room, hcoming, -⟩⟩
  · exact htree
  · rw [hok] at herror
    cases herror
  · exact absurd hcoming (h room)

end Disk

end TypedTemplates
