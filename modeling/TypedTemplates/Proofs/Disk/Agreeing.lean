import TypedTemplates.Proofs.Disk.Files

/-!
# Disks that agree but for one file

Two disks agree but for a place if everything stands at the same places on both, except that the files at this place
may hold different contents (`Disk.AgreeBut`). Directories are the same then, so paths lead to the same places, and
every operation that does not read that file does the same on both disks and leaves them agreeing.
-/

namespace TypedTemplates

variable {place : Place} {c c' : Content}

namespace FileTree

/-- The trees have the same nodes, but at the place the one may have a file with the first content and the other one
with the second. -/
structure AgreeBut (place : Place) (c c' : Content) (t t' : FileTree) : Prop where
  node?_eq : ∀ other, other ≠ place → t'.node? other = t.node? other
  node?_place : t.node? place = some (.file c) ∧ t'.node? place = some (.file c') ∨ t'.node? place = t.node? place

variable {t t' : FileTree}

theorem AgreeBut.cases (h : t.AgreeBut place c c' t') (other : Place) :
    other = place ∧ t.node? other = some (.file c) ∧ t'.node? other = some (.file c') ∨
      t'.node? other = t.node? other := by
  by_cases hne : other = place
  · subst hne
    exact h.node?_place.imp_left fun hfiles => ⟨rfl, hfiles⟩
  · exact .inr (h.node?_eq other hne)

theorem AgreeBut.isDirectory_eq (h : t.AgreeBut place c c' t') (other : Place) :
    t'.isDirectory other = t.isDirectory other := by
  rw [isDirectory, isDirectory]
  rcases h.cases other with ⟨-, hfile, hfile'⟩ | heq
  · rw [hfile, hfile']
    rfl
  · rw [heq]

theorem AgreeBut.walk?_eq (h : t.AgreeBut place c c' t') (start : Place) (names : List String) :
    t'.walk? start names = t.walk? start names :=
  walk?_congr h.isDirectory_eq start names

/-- The same node put at any place keeps them agreeing. -/
theorem AgreeBut.set (h : t.AgreeBut place c c' t') (target : Place) (node : Node) :
    (t.set target node).AgreeBut place c c' (t'.set target node) := by
  have hsame : ∀ other, other = target → (t'.set target node).node? other = (t.set target node).node? other := by
    rintro other rfl
    by_cases hroot : other = []
    · rw [node?, node?, if_pos hroot, if_pos hroot]
    · rw [t.node?_set_self node hroot, t'.node?_set_self node hroot]
  refine ⟨fun other hother => ?_, ?_⟩
  · by_cases htarget : other = target
    · exact hsame other htarget
    · rw [t.node?_set_of_ne node (Ne.symm htarget), t'.node?_set_of_ne node (Ne.symm htarget), h.node?_eq other hother]
  · by_cases htarget : place = target
    · exact .inr (hsame place htarget)
    · rw [t.node?_set_of_ne node (Ne.symm htarget), t'.node?_set_of_ne node (Ne.symm htarget)]
      exact h.node?_place

end FileTree

namespace Disk

/-- The disks agree but for the file at the place, and have the same faults. -/
structure AgreeBut (place : Place) (c c' : Content) (d d' : Disk) : Prop where
  workingDirectory_eq : d'.workingDirectory = d.workingDirectory
  faults_eq : d'.faults = d.faults
  tree : d.tree.AgreeBut place c c' d'.tree

variable {d d' : Disk}

theorem AgreeBut.start_eq (h : d.AgreeBut place c c' d') (p : Path) : d'.start p = d.start p := by
  rw [start, start, h.workingDirectory_eq]

/-- A path leads to the same on both disks, unless it leads to the file that may differ. -/
theorem AgreeBut.look?_cases (h : d.AgreeBut place c c' d') (p : Path) :
    d.place p = place ∧ d.look? p = some (.file c) ∧ d'.look? p = some (.file c') ∨ d'.look? p = d.look? p := by
  rw [look?, look?, h.start_eq, h.tree.walk?_eq]
  by_cases hadmits : admits p = true
  · rw [if_pos hadmits, if_pos hadmits]
    cases hwalk : d.tree.walk? (d.start p) p.names with
    | none => exact .inr rfl
    | some last =>
      rw [Option.bind_some, Option.bind_some]
      have hlast : last = d.place p := FileTree.eq_of_walk? hwalk
      rcases h.tree.cases last with ⟨hplace, hfile, hfile'⟩ | heq
      · rw [hfile, hfile']
        by_cases hname : p.meansDirectory = true
        · simp [hname]
        · exact .inl ⟨hlast ▸ hplace, by simp [hname], by simp [hname]⟩
      · rw [heq]
        exact .inr rfl
  · rw [if_neg hadmits, if_neg hadmits]
    exact .inr rfl

theorem AgreeBut.look?_eq (h : d.AgreeBut place c c' d') {p : Path} (hne : d.place p ≠ place) :
    d'.look? p = d.look? p :=
  (h.look?_cases p).resolve_left fun hfiles => hne hfiles.1

theorem AgreeBut.target?_eq (h : d.AgreeBut place c c' d') (p : Path) : d'.target? p = d.target? p := by
  rw [target?, target?, h.start_eq, h.tree.walk?_eq]
  simp only [h.tree.isDirectory_eq]

theorem AgreeBut.fault?_eq (h : d.AgreeBut place c c' d') : d'.fault? = d.fault? := by
  rw [fault?, fault?, h.faults_eq]

theorem AgreeBut.proceed (h : d.AgreeBut place c c' d') : d.proceed.AgreeBut place c c' d'.proceed where
  workingDirectory_eq := h.workingDirectory_eq
  faults_eq := by rw [Disk.proceed, Disk.proceed, h.faults_eq]
  tree := h.tree

theorem AgreeBut.put (h : d.AgreeBut place c c' d') (target : Place) (node : Node) :
    (d.put target node).AgreeBut place c c' (d'.put target node) where
  workingDirectory_eq := h.workingDirectory_eq
  faults_eq := h.faults_eq
  tree := h.tree.set target node

/-- A text is written to a path on both disks with the same result. -/
theorem AgreeBut.write (h : d.AgreeBut place c c' d') (p : Path) (text : String) :
    (d'.write p text).1 = (d.write p text).1 ∧ (d.write p text).2.AgreeBut place c c' (d'.write p text).2 := by
  rw [Disk.write, Disk.write, h.target?_eq, h.fault?_eq]
  split
  · exact ⟨rfl, h⟩
  · split
    · exact ⟨rfl, h.proceed.put _ _⟩
    · exact ⟨rfl, h.proceed⟩
    · split
      · exact ⟨rfl, h.proceed.put _ _⟩
      · exact ⟨rfl, h.proceed.put _ _⟩

theorem AgreeBut.clearWay (h : d.AgreeBut place c c' d') (start : Place) (names : List String) :
    (d'.clearWay start names).1 = (d.clearWay start names).1 ∧
      (d.clearWay start names).2.AgreeBut place c c' (d'.clearWay start names).2 := by
  induction names generalizing d d' start with
  | nil => exact ⟨by rw [Disk.clearWay, Disk.clearWay, h.tree.isDirectory_eq], h⟩
  | cons name names ih =>
    rw [Disk.clearWay, Disk.clearWay, h.tree.isDirectory_eq, h.fault?_eq]
    split
    · dsimp only
      rcases h.tree.cases (FileTree.step start name) with ⟨-, hfile, hfile'⟩ | heq
      · rw [hfile, hfile']
        exact ih h _
      · rw [heq]
        split
        · exact ih h _
        · exact ih (h.proceed.put _ _) _
        · exact ⟨rfl, h.proceed⟩
    · exact ⟨rfl, h⟩

theorem AgreeBut.makeDirectories (h : d.AgreeBut place c c' d') (p : Path) :
    (d'.makeDirectories p).1 = (d.makeDirectories p).1 ∧
      (d.makeDirectories p).2.AgreeBut place c c' (d'.makeDirectories p).2 := by
  rw [Disk.makeDirectories, Disk.makeDirectories, h.start_eq]
  split
  · exact h.clearWay (d.start p) p.names
  · exact ⟨rfl, h⟩

end Disk

end TypedTemplates
