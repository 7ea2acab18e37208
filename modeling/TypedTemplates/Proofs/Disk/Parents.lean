import TypedTemplates.Proofs.Disk.Files

/-!
# Directories above a path

A path has the names of its parent and one more (`Path.exists_names_eq`). Every node stands in a directory
(`FileTree.Rooted`), also after a file has been written or directories have been made (`Disk.rooted_write`,
`Disk.rooted_makeDirectories`). So nothing is below a place at which nothing is, and the directories that are made
above a path bring nothing to light: the path leads where it led before (`Disk.look?_makeDirectories`). That needs every
`..` in the path to be taken from a directory that was there, since it may lead back from one that has just been made.
-/

namespace TypedTemplates

theorem Text.splitOn_append (mark : Char) (before after : List Char) :
    splitOn mark (before ++ mark :: after) = splitOn mark before ++ splitOn mark after := by
  induction before with
  | nil => simp [splitOn]
  | cons c rest ih =>
    rw [List.cons_append, splitOn, splitOn]
    by_cases hc : c = mark
    · rw [if_pos hc, if_pos hc, ih, List.cons_append]
    · rw [if_neg hc, if_neg hc, ih]
      cases hr : splitOn mark rest with
      | nil => exact absurd hr (splitOn_ne_nil mark rest)
      | cons part parts => rfl

theorem Text.splitOn_of_not_mem {mark : Char} {cs : List Char} (h : mark ∉ cs) : splitOn mark cs = [cs] := by
  induction cs with
  | nil => rfl
  | cons c rest ih =>
    rw [List.mem_cons, not_or] at h
    rw [splitOn, if_neg (Ne.symm h.1), ih h.2]

namespace Path

/-- The names in a text that is a path. -/
def namesIn (cs : List Char) : List String :=
  ((Text.splitOn '/' cs).map String.ofList).filter fun name => name ≠ "" && name ≠ "."

theorem namesIn_append (before after : List Char) :
    namesIn (before ++ '/' :: after) = namesIn before ++ namesIn after := by
  rw [namesIn, Text.splitOn_append, List.map_append, List.filter_append, namesIn, namesIn]

theorem namesIn_of_not_mem {cs : List Char} (hslash : '/' ∉ cs) (hne : cs ≠ []) (hpoint : cs ≠ ['.']) :
    namesIn cs = [String.ofList cs] := by
  have hname : String.ofList cs ≠ "" ∧ String.ofList cs ≠ "." := by
    constructor
    · exact fun h => hne (String.ofList_injective (h.trans rfl))
    · exact fun h => hpoint (String.ofList_injective (h.trans rfl))
  simp [namesIn, Text.splitOn_of_not_mem hslash, hname]

theorem namesIn_concat (cs : List Char) : namesIn (cs ++ ['/']) = namesIn cs := by
  rw [namesIn_append]
  exact List.append_nil _

theorem namesIn_reverse_dropEnding (cs : List Char) : namesIn (dropEnding cs).reverse = namesIn cs.reverse := by
  fun_induction dropEnding cs with
  | case1 => rfl
  | case2 rest _ ih => rw [ih, List.reverse_cons, namesIn_concat]
  | case3 rest ih =>
    have hpoint : namesIn (rest.reverse ++ '/' :: ['.']) = namesIn rest.reverse ++ [] := namesIn_append _ _
    rw [ih, List.reverse_cons, List.reverse_cons, List.reverse_cons, namesIn_concat, List.append_assoc]
    exact (hpoint.trans (List.append_nil _)).symm
  | case4 => rfl

theorem getLast?_dropEnding (cs : List Char) : (dropEnding cs).getLast? = cs.getLast? := by
  fun_induction dropEnding cs with
  | case1 => rfl
  | case2 rest hne ih =>
    cases rest with
    | nil => exact absurd rfl hne
    | cons c cs => rw [ih, List.getLast?_cons_cons]
  | case3 rest ih => rw [ih, List.getLast?_cons_cons]
  | case4 => rfl

/-- What is left has a name at its end, or is the root. -/
theorem dropEnding_ne_cons (cs : List Char) : dropEnding cs ≠ ['/'] →
    (∀ rest, dropEnding cs ≠ '/' :: rest) ∧ ∀ rest, dropEnding cs ≠ '.' :: '/' :: rest := by
  fun_induction dropEnding cs with
  | case1 => exact fun h => absurd rfl h
  | case2 rest _ ih => exact ih
  | case3 rest ih => exact ih
  | case4 cs hroot hslash hpoint => exact fun h => ⟨fun rest hcs => hslash rest hcs, fun rest hcs => hpoint rest hcs⟩

theorem exists_dropWhile_eq {cs : List Char} (h : cs.dropWhile (· ≠ '/') ≠ []) :
    ∃ name rest, cs = name ++ '/' :: rest ∧ '/' ∉ name ∧ cs.dropWhile (· ≠ '/') = '/' :: rest := by
  induction cs with
  | nil => exact absurd rfl h
  | cons c cs ih =>
    by_cases hc : c = '/'
    · subst hc
      exact ⟨[], cs, rfl, List.not_mem_nil, rfl⟩
    · rw [List.dropWhile_cons_of_pos (by simpa using hc)] at h ⊢
      obtain ⟨name, rest, rfl, hname, hrest⟩ := ih h
      exact ⟨c :: name, rest, rfl, by simp [hname, Ne.symm hc], hrest⟩

/-- The names of a path are those of its parent and one more. -/
theorem exists_names_eq {p parent : Path} (h : p.parent? = some parent) (hne : parent.text ≠ "") :
    parent.isAbsolute = p.isAbsolute ∧ ∃ name, p.names = parent.names ++ [name] := by
  have hnames : p.names = namesIn (dropEnding p.text.toList.reverse).reverse := by
    rw [namesIn_reverse_dropEnding, List.reverse_reverse]
    rfl
  have habsolute : p.text.toList.head? = (dropEnding p.text.toList.reverse).getLast? := by
    rw [getLast?_dropEnding, List.getLast?_reverse]
  have hshape := dropEnding_ne_cons p.text.toList.reverse
  unfold parent? at h
  generalize dropEnding p.text.toList.reverse = cs at *
  split at h
  · cases h
  · cases h
  · next hroot =>
    obtain ⟨hstart, hpoint⟩ := hshape hroot
    cases h
    have hslash : cs.dropWhile (· ≠ '/') ≠ [] := by
      intro hnil
      rw [hnil] at hne
      exact hne rfl
    obtain ⟨name, rest, rfl, hname, hrest⟩ := exists_dropWhile_eq hslash
    have hlast : namesIn name.reverse = [String.ofList name.reverse] := by
      refine namesIn_of_not_mem (fun hmem => hname (List.mem_reverse.1 hmem)) ?_ ?_
      · intro hnil
        rw [List.reverse_eq_nil_iff.1 hnil] at hstart
        exact hstart rest rfl
      · intro hsingle
        rw [List.reverse_eq_iff.1 hsingle] at hpoint
        exact hpoint rest rfl
    have hparent : namesIn (dropEnding ('/' :: rest)).reverse = namesIn rest.reverse := by
      rw [namesIn_reverse_dropEnding, List.reverse_cons, namesIn_concat]
    rw [hrest]
    refine ⟨?_, String.ofList name.reverse, ?_⟩
    · have hlast? : (name ++ '/' :: rest).getLast? = ('/' :: rest).getLast? := by
        rw [List.getLast?_append, List.getLast?_cons, Option.some_or]
      rw [isAbsolute, isAbsolute, habsolute, String.toList_ofList, List.head?_reverse, getLast?_dropEnding, hlast?]
    · have hwhole : (name ++ '/' :: rest).reverse = rest.reverse ++ '/' :: name.reverse := by simp
      show p.names = namesIn (String.ofList (dropEnding ('/' :: rest)).reverse).toList ++ _
      rw [hnames, hwhole, namesIn_append, hlast, String.toList_ofList, hparent]

/-- A path without names means the directory from which it starts. -/
theorem meansDirectory_of_names_eq_nil {p : Path} (h : p.names = []) : p.meansDirectory = true := by
  have hparts : ∀ part ∈ Text.splitOn '/' p.text.toList, part = [] ∨ part = ['.'] := by
    intro part hpart
    have hname : ¬(String.ofList part ≠ "" && String.ofList part ≠ ".") = true :=
      List.filter_eq_nil_iff.1 h _ (List.mem_map.2 ⟨part, hpart, rfl⟩)
    by_cases hempty : String.ofList part = ""
    · exact .inl (String.ofList_injective (hempty.trans rfl))
    · exact .inr (String.ofList_injective (Eq.trans (by simpa [hempty] using hname) rfl))
  unfold meansDirectory
  cases hlast : (Text.splitOn '/' p.text.toList).getLast? with
  | none => exact absurd (List.getLast?_eq_none_iff.1 hlast) (Text.splitOn_ne_nil _ _)
  | some part => rcases hparts part (List.mem_of_getLast? hlast) with rfl | rfl <;> rfl

end Path

namespace FileTree

/-- Every node stands in a directory. -/
def Rooted (t : FileTree) : Prop :=
  ∀ entry ∈ t.nodes, t.isDirectory entry.1.dropLast = true

theorem Rooted.isDirectory_dropLast {t : FileTree} (h : t.Rooted) {place : Place} {node : Node}
    (hnode : t.node? place = some node) : t.isDirectory place.dropLast = true := by
  rw [node?] at hnode
  split at hnode
  · next hroot => simp [hroot, isDirectory, node?]
  · obtain ⟨entry, hentry, -⟩ := Option.map_eq_some_iff.1 hnode
    have hplace : entry.1 = place := by simpa using List.find?_some hentry
    exact hplace ▸ h entry (List.mem_of_find?_eq_some hentry)

/-- Nothing is below a place at which nothing is. -/
theorem Rooted.node?_append_eq_none {t : FileTree} (h : t.Rooted) {place : Place} (hplace : t.node? place = none)
    (names : List String) : t.node? (place ++ names) = none := by
  induction names generalizing place with
  | nil => rwa [List.append_nil]
  | cons name names ih =>
    have hnext : t.node? (place ++ [name]) = none := by
      cases hnode : t.node? (place ++ [name]) with
      | none => rfl
      | some node =>
        have hdirectory := h.isDirectory_dropLast hnode
        rw [List.dropLast_concat, isDirectory, hplace] at hdirectory
        cases hdirectory
    rw [List.append_cons]
    exact ih hnext

theorem rooted_set {t : FileTree} (h : t.Rooted) {place : Place} {node : Node}
    (hparent : t.isDirectory place.dropLast = true) (hnode : node = .directory ∨ t.isDirectory place = false) :
    (t.set place node).Rooted := by
  -- what was a directory is one still
  have hkept : ∀ other, t.isDirectory other = true → (t.set place node).isDirectory other = true := by
    intro other hother
    rcases hnode with rfl | hfree
    · exact isDirectory_set_directory hother place
    · have hne : place ≠ other := by
        rintro rfl
        rw [hfree] at hother
        cases hother
      rw [t.isDirectory_set_of_ne node hne, hother]
  intro entry hentry
  rcases List.mem_cons.1 hentry with rfl | hentry
  · exact hkept _ hparent
  · exact hkept _ (h entry (List.mem_filter.1 hentry).1)

/-- A directory that is missing one step on from a directory can be made. -/
theorem Rooted.set_step {t : FileTree} (h : t.Rooted) {place : Place} {name : String}
    (hplace : t.isDirectory place = true) (hnext : t.node? (step place name) = none) :
    (t.set (step place name) .directory).Rooted := by
  refine rooted_set h ?_ (.inl rfl)
  unfold step at hnext ⊢
  split at hnext
  · -- the directory above one that is there is not missing
    have habove := h.isDirectory_dropLast (by simpa [isDirectory] using hplace)
    rw [isDirectory, hnext] at habove
    cases habove
  · next hname => rwa [if_neg hname, List.dropLast_concat]

/-- The last of several names leads one step on from a directory. -/
theorem exists_of_walk?_concat {t : FileTree} {start last : Place} {names : List String} {name : String}
    (h : t.walk? start (names ++ [name]) = some last) :
    ∃ place, t.isDirectory place = true ∧ last = step place name := by
  induction names generalizing start with
  | nil =>
    rw [List.nil_append, walk?] at h
    split at h
    · next hway => exact ⟨start, (Bool.and_eq_true_iff.1 hway).1, (Option.some.inj h).symm⟩
    · cases h
  | cons first names ih =>
    rw [List.cons_append, walk?] at h
    split at h
    · exact ih h
    · cases h

theorem foldl_step_of_not_mem {names : List String} (h : ".." ∉ names) (place : Place) :
    names.foldl step place = place ++ names := by
  induction names generalizing place with
  | nil => exact (List.append_nil place).symm
  | cons name names ih =>
    rw [List.mem_cons, not_or] at h
    rw [List.foldl_cons, ih h.2, step, if_neg (Ne.symm h.1), List.append_assoc]
    rfl

/-- Every `..` among the names is taken from a directory that is there. -/
def Returns (t : FileTree) (start : Place) (names : List String) : Prop :=
  ∀ before after, names = before ++ ".." :: after →
    ∃ place, t.walk? start before = some place ∧ t.isDirectory place = true

theorem returns_of_not_mem (t : FileTree) (start : Place) {names : List String} (h : ".." ∉ names) :
    t.Returns start names := by
  rintro before after rfl
  exact absurd (List.mem_append_right before List.mem_cons_self) h

theorem walk?_eq_none {t : FileTree} {start : Place} (h : t.isDirectory start = false) {names : List String}
    (hne : names ≠ []) : t.walk? start names = none := by
  cases names with
  | nil => exact absurd rfl hne
  | cons name names =>
    rw [walk?, h]
    rfl

end FileTree

namespace Disk

open FileTree (step walk?_eq_none)

/-- Directories are made no deeper than the names go. -/
theorem node?_clearWay_of_length_lt (d : Disk) (start : Place) (names : List String) {place : Place}
    (h : start.length + names.length < place.length) :
    (d.clearWay start names).2.tree.node? place = d.tree.node? place := by
  induction names generalizing d start with
  | nil => rfl
  | cons name names ih =>
    have hstep : (FileTree.step start name).length ≤ start.length + 1 := by
      unfold FileTree.step
      split
      · rw [List.length_dropLast]; omega
      · exact Nat.le_of_eq List.length_append
    have hless : (FileTree.step start name).length + names.length < place.length := by
      rw [List.length_cons] at h
      omega
    rw [clearWay]
    split
    · dsimp only
      split
      · exact ih d _ hless
      · rw [ih _ _ hless, tree_put, d.proceed.tree.node?_set_of_ne, tree_proceed]
        rintro rfl
        omega
      · rfl
    · rfl

/-- Below a directory that is made where nothing was there is nothing that the directories made do not hold. -/
theorem walk?_bind_node?_eq_none {d : Disk} (h : d.tree.Rooted) {start : Place} (hstart : d.tree.node? start = none)
    {names : List String} {name : String} (hplain : ".." ∉ names ++ [name]) :
    let made := ((d.put start .directory).clearWay start names).2.tree
    (made.walk? start (names ++ [name])).bind made.node? = none := by
  intro made
  cases hwalk : made.walk? start (names ++ [name]) with
  | none => rfl
  | some last =>
    have hlast : last = start ++ (names ++ [name]) := by
      rw [FileTree.eq_of_walk? hwalk, FileTree.foldl_step_of_not_mem hplain]
    have hlength : start.length + names.length < last.length := by
      rw [hlast, List.length_append, List.length_append, List.length_singleton]
      omega
    have hne : start ≠ last := by
      rintro rfl
      omega
    rw [Option.bind_some, node?_clearWay_of_length_lt _ _ _ hlength, tree_put, d.tree.node?_set_of_ne _ hne, hlast]
    exact h.node?_append_eq_none hstart _

/-- The directories that are made along the names change nothing about where they lead with one name more. -/
theorem walk?_bind_node?_clearWay {d : Disk} (h : d.tree.Rooted) {start : Place} {names : List String}
    {name : String} (hreturns : d.tree.Returns start (names ++ [name])) :
    ((d.clearWay start names).2.tree.walk? start (names ++ [name])).bind (d.clearWay start names).2.tree.node? =
      (d.tree.walk? start (names ++ [name])).bind d.tree.node? := by
  induction names generalizing start with
  | nil => rfl
  | cons first names ih =>
    by_cases hway : (d.tree.isDirectory start && first.utf8ByteSize ≤ FileTree.maxNameLength) = true
    · obtain ⟨hstart, hfirst⟩ := Bool.and_eq_true_iff.1 hway
      have hstart' := isDirectory_clearWay hstart start (first :: names)
      have hnextReturns : ∀ before after, names ++ [name] = before ++ ".." :: after →
          ∃ place, d.tree.walk? (step start first) before = some place ∧ d.tree.isDirectory place = true := by
        intro before after hnames
        have hbefore := hreturns (first :: before) after (by rw [List.cons_append, hnames, List.cons_append])
        rwa [FileTree.walk?, if_pos hway] at hbefore
      rw [List.cons_append, FileTree.walk?, FileTree.walk?, if_pos hway, if_pos (by rw [hstart', hfirst]; rfl)]
      cases hnext : d.tree.node? (step start first) with
      | some node =>
        have hclear : d.clearWay start (first :: names) = d.clearWay (step start first) names := by
          rw [clearWay, if_pos hway]
          simp only [hnext]
        rw [hclear]
        exact ih hnextReturns
      | none =>
        cases hfault : d.fault? with
        | some fault =>
          have hclear : d.clearWay start (first :: names) = (.error fault.cause, d.proceed) := by
            rw [clearWay, if_pos hway]
            simp only [hnext, hfault]
          rw [hclear, tree_proceed]
        | none =>
          have hclear : d.clearWay start (first :: names) =
              (d.proceed.put (step start first) .directory).clearWay (step start first) names := by
            rw [clearWay, if_pos hway]
            simp only [hnext, hfault]
          have hmissing : d.tree.isDirectory (step start first) = false := by
            rw [FileTree.isDirectory, hnext]
            rfl
          -- no name that is left goes back, since the directory it would be taken from is missing
          have hplain : ".." ∉ names ++ [name] := by
            intro hmem
            obtain ⟨before, after, hnames⟩ := List.append_of_mem hmem
            obtain ⟨place, hwalk, hplace⟩ := hnextReturns before after hnames
            rw [FileTree.isDirectory_of_walk? hwalk hplace] at hmissing
            cases hmissing
          rw [hclear, walk?_eq_none hmissing (by simp), Option.bind_none]
          exact walk?_bind_node?_eq_none (d := d.proceed) h hnext hplain
    · rw [clearWay, if_neg hway]

theorem rooted_makeDirectories {d : Disk} (h : d.tree.Rooted) (p : Path) : (d.makeDirectories p).2.tree.Rooted := by
  unfold makeDirectories
  split
  · exact clearWay_preserves (motive := fun d => d.tree.Rooted) h (fun _ h => h)
      (fun _ _ _ h hplace hnext => h.set_step hplace hnext) _ _
  · exact h

theorem rooted_write {d : Disk} (h : d.tree.Rooted) (p : Path) (text : String) :
    (d.write p text).2.tree.Rooted := by
  rcases d.write_cases p text with ⟨-, htree⟩ | ⟨place, content, hplace, htree, -⟩
  · rwa [htree]
  · obtain ⟨-, hfile, hwalk, hdirectory⟩ := of_target? hplace
    rw [htree]
    refine FileTree.rooted_set h ?_ (.inr hdirectory)
    rcases List.eq_nil_or_concat p.names with hnil | ⟨names, name, hnames⟩
    · rw [Path.meansDirectory_of_names_eq_nil hnil] at hfile
      cases hfile
    · rw [hnames, List.concat_eq_append] at hwalk
      obtain ⟨above, habove, rfl⟩ := FileTree.exists_of_walk?_concat hwalk
      have hname : name ≠ ".." := by
        rintro rfl
        simp [target?, hnames] at hplace
      rwa [step, if_neg hname, List.dropLast_concat]

/-- A path leads where it led before the directories above it were made, be it all of them or only some. -/
theorem look?_makeDirectories {d : Disk} {p parent : Path} (hparent : p.parent? = some parent)
    (hne : parent.text ≠ "") (hrooted : d.tree.Rooted) (hreturns : d.tree.Returns (d.start p) p.names) :
    (d.makeDirectories parent).2.look? p = d.look? p := by
  obtain ⟨habsolute, name, hnames⟩ := Path.exists_names_eq hparent hne
  have hstart : d.start parent = d.start p := by rw [start, start, habsolute]
  rw [makeDirectories]
  split
  · have hstart' := start_congr (d.workingDirectory_clearWay (d.start p) parent.names) p
    have hplace := walk?_bind_node?_clearWay hrooted (hnames ▸ hreturns)
    simp only [look?, hstart, hstart', hnames, hplace]
  · rfl

end Disk

end TypedTemplates
