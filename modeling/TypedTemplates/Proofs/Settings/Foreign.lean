import TypedTemplates.Proofs.Disk.Places
import TypedTemplates.Settings.Document
import TypedTemplates.Store.JsonFile
import Mathlib.Data.List.TakeWhile

/-!
# Settings files are no stores

A text that is a JSON object begins with a brace, after blanks (`Json.head?_of_readTree_object`). No line of a TOML
document does, so a text that is blank, or an object, has no lines (`Toml.eq_nil_of_readLines`), and there are no
settings without a version. So a file of settings is never taken for a store, nor for an empty one.
-/

namespace TypedTemplates

namespace Text

/-- The first character of a text that is no blank, if there is one, is an opening brace. -/
def OpensBrace (cs : List Char) : Prop :=
  ∀ c, (cs.dropWhile isBlank).head? = some c → c = '{'

/-- Blanks at the front make no difference. -/
theorem opensBrace_append {front : List Char} (h : front.all isBlank = true) (cs : List Char) :
    OpensBrace (front ++ cs) ↔ OpensBrace cs := by
  rw [OpensBrace, OpensBrace, List.dropWhile_append_of_pos (List.all_eq_true.1 h)]

theorem OpensBrace.isBlank_or_eq {c : Char} {rest : List Char} (h : OpensBrace (c :: rest)) :
    isBlank c = true ∨ c = '{' := by
  by_cases hc : isBlank c = true
  · exact .inl hc
  · exact .inr (h c (by rw [List.dropWhile_cons_of_neg hc]; rfl))

end Text

/-! ### Objects -/

namespace Json

theorem isBlank_of_isSeparator {c : Char} (h : isSeparator c = true) : Text.isBlank c = true := by
  simp only [isSeparator, Bool.or_eq_true, decide_eq_true_eq] at h
  rcases h with ((rfl | rfl) | rfl) | rfl <;> decide

theorem head?_of_readTree_object {fuel : Nat} {cs rest : List Char} {members : List (List Symbol × Tree)}
    (h : readTree fuel cs = some (.object members, rest)) : (skipSeparators cs).head? = some '{' := by
  cases fuel with
  | zero => cases h
  | succ fuel =>
    rw [readTree] at h
    split at h
    · cases h
    · cases h
    · cases h
    · simp at h
    · split at h
      · cases h
      · simp at h
    · next hbrace =>
      rw [hbrace]
      rfl
    · simp at h

theorem Tree.exists_eq_object {tree : Tree} {v : Value} {root : Keyed Value} (hvalue : tree.value? = some v)
    (hsorted : v.sorted = .object root) : ∃ members, tree = .object members := by
  cases tree with
  | object members => exact ⟨members, rfl⟩
  | null | bool b =>
    cases hvalue
    cases hsorted
  | number literal =>
    obtain ⟨n, -, rfl⟩ := Option.map_eq_some_iff.1 hvalue
    cases hsorted
  | string literal =>
    obtain ⟨s, -, rfl⟩ := Option.map_eq_some_iff.1 hvalue
    cases hsorted
  | array items =>
    rw [Tree.value?] at hvalue
    obtain ⟨vs, -, rfl⟩ := Option.map_eq_some_iff.1 hvalue
    rw [Value.sorted] at hsorted
    cases hsorted

theorem opensBrace_of_head? {cs : List Char} (h : (skipSeparators cs).head? = some '{') : Text.OpensBrace cs := by
  have hfront : ∀ c ∈ cs.takeWhile isSeparator, Text.isBlank c = true := fun c hc =>
    isBlank_of_isSeparator (List.mem_takeWhile_imp hc)
  rw [← List.takeWhile_append_dropWhile (p := isSeparator) (l := cs),
    Text.opensBrace_append (List.all_eq_true.2 hfront)]
  intro c hc
  cases hcs : cs.dropWhile isSeparator with
  | nil =>
    rw [hcs] at hc
    cases hc
  | cons d rest =>
    rw [skipSeparators, hcs, List.head?_cons, Option.some.injEq] at h
    subst h
    rw [hcs, List.dropWhile_cons_of_neg (by decide)] at hc
    exact (Option.some.inj hc).symm

/-- Before its brace an object has nothing but blanks. -/
theorem opensBrace_of_ofText?_object {text : String} {root : Keyed Value}
    (h : Value.ofText? text = some (.object root)) : Text.OpensBrace text.toList := by
  unfold Value.ofText? at h
  cases htree : Tree.ofText? text with
  | none =>
    rw [htree] at h
    cases h
  | some tree =>
    simp only [htree] at h
    split at h
    · obtain ⟨v, hvalue, hsorted⟩ := Option.map_eq_some_iff.1 h
      obtain ⟨members, rfl⟩ := Tree.exists_eq_object hvalue hsorted
      unfold Tree.ofText? at htree
      split at htree
      · next hread =>
        split at htree
        · cases htree
          exact opensBrace_of_head? (head?_of_readTree_object hread)
        · cases htree
      · cases htree
    · cases h

end Json

/-! ### Lines -/

namespace Toml

/-- Letters and digits are between the digit zero and the letter z. -/
theorem toNat_of_isAlphanum {c : Char} (h : c.isAlphanum = true) : 48 ≤ c.toNat ∧ c.toNat ≤ 122 := by
  have hranges : ((decide (65 ≤ c.val ∧ c.val ≤ 90) || (decide (97 ≤ c.val) && decide (c.val ≤ 122))) ||
      (decide (48 ≤ c.val) && decide (c.val ≤ 57))) = true := h
  simp only [Bool.or_eq_true, Bool.and_eq_true, decide_eq_true_eq, UInt32.le_iff_toNat_le] at hranges
  show 48 ≤ c.val.toNat ∧ c.val.toNat ≤ 122
  rcases hranges with (⟨hlow, hhigh⟩ | ⟨hlow, hhigh⟩) | ⟨hlow, hhigh⟩
  · exact ⟨Nat.le_trans (by decide) hlow, Nat.le_trans hhigh (by decide)⟩
  · exact ⟨Nat.le_trans (by decide) hlow, Nat.le_trans hhigh (by decide)⟩
  · exact ⟨Nat.le_trans (by decide) hlow, Nat.le_trans hhigh (by decide)⟩

theorem not_isBare_of_blank {c : Char} (h : Text.isBlank c = true) :
    isBare c = false ∧ c ≠ '[' ∧ c ≠ '"' ∧ c ≠ '\'' := by
  have hne : ∀ d : Char, Text.isBlank d = false → c ≠ d := by
    rintro d hd rfl
    rw [h] at hd
    cases hd
  refine ⟨Bool.eq_false_iff.2 fun hbare => ?_, hne _ (by decide), hne _ (by decide), hne _ (by decide)⟩
  simp only [isBare, Bool.or_eq_true, decide_eq_true_eq] at hbare
  rcases hbare with (hletter | hline) | hhyphen
  · -- no blank is in that range
    have hrange := toNat_of_isAlphanum hletter
    simp only [Text.isBlank, Text.blanks, Text.CodePoints.contains, List.any_cons, List.any_nil, Bool.or_eq_true,
      Bool.and_eq_true, decide_eq_true_eq, Bool.or_false] at h
    omega
  · exact hne _ (by decide) hline
  · exact hne _ (by decide) hhyphen

/-- A line does not begin with a brace, nor with a blank of any kind. -/
theorem readLineContent?_cons {c : Char} (h : Text.isBlank c = true ∨ c = '{') (rest : List Char) :
    readLineContent? (c :: rest) = none := by
  obtain ⟨hbare, hbracket, hquote, hapostrophe⟩ : isBare c = false ∧ c ≠ '[' ∧ c ≠ '"' ∧ c ≠ '\'' := by
    rcases h with h | rfl
    · exact not_isBare_of_blank h
    · decide
  have hkey : readKey? (c :: rest) = none := by
    simp [readKey?, hbare, readLine?, hquote, hapostrophe]
  have hpair : readPair? (c :: rest) = none := by
    simp [readPair?, readDottedKey?, readKeys, maxDepth, hkey]
  simp [readLineContent?, hbracket, hpair]

theorem opensBrace_skipBlanks {cs : List Char} (h : Text.OpensBrace cs) : Text.OpensBrace (skipBlanks cs) := by
  have hfront : ∀ c ∈ cs.takeWhile isBlank, Text.isBlank c = true := by
    intro c hc
    have hblank := List.mem_takeWhile_imp hc
    simp only [isBlank, Bool.or_eq_true, decide_eq_true_eq] at hblank
    rcases hblank with rfl | rfl <;> decide
  rwa [← List.takeWhile_append_dropWhile (p := isBlank) (l := cs),
    Text.opensBrace_append (List.all_eq_true.2 hfront)] at h

/-- What follows an empty line. -/
theorem opensBrace_of_afterNewline? {cs rest : List Char} (h : Text.OpensBrace cs)
    (hafter : afterNewline? cs = some rest) : Text.OpensBrace rest := by
  unfold afterNewline? at hafter
  split at hafter
  · cases hafter
    exact (Text.opensBrace_append (show ['\n'].all Text.isBlank = true by decide) _).1 h
  · cases hafter
    exact (Text.opensBrace_append (show ['\r', '\n'].all Text.isBlank = true by decide) _).1 h
  · cases hafter

theorem eq_nil_of_readLines {fuel : Nat} {cs : List Char} {lines : List Line} (hopen : Text.OpensBrace cs)
    (h : readLines fuel cs = some lines) : lines = [] := by
  induction fuel generalizing cs with
  | zero => cases h
  | succ fuel ih =>
    have hskipped := opensBrace_skipBlanks hopen
    rw [readLines] at h
    cases hcs : skipBlanks cs with
    | nil =>
      rw [show afterLine? cs = some [] by rw [afterLine?, hcs]] at h
      cases h
      rfl
    | cons c rest =>
      rw [hcs] at hskipped
      have hfirst := hskipped.isBlank_or_eq
      have hafter : afterLine? cs = afterNewline? (c :: rest) := by
        have hcomment : c ≠ '#' := by
          rintro rfl
          revert hfirst
          decide
        simp [afterLine?, hcs, hcomment]
      rw [hafter, hcs, readLineContent?_cons hfirst] at h
      split at h
      · cases h
        rfl
      · next hnext => exact ih (opensBrace_of_afterNewline? hskipped hnext) h
      · cases h

theorem eq_nil_of_document? {text : String} {members : Keyed Value} (hopen : Text.OpensBrace text.toList)
    (h : document? text = some members) : members = [] := by
  simp only [document?, Option.bind_eq_bind, Option.bind_eq_some_iff, Option.pure_def, Option.some.injEq] at h
  obtain ⟨lines, hlines, state, hstate, rfl⟩ := h
  split at hlines
  · next hmark =>
    -- a byte order mark is no blank
    rw [hmark] at hopen
    exact absurd hopen.isBlank_or_eq (by decide)
  · have hnil := eq_nil_of_readLines hopen hlines
    subst hnil
    cases hstate
    rfl

end Toml

/-- A text of settings is neither blank nor an object. -/
theorem SettingsDocument.not_opensBrace_of_ofText? {text : String} {document : SettingsDocument}
    (h : ofText? text = some document) : ¬ Text.OpensBrace text.toList := by
  intro hopen
  obtain ⟨members, hmembers, hdocument⟩ := Option.bind_eq_some_iff.1 h
  have hnil := Toml.eq_nil_of_document? hopen hmembers
  subst hnil
  cases hdocument

/-- A file of settings is no store under any key. -/
theorem JsonFileStore.load_of_settings {disk : Disk} {path : Path} {text : String} {document : SettingsDocument}
    (hread : disk.read path = .ok text) (hdocument : SettingsDocument.ofText? text = some document) (key : String) :
    load disk path key = .error (.parse path) := by
  have hnot := SettingsDocument.not_opensBrace_of_ofText? hdocument
  have hblank : text.toList.all Text.isBlank = false := by
    refine Bool.eq_false_iff.2 fun hall => hnot ?_
    rw [List.all_eq_true] at hall
    intro c hc
    rw [List.dropWhile_eq_nil_iff.2 hall] at hc
    cases hc
  have hobject : ofText? path key text = none := by
    unfold ofText?
    split
    · next root hvalue => exact absurd (Json.opensBrace_of_ofText?_object hvalue) hnot
    · rfl
  rw [load, if_pos (Disk.contains_of_read hread), hread]
  simp only [hblank, Bool.false_eq_true, if_false, hobject]

end TypedTemplates
