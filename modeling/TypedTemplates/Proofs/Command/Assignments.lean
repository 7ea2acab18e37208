import TypedTemplates.Command.Arguments
import Mathlib.Data.List.Forall2
import Mathlib.Data.List.TakeWhile

/-!
# Assignments among the arguments

A text gives a value to a name if the name, with or without blanks around it, stands before its first equals sign and
the value after it. The assignments of a request to render are given by the values of the option for variables, in the
order of the arguments (`Request.isGivenBy_of_ofArguments`): none is left out, and none comes from elsewhere.
-/

namespace TypedTemplates

namespace Assignment

/-- The text before the first equals sign is the name, perhaps with blanks around it, and the text after it is the
value. -/
def IsGivenBy (a : Assignment) (text : String) : Prop :=
  ∃ spaced, text.toList = spaced ++ '=' :: a.value.toList ∧ '=' ∉ spaced ∧ Text.trim spaced = a.name.toList ∧
    a.name ≠ ""

theorem ofArgument?_eq_some_iff {text : String} {a : Assignment} :
    ofArgument? text = some a ↔ a.IsGivenBy text := by
  constructor
  · intro h
    have hcut := List.takeWhile_append_dropWhile (p := (· ≠ '=')) (l := text.toList)
    have hfree : '=' ∉ text.toList.takeWhile (· ≠ '=') := by
      intro hm
      simpa using List.mem_takeWhile_imp hm
    simp only [ofArgument?] at h
    split at h
    · cases h
    · next c value hdrop =>
      have hc : c = '=' := by
        have hhead := List.head_dropWhile_not (· ≠ '=') (l := text.toList) (by rw [hdrop]; exact List.cons_ne_nil _ _)
        simpa only [hdrop, List.head_cons, decide_eq_false_iff_not, not_not] using hhead
      rw [hdrop, hc] at hcut
      simp only [Option.ite_none_left_eq_some, Option.some.injEq] at h
      obtain ⟨hname, rfl⟩ := h
      refine ⟨_, by simpa using hcut.symm, hfree, by simp, ?_⟩
      simpa using hname
  · rintro ⟨spaced, htext, hfree, hname, hne⟩
    have hpass : ∀ c ∈ spaced, decide (c ≠ '=') = true := by
      intro c hc
      simpa using fun he : c = '=' => hfree (he ▸ hc)
    have hdrop : text.toList.dropWhile (· ≠ '=') = '=' :: a.value.toList := by
      rw [htext, List.dropWhile_append_of_pos hpass]
      simp
    have htake : text.toList.takeWhile (· ≠ '=') = spaced := by
      rw [htext, List.takeWhile_append_of_pos hpass]
      simp
    simp only [ofArgument?, hdrop, htake, hname]
    simp [hne]

end Assignment

namespace Token

/-- The text of an assignment. -/
def assignment? : Token → Option String
  | .valued .var text => some text
  | _ => none

/-- The texts of the assignments among arguments. -/
def assignmentsOf (arguments : List String) : List String :=
  (ofArguments arguments).filterMap assignment?

end Token

namespace Given

theorem assignments_of_giveFlag {g g' : Given} {f : Flag} (h : g.giveFlag f = .ok g') :
    g'.assignments = g.assignments := by
  unfold giveFlag at h
  split at h
  · split at h
    · cases h
    · cases h
      rfl
  · split at h
    · cases h
    · cases h
      rfl
  · cases h
    rfl
  · cases h
    rfl

/-- A value adds the assignment that it gives, if it is for that. -/
theorem exists_of_giveValue {g g' : Given} {option : Valued} {value : String} (h : g.giveValue option value = .ok g') :
    ∃ given, g'.assignments = g.assignments ++ given ∧
      List.Forall₂ Assignment.IsGivenBy given (Token.valued option value).assignment?.toList := by
  cases option with
  | config =>
    simp only [giveValue] at h
    cases hp : path g.configPath? value with
    | error e =>
      rw [hp] at h
      cases h
    | ok p =>
      rw [hp] at h
      cases h
      exact ⟨[], by simp, .nil⟩
  | store =>
    simp only [giveValue] at h
    cases hp : path g.storePath? value with
    | error e =>
      rw [hp] at h
      cases h
    | ok p =>
      rw [hp] at h
      cases h
      exact ⟨[], by simp, .nil⟩
  | var =>
    simp only [giveValue] at h
    split at h
    · next a ha =>
      cases h
      exact ⟨[a], rfl, .cons (Assignment.ofArgument?_eq_some_iff.1 ha) .nil⟩
    · cases h

theorem assignments_of_command {g : Given} {name : CommandName} {file : Path} {assignments : List Assignment}
    {batch asJson : Bool} (h : g.command name = .ok (.render file assignments batch asJson)) :
    assignments = g.assignments := by
  unfold command at h
  split at h <;> cases h
  rfl

end Given

namespace Request

variable {before g : Given} {name : CommandName} {invocation : Invocation} {file : Path}
  {assignments : List Assignment} {batch asJson : Bool}

/-- Where a request comes of them, the first of the tokens adds the assignment that it is, if it is one. -/
theorem exists_of_ofCommand_cons {token : Token} {rest : List Token}
    (h : ofCommand before name g (token :: rest) = .ok (.run invocation)) :
    ∃ g' given, ofCommand before name g' rest = .ok (.run invocation) ∧ g'.assignments = g.assignments ++ given ∧
      List.Forall₂ Assignment.IsGivenBy given token.assignment?.toList := by
  cases token with
  | valued option value =>
    rw [ofCommand] at h
    split at h
    · split at h
      · next g' hg =>
        obtain ⟨given, hgiven, htexts⟩ := Given.exists_of_giveValue hg
        exact ⟨g', given, h, hgiven, htexts⟩
      · cases h
    · cases h
  | bare option => cases h
  | flag f =>
    by_cases hhelp : f = .help
    · subst hhelp
      cases h
    · rw [ofCommand] at h
      · split at h
        · split at h
          · next g' hg => exact ⟨g', [], h, by rw [Given.assignments_of_giveFlag hg, List.append_nil], .nil⟩
          · cases h
        · cases h
      · exact hhelp
  | word w =>
    rw [ofCommand] at h
    split at h
    · split at h
      · cases h
      · exact ⟨_, [], h, by rw [List.append_nil], .nil⟩
    · cases h
  | ending => exact ⟨g, [], h, by rw [List.append_nil], .nil⟩
  | unknown argument => cases h

theorem exists_of_ofCommand {tokens : List Token} (h : ofCommand before name g tokens = .ok (.run invocation))
    (hcommand : invocation.command = .render file assignments batch asJson) :
    ∃ given, assignments = g.assignments ++ given ∧
      List.Forall₂ Assignment.IsGivenBy given (tokens.filterMap Token.assignment?) := by
  induction tokens generalizing g with
  | nil =>
    rw [ofCommand] at h
    cases hc : g.command name with
    | error e =>
      rw [hc] at h
      cases h
    | ok command =>
      rw [hc] at h
      cases h
      have hrender : g.command name = .ok (.render file assignments batch asJson) := hcommand ▸ hc
      exact ⟨[], by rw [Given.assignments_of_command hrender, List.append_nil], .nil⟩
  | cons token rest ih =>
    obtain ⟨g', first, hrest, hfirst, htext⟩ := exists_of_ofCommand_cons h
    obtain ⟨given, hgiven, htexts⟩ := ih hrest
    refine ⟨first ++ given, by rw [hgiven, hfirst, List.append_assoc], ?_⟩
    have happend : (token :: rest).filterMap Token.assignment? =
        token.assignment?.toList ++ rest.filterMap Token.assignment? := by
      cases htoken : token.assignment? <;> simp [htoken]
    rw [happend]
    exact List.rel_append htext htexts

/-- No assignment stands before the name of the subcommand. -/
theorem isGivenBy_of_ofTokens {tokens : List Token} (h : ofTokens g tokens = .ok (.run invocation))
    (hcommand : invocation.command = .render file assignments batch asJson) :
    List.Forall₂ Assignment.IsGivenBy assignments (tokens.filterMap Token.assignment?) := by
  induction tokens generalizing g with
  | nil => cases h
  | cons token rest ih =>
    cases token with
    | valued option value =>
      by_cases hvar : option = .var
      · subst hvar
        cases h
      · have hnone : (Token.valued option value).assignment? = none := by
          cases option with
          | config => rfl
          | store => rfl
          | var => exact absurd rfl hvar
        rw [List.filterMap_cons_none hnone]
        rw [ofTokens] at h
        · split at h
          · exact ih h
          · cases h
        · exact hvar
    | bare option => cases h
    | flag f => cases f <;> cases h
    | word w =>
      rw [ofTokens] at h
      split at h
      · unfold ofHelp at h
        split at h
        · cases h
        · split at h
          · cases h
          · split at h <;> cases h
        · cases h
      · split at h
        · obtain ⟨given, hgiven, htexts⟩ := exists_of_ofCommand h hcommand
          rw [hgiven]
          exact htexts
        · cases h
    | ending => cases h
    | unknown argument => cases h

/-- The assignments of a request to render are given by the values of the option for variables, in order. -/
theorem isGivenBy_of_ofArguments {arguments : List String} (h : ofArguments arguments = .ok (.run invocation))
    (hcommand : invocation.command = .render file assignments batch asJson) :
    List.Forall₂ Assignment.IsGivenBy assignments (Token.assignmentsOf arguments) :=
  isGivenBy_of_ofTokens h hcommand

end Request

end TypedTemplates
