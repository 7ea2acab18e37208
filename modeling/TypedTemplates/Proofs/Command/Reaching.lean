import TypedTemplates.Proofs.Command.Prompts
import TypedTemplates.Proofs.Template.Spacing

/-!
# Which variables assignments reach

The name of a variable has no blanks at its ends and is not empty (`Template.trim_name_of_parse`). An argument can give
a value to any such name but those with an equals sign (`Assignment.exists_isGivenBy_iff`), and the name, an equals sign
and the value are an argument that does. Whatever the terminal, prompts then change only variables that are empty when
all assignments have been made (`RenderRun.SavesSucceed.value?_filled`). So the last value for a name stays, unless it is
empty and there are prompts.
-/

namespace TypedTemplates

open Template (Declaration declarations parse seeded)

/-! ### Names that arguments can give -/

theorem Template.trim_name_of_parse {template : String} {prior : String → Option String} {vs : VariableSet}
    {name : String} (hparse : parse template prior = .ok vs) (hname : name ∈ vs.names) :
    Text.trim name.toList = name.toList ∧ name ≠ "" := by
  obtain ⟨ds, hd, rfl⟩ := parse_eq_ok_iff.1 hparse
  rw [names_seeded, List.mem_eraseDups] at hname
  rcases declarationsOf_eq_ok_iff.1 hd with ⟨-, -, rfl⟩ | ⟨l, -, hl, -, hds⟩
  · cases hname
  · rw [← map_varName_eq hds] at hname
    obtain ⟨m, hm, rfl⟩ := List.mem_map.1 hname
    refine ⟨by rw [Mark.varName, String.toList_ofList, Text.trim_trim], fun hempty => ?_⟩
    have hnil := congrArg String.toList hempty
    rw [Mark.varName, String.toList_ofList] at hnil
    exact (hl.valid m hm).name_ne_nil hnil

namespace Assignment

/-- The name, an equals sign and the value. -/
def argument (a : Assignment) : String :=
  a.name ++ "=" ++ a.value

theorem toList_argument (a : Assignment) : a.argument.toList = a.name.toList ++ '=' :: a.value.toList := by
  rw [argument, String.toList_append, String.toList_append, List.append_assoc]
  rfl

/-- There is an argument for a name just if it is not empty, has no blanks at its ends and no equals sign. -/
theorem exists_isGivenBy_iff {a : Assignment} :
    (∃ text, a.IsGivenBy text) ↔
      '=' ∉ a.name.toList ∧ Text.trim a.name.toList = a.name.toList ∧ a.name ≠ "" := by
  constructor
  · rintro ⟨text, spaced, -, hfree, hname, hne⟩
    rw [← hname, Text.mem_trim_iff (by decide)]
    exact ⟨hfree, Text.trim_trim spaced, hne⟩
  · rintro ⟨hfree, hname, hne⟩
    exact ⟨a.argument, a.name.toList, a.toList_argument, hfree, hname, hne⟩

theorem ofArgument?_argument {a : Assignment} (hfree : '=' ∉ a.name.toList)
    (hname : Text.trim a.name.toList = a.name.toList) (hne : a.name ≠ "") : ofArgument? a.argument = some a :=
  ofArgument?_eq_some_iff.2 ⟨a.name.toList, a.toList_argument, hfree, hname, hne⟩

theorem eq_filterMap_of_isGivenBy {given : List Assignment} {texts : List String}
    (h : List.Forall₂ IsGivenBy given texts) : given = texts.filterMap ofArgument? := by
  induction h with
  | nil => rfl
  | cons hfirst _ ih => rw [List.filterMap_cons_some (ofArgument?_eq_some_iff.2 hfirst), ← ih]

end Assignment

/-- The last assignment to a name is the one that no other assignment to it follows. -/
theorem lastAssigned_append_cons {a : Assignment} (earlier : List Assignment) {later : List Assignment}
    (h : ∀ b ∈ later, b.name ≠ a.name) : lastAssigned (earlier ++ a :: later) a.name = some a.value := by
  have hlater : (later.filter fun b => b.name = a.name) = [] := by
    simpa [List.filter_eq_nil_iff] using h
  rw [lastAssigned, List.filter_append, List.filter_cons_of_pos (by simp), hlater, List.getLast?_concat]
  rfl

namespace Token

theorem read_of_not_looksLikeOption {argument : String} (h : looksLikeOption argument = false) :
    read argument = .inl (.word argument) := by
  unfold looksLikeOption at h
  unfold read
  split at h
  · cases h
  · next hlook =>
    split
    · next hcs => exact absurd hcs (hlook _ _)
    · next hcs => exact absurd hcs (hlook _ _)
    · next hcs => exact absurd hcs (hlook _ _)
    · next hcs => exact absurd hcs (hlook _ _)
    · next hcs => exact absurd hcs (hlook _ _)
    · rfl

theorem read_var_append (text : String) : read ("--var=" ++ text) = .inl (.valued .var text) := by
  have hlist : ("--var=" ++ text).toList = '-' :: '-' :: 'v' :: 'a' :: 'r' :: '=' :: text.toList := by
    rw [String.toList_append]
    rfl
  simp [read, hlist, Text.splitAt?, valued?]

/-- An argument after the name of its option, or in one with it, is the value of the option. -/
theorem ofArguments_var (text : String) (rest : List String) :
    ofArguments (("--var=" ++ text) :: rest) = .valued .var text :: ofArguments rest ∧
      (looksLikeOption text = false →
        ofArguments ("--var" :: text :: rest) = .valued .var text :: ofArguments rest) := by
  refine ⟨by simp only [ofArguments, read_var_append], fun h => ?_⟩
  have hvar : read "--var" = .inr .var := by decide
  simp only [ofArguments, hvar, h, Bool.false_eq_true, if_false]

theorem ofArguments_word {word : String} (h : looksLikeOption word = false) (rest : List String) :
    ofArguments (word :: rest) = .word word :: ofArguments rest := by
  simp only [ofArguments, read_of_not_looksLikeOption h]

end Token

/-- The argument of an assignment makes a request with the name of a file to be rendered. After the name of its option
it must not look like one. -/
theorem Request.ofArguments_render {file : String} {a : Assignment} (hfile : file ≠ "")
    (hword : Token.looksLikeOption file = false) (h : Assignment.ofArgument? a.argument = some a) :
    let request : Request := .run ⟨none, none, .render ⟨file⟩ [a] false false⟩
    ofArguments ["render", file, "--var=" ++ a.argument] = .ok request ∧
      (Token.looksLikeOption a.argument = false →
        ofArguments ["render", file, "--var", a.argument] = .ok request) := by
  intro request
  have htokens : ofTokens {} [.word "render", .word file, .valued .var a.argument] = .ok request := by
    have hname : CommandName.ofText? "render" = some .render := by decide
    simp [request, ofTokens, hname, ofCommand, hfile, CommandName.takesFile, CommandName.takesValued,
      Given.giveValue, h, Given.command, Except.map]
  obtain ⟨hjoined, happart⟩ := Token.ofArguments_var a.argument []
  refine ⟨?_, fun hlook => ?_⟩
  · rw [ofArguments, Token.ofArguments_word (by decide), Token.ofArguments_word hword, hjoined]
    exact htokens
  · rw [ofArguments, Token.ofArguments_word (by decide), Token.ofArguments_word hword, happart hlook]
    exact htokens

namespace Command

/-! ### Renderings change what is empty only -/

/-- At any terminal a rendering whose saves succeed keeps the values that there are when all changes have been made. If no
prompt fails, it writes the template with these. -/
theorem Ready.render_filled {disk : Disk} {settings : Settings} {file : Path} {template : String} {s : JsonFileStore}
    {ds : List Declaration} (h : Ready disk settings file template s ds) {assignments : List Assignment}
    {batch : Bool} {terminal shown : Terminal} (hshown : (if batch then .absent else terminal) = shown)
    (hsaves : SavesSucceed disk s template (changes assignments shown (seeded s.value? ds))) (asJson : Bool) :
    let vars := seeded s.value? ds
    let filled := vars.assignAll (changes assignments shown vars)
    let o := render disk terminal settings file assignments batch asJson
    (¬ shown.Fails (vars.assignAll assignments).unfilled.length →
      o.exitCode = 0 ∧ o.output = printed template filled asJson) ∧
    o.disk.workingDirectory = disk.workingDirectory ∧ o.disk.read s.path = .ok ((s.root filled).text .indented) := by
  subst hshown
  intro vars filled o
  rcases h.render_cases assignments asJson batch terminal with
    ⟨r, ho, hsaved, hvars, -⟩ | ⟨begun, r, -, ho, hfails, hsaved, hvars⟩ |
      ⟨error, r, -, -, done, a, hbegins, -, hstops, -⟩
  · have hfilled : r.engine.vars = filled := hvars
    rw [show o = r.finished asJson from ho, ← hfilled]
    exact ⟨fun _ => ⟨rfl, output_finished hsaved asJson⟩, hsaved.workingDirectory_eq, hsaved.read_eq⟩
  · have hfilled : r.engine.vars = filled := hvars
    rw [show o = r.failed _ from ho, ← hfilled]
    exact ⟨fun hnot => absurd hfails hnot, hsaved.workingDirectory_eq, hsaved.read_eq⟩
  · exact absurd (hsaves.of_isPrefix hbegins) hstops

namespace RenderRun

variable {host : Host} {arguments : List String} (run : RenderRun host arguments)

/-- The assignments are those that the arguments give. -/
theorem assignments_eq : run.assignments = (Token.assignmentsOf arguments).filterMap Assignment.ofArgument? :=
  Assignment.eq_filterMap_of_isGivenBy (Request.isGivenBy_of_ofArguments run.asks run.command_eq)

/-- Prompts are shown. -/
def Prompts : Prop :=
  run.batch = false ∧ host.terminal ≠ .absent

variable {run}

theorem Prompts.shown_eq (h : run.Prompts) : run.shown = host.terminal :=
  if_neg (by rw [h.1]; exact Bool.false_ne_true)

theorem shown_of_not_prompts (h : ¬ run.Prompts) : run.shown = .absent := by
  unfold shown
  split
  · rfl
  · next hbatch => exact Classical.byContradiction fun hshown => h ⟨Bool.eq_false_iff.2 hbatch, hshown⟩

/-- The variables when all changes have been made. -/
def filled (run : RenderRun host arguments) : VariableSet :=
  run.vars.assignAll run.changes

theorem signature_filled (run : RenderRun host arguments) : run.filled.signature = run.vars.signature :=
  VariableSet.signature_assignAll _ _

section SavesSucceed

variable (hsaves : run.SavesSucceed)
include hsaves

/-- If the saves succeed, the variables that the run prompts for are those that the assignments leave empty. -/
theorem SavesSucceed.questions_eq (hprompts : run.Prompts) :
    questions host run.invocation = (run.vars.assignAll run.assignments).unfilled := by
  obtain ⟨ds, hd, hvars⟩ := run.exists_declarations
  have hready := Command.SavesSucceed.ready hsaves run.prepare_eq hd
  obtain ⟨r, huntil, -⟩ := hready.untilPrompts_eq run.assignments run.asJson hsaves
  rw [questions_eq_missing run.start_eq (hprompts.1 ▸ run.command_eq) huntil, hready.missing_eq huntil, hvars]

theorem SavesSucceed.not_fails (hnot : ¬ CutShort host run.invocation) :
    ¬ run.shown.Fails (run.vars.assignAll run.assignments).unfilled.length := by
  by_cases h : run.Prompts
  · rw [h.shown_eq, ← hsaves.questions_eq h]
    exact hnot
  · rw [shown_of_not_prompts h]
    rintro ⟨lines, hlines, -⟩
    cases hlines

/-- A run whose saves succeed keeps the values that there are when all changes have been made. If no prompt fails, it
writes the template with these. -/
theorem SavesSucceed.outcome_filled :
    (¬ CutShort host run.invocation →
      (Command.run host arguments).exitCode = 0 ∧
        (Command.run host arguments).output = printed run.template run.filled run.asJson) ∧
    (LogElsewhere run.settings.logging host.disk run.settings.storePath →
      (Command.run host arguments).disk.read run.settings.storePath =
        .ok ((run.kept.root run.filled).text .indented)) := by
  obtain ⟨ds, hd, hvars⟩ := run.exists_declarations
  have hready := Command.SavesSucceed.ready hsaves run.prepare_eq hd
  have hchanges : SavesSucceed run := hsaves
  rw [RenderRun.SavesSucceed, changes, hvars] at hchanges
  obtain ⟨hdone, hdirectory, hread⟩ := hready.render_filled rfl hchanges run.asJson
  have hfilled : (seeded run.kept.value? ds).assignAll
      (Command.changes run.assignments run.shown (seeded run.kept.value? ds)) = run.filled := by
    rw [filled, changes, hvars]
  rw [run.exitCode_eq, run.output_eq]
  refine ⟨fun hnot => ?_, fun hlog => ?_⟩
  · have hnot := hsaves.not_fails hnot
    rw [hvars] at hnot
    rw [← hfilled]
    exact hdone hnot
  · rw [Disk.read_congr (run.look?_outcome hlog rfl hdirectory), ← run.path_eq, ← hfilled]
    exact hread

/-- All variables have their final values in the end, but for the empty ones that the run prompts for. -/
theorem SavesSucceed.value?_filled {name : String} (hname : name ∈ run.vars.names) :
    let final := finalValue run.assignments run.kept.value? name
    (final ≠ "" ∨ ¬ run.Prompts → run.filled.value? name = some final) ∧
    (final = "" → run.Prompts → ∃ k : Nat, ((questions host run.invocation).map (·.name))[k]? = some name ∧
      (¬ CutShort host run.invocation → run.filled.value? name = some (host.terminal.lines[k]?.getD ""))) := by
  intro final
  obtain ⟨ds, -, hvars⟩ := run.exists_declarations
  let assigned := run.vars.assignAll run.assignments
  have hgaps : assigned.unfilled.map (·.name) = gaps run.assignments run.kept.value? run.vars.names := by
    show (run.vars.assignAll run.assignments).unfilled.map (·.name) = _
    rw [hvars]
    exact map_name_unfilled_seeded run.assignments run.kept.value? ds
  have hvalue : assigned.value? name = some final := by
    show (run.vars.assignAll run.assignments).value? name = _
    rw [hvars] at hname ⊢
    exact value?_assignAll_of_mem run.assignments run.kept.value? ds hname
  have hfilled : run.filled = assigned.assignAll (answersTo (run.shown.asked assigned.unfilled) run.shown.lines) :=
    VariableSet.assignAll_append _ _ _
  rw [hfilled]
  refine ⟨fun hkept => ?_, fun hempty hprompts => ?_⟩
  · rw [VariableSet.value?_assignAll, hvalue, lastAssigned_answersTo_of_not_mem]
    · rfl
    · intro hmem
      rcases hkept with hfull | hsilence
      · have hgap := ((run.shown.asked_prefix assigned.unfilled).map (·.name)).subset hmem
        rw [hgaps] at hgap
        exact hfull (by simpa using (List.mem_filter.1 hgap).2)
      · rw [shown_of_not_prompts hsilence, Terminal.asked_absent] at hmem
        cases hmem
  · have hgap : name ∈ gaps run.assignments run.kept.value? run.vars.names :=
      List.mem_filter.2 ⟨hname, by simpa using hempty⟩
    rw [← hgaps] at hgap
    obtain ⟨k, hk⟩ := List.mem_iff_getElem?.1 hgap
    refine ⟨k, by rw [hsaves.questions_eq hprompts]; exact hk, fun hnot => ?_⟩
    have hnodup : (assigned.unfilled.map (·.name)).Nodup := by
      rw [hgaps]
      exact run.vars.nodup_names.filter _
    have hall : run.shown.asked assigned.unfilled = assigned.unfilled :=
      Terminal.asked_of_not_fails (by rw [hprompts.shown_eq]; exact hprompts.2) (hsaves.not_fails hnot)
    rw [VariableSet.value?_assignAll, hvalue, hall, lastAssigned_answersTo hnodup _ hk, hprompts.shown_eq]
    rfl

end SavesSucceed

end RenderRun

/-- Take any template, a name that it declares and a value. An argument gives the value to the name just if there is no
equals sign in the name, and then the name, an equals sign and the value are such an argument, which is taken as one.
In any run that renders the template, in which every save succeeds and it is the last argument for the name, the name
has the value when all assignments have been made. It keeps it to the end, unless it is empty and there are prompts: then
the name is prompted for, and gets the answer. What the names have in the end is what is written if no prompt fails, and
what is kept if the log is not where the store is. -/
theorem assignment_reaches_name {template : String} {prior : String → Option String} {declared : VariableSet}
    {a : Assignment} (hparse : parse template prior = .ok declared) (hname : a.name ∈ declared.names) :
    ((∃ argument, Assignment.ofArgument? argument = some a) ↔ '=' ∉ a.name.toList) ∧
    ('=' ∉ a.name.toList →
      Assignment.ofArgument? a.argument = some a ∧
      (∀ file, file ≠ "" → Token.looksLikeOption file = false →
        let request : Request := .run ⟨none, none, .render ⟨file⟩ [a] false false⟩
        Request.ofArguments ["render", file, "--var=" ++ a.argument] = .ok request ∧
        (Token.looksLikeOption a.argument = false →
          Request.ofArguments ["render", file, "--var", a.argument] = .ok request)) ∧
      ∀ (host : Host) (arguments earlier later : List String) (run : RenderRun host arguments),
        run.template = template → Token.assignmentsOf arguments = earlier ++ a.argument :: later →
        (∀ b ∈ later.filterMap Assignment.ofArgument?, b.name ≠ a.name) → run.SavesSucceed →
        let o := Command.run host arguments
        (∃ r, untilPrompts run.opened run.settings run.file run.assignments run.asJson = .ok r ∧
          r.engine.vars.value? a.name = some a.value) ∧
        run.filled.signature = run.vars.signature ∧
        (a.value ≠ "" ∨ ¬ run.Prompts → run.filled.value? a.name = some a.value) ∧
        (a.value = "" → run.Prompts → ∃ k : Nat,
          ((questions host run.invocation).map (·.name))[k]? = some a.name ∧
          (¬ CutShort host run.invocation → run.filled.value? a.name = some (host.terminal.lines[k]?.getD ""))) ∧
        (¬ CutShort host run.invocation →
          o.exitCode = 0 ∧ o.output = printed run.template run.filled run.asJson) ∧
        (LogElsewhere run.settings.logging host.disk run.settings.storePath →
          o.disk.read run.settings.storePath = .ok ((run.kept.root run.filled).text .indented))) := by
  obtain ⟨htrim, hne⟩ := Template.trim_name_of_parse hparse hname
  have hgives : '=' ∉ a.name.toList → Assignment.ofArgument? a.argument = some a := fun hfree =>
    Assignment.ofArgument?_argument hfree htrim hne
  refine ⟨⟨?_, fun hfree => ⟨_, hgives hfree⟩⟩, fun hfree => ⟨hgives hfree, ?_, ?_⟩⟩
  · rintro ⟨argument, hargument⟩
    exact (Assignment.exists_isGivenBy_iff.1 ⟨argument, Assignment.ofArgument?_eq_some_iff.1 hargument⟩).1
  · exact fun file hfile hword => Request.ofArguments_render hfile hword (hgives hfree)
  · rintro host arguments earlier later run rfl htexts hlast hsaves o
    have hassignments : run.assignments = earlier.filterMap Assignment.ofArgument? ++
        a :: later.filterMap Assignment.ofArgument? := by
      rw [run.assignments_eq, htexts, List.filterMap_append, List.filterMap_cons_some (hgives hfree)]
    have hfinal : finalValue run.assignments run.kept.value? a.name = a.value := by
      rw [finalValue, hassignments, lastAssigned_append_cons _ hlast, Option.getD_some]
    obtain ⟨ds, hd, hvars⟩ := run.exists_declarations
    -- which names there are does not depend on the values that are kept
    have hmem : a.name ∈ (seeded run.kept.value? ds).names := by
      obtain ⟨ds', hd', rfl⟩ := Template.parse_eq_ok_iff.1 hparse
      rw [hd, Except.ok.injEq] at hd'
      rw [Template.names_seeded] at hname ⊢
      rw [hd']
      exact hname
    have hvalue := hsaves.value?_filled (hvars ▸ hmem)
    rw [hfinal] at hvalue
    refine ⟨?_, run.signature_filled, hvalue.1, hvalue.2, hsaves.outcome_filled⟩
    have hready := SavesSucceed.ready hsaves run.prepare_eq hd
    obtain ⟨r, huntil, -, hassigned, -⟩ := hready.untilPrompts_eq run.assignments run.asJson hsaves
    exact ⟨r, huntil, by rw [hassigned, value?_assignAll_of_mem _ _ _ hmem, hfinal]⟩

section OnDisk

open Call (diskOf homely templatePath)
open JsonFileStore (plainPath)

/-- A name with a brace and a value with blanks and equals signs. The value replaces one that was kept, and the one that
another argument gives before. -/
theorem assignment_reaches_name_brace :
    let saved : VariableSet := .ofList [⟨"a \x7d b", .text, "old"⟩]
    let kept : JsonFileStore := ⟨plainPath, defaultNamespace, saved.entries, []⟩
    let template := "\x7b\x7ba \x7d b|text\x7d\x7d!"
    let host : Host := ⟨diskOf ((kept.root saved).text .indented) template, homely, .answering []⟩
    let o := run host ["render", "t", "--store=v", "--var", "a \x7d b=1", "--var=a \x7d b= x=y= "]
    Assignment.ofArgument? "a \x7d b= x=y= " = some ⟨"a \x7d b", " x=y= "⟩ ∧
    o.exitCode = 0 ∧ o.output = " x=y= !" ∧
    o.disk.read plainPath = .ok ((kept.root (.ofList [⟨"a \x7d b", .text, " x=y= "⟩])).text .indented) := by
  intro saved kept template host o
  let a : Assignment := ⟨"a \x7d b", " x=y= "⟩
  let assignments : List Assignment := [⟨"a \x7d b", "1"⟩, a]
  let invocation : Invocation := ⟨none, some plainPath, .render templatePath assignments false false⟩
  let text := (kept.root saved).text .indented
  have hd : declarations template = .ok [⟨"a \x7d b", .text⟩] := by decide +kernel
  let run : RenderRun host ["render", "t", "--store=v", "--var", "a \x7d b=1", "--var=a \x7d b= x=y= "] := {
    invocation := invocation
    file := templatePath
    assignments := assignments
    batch := false
    asJson := false
    settings := { Settings.standard homely with storePath := plainPath }
    opened := diskOf text template
    template := template
    kept := kept
    vars := seeded kept.value? [⟨"a \x7d b", .text⟩]
    asks := by decide +kernel
    command_eq := rfl
    start_eq := Call.start_diskOf text template (.answering []) invocation.command
    read_eq := Call.read_templatePath_diskOf text template
    load_eq := Call.load_diskOf saved template
    parse_eq := Template.parse_eq_ok_iff.2 ⟨_, hd, rfl⟩ }
  have hnot : ¬ CutShort host invocation := Terminal.not_fails_of_plain (by simp) _
  have hsaves : run.SavesSucceed := Call.savesSucceed_diskOf text template rfl hd run.changes
  have hparse : parse template (fun _ => none) = .ok (seeded (fun _ => none) [⟨"a \x7d b", .text⟩]) :=
    Template.parse_eq_ok_iff.2 ⟨_, hd, rfl⟩
  have hname : "a \x7d b" ∈ (seeded (fun _ => none) [⟨"a \x7d b", .text⟩]).names := by decide +kernel
  obtain ⟨-, hreaches⟩ := assignment_reaches_name (a := a) hparse hname
  obtain ⟨hgives, -, hruns⟩ := hreaches (by decide)
  obtain ⟨-, hsignature, hvalue, -, hdone, hread⟩ :=
    hruns host _ ["a \x7d b=1"] [] run rfl (by decide +kernel) (by simp) hsaves
  obtain ⟨hexit, houtput⟩ := hdone hnot
  have hfilled : run.filled = .ofList [⟨"a \x7d b", .text, " x=y= "⟩] := by
    refine VariableSet.eq_of_signature_eq (hsignature.trans (Template.signature_seeded _ _)) fun name hmem => ?_
    rw [← VariableSet.map_name_signature, hsignature, VariableSet.map_name_signature] at hmem
    have hmem : name ∈ (seeded kept.value? [⟨"a \x7d b", .text⟩]).names := hmem
    rw [Template.names_seeded, List.mem_eraseDups] at hmem
    obtain rfl : name = "a \x7d b" := List.mem_singleton.1 hmem
    exact (hvalue (.inl (by decide))).trans (by decide +kernel)
  have hprinted : printed template (.ofList [⟨"a \x7d b", .text, " x=y= "⟩]) false = " x=y= !" := by decide +kernel
  rw [hfilled] at houtput hread
  exact ⟨hgives, hexit, houtput.trans hprinted, hread nofun⟩

/-- An empty value is prompted for at a terminal. The answer takes its place in what is written and in what is kept. -/
theorem empty_value_prompted_for :
    let before : JsonFileStore := ⟨plainPath, defaultNamespace, [], []⟩
    let template := "\x7b\x7ba|text\x7d\x7d!"
    let host : Host := ⟨diskOf ((before.root .empty).text .indented) template, homely, .answering ["x"]⟩
    let o := run host ["render", "t", "--store=v", "--var", "a="]
    Assignment.ofArgument? "a=" = some ⟨"a", ""⟩ ∧ o.exitCode = 0 ∧ o.output = "x!" ∧
    o.output ≠ Template.render template (.ofList [⟨"a", .text, ""⟩]) false ∧
    o.disk.file? plainPath = some (.text ((before.root (.ofList [⟨"a", .text, "x"⟩])).text .indented)) := by
  intro before template host o
  refine ⟨by decide, ?_, ?_, ?_, ?_⟩
  · decide +kernel
  · decide +kernel
  · decide +kernel
  · decide +kernel

end OnDisk

end Command

end TypedTemplates
