import TypedTemplates.Proofs.Command.Failing

/-!
# Prompts

With a terminal a rendering prompts for the variables that are still empty when the assignments have been made, each of
them once and in the order of the template, and the answers become their values (`GapsFilled`). No other variable is
changed, and an answer beyond the last prompt is not read (`Rendering.answer_congr`). What is written and what is kept
are the values after that. Texts without control characters are read as they were typed (`Keyboard.lines_of_plain`).
-/

namespace TypedTemplates

open Template (Declaration declarations parse seeded)

/-! ### Typed texts -/

namespace Keyboard

/-- A character that stands for itself when it is typed. -/
def isPlain (c : Char) : Bool :=
  0x20 ≤ c.toNat && c ≠ '\x7f'

theorem keys_cons_of_plain {c : Char} (h : isPlain c = true) (rest : List Char) :
    keys .outside (c :: rest) = .character c :: keys .outside rest := by
  obtain ⟨hcontrol, hdelete⟩ : 0x20 ≤ c.toNat ∧ c ≠ '\x7f' := by simpa [isPlain] using h
  have hne : ∀ d : Char, d.toNat < 0x20 → c ≠ d := by
    rintro d hd rfl
    omega
  have hkey : keyOf? c = some (.character c) := by
    rw [keyOf?, if_neg (by simp [hne '\n' (by decide), hne '\r' (by decide)]),
      if_neg (by simp [hdelete, hne '\x08' (by decide)]), if_neg (hne '\x03' (by decide)),
      if_neg (Nat.not_lt.2 hcontrol)]
  rw [keys]
  simp only [hne '\x1b' (by decide), if_false, hkey]
  rfl

/-- A plain text is one line, whatever follows it. -/
theorem linesFrom_keys_of_plain {cs : List Char} (h : cs.all isPlain = true) (before rest : List Char) :
    linesFrom ⟨before, []⟩ (keys .outside (cs ++ '\n' :: rest)) =
      String.ofList (before.reverse ++ cs) :: linesFrom .empty (keys .outside rest) := by
  induction cs generalizing before with
  | nil =>
    show linesFrom ⟨before, []⟩ (.enter :: keys .outside rest) = _
    rw [linesFrom]
    rfl
  | cons c cs ih =>
    obtain ⟨hc, hcs⟩ : isPlain c = true ∧ cs.all isPlain = true := by simpa using h
    rw [List.cons_append, keys_cons_of_plain hc]
    show linesFrom ⟨c :: before, []⟩ (keys .outside (cs ++ '\n' :: rest)) = _
    rw [ih hcs, List.reverse_cons, List.append_assoc]
    rfl

theorem not_mem_keys_of_plain {cs : List Char} (h : cs.all isPlain = true) {rest : List Char}
    (hrest : .interrupt ∉ keys .outside rest) : .interrupt ∉ keys .outside (cs ++ '\n' :: rest) := by
  induction cs with
  | nil =>
    have hkeys : keys .outside ('\n' :: rest) = .enter :: keys .outside rest := rfl
    simpa [hkeys] using hrest
  | cons c cs ih =>
    obtain ⟨hc, hcs⟩ : isPlain c = true ∧ cs.all isPlain = true := by simpa using h
    rw [List.cons_append, keys_cons_of_plain hc]
    simpa using ih hcs

section Plain

variable {texts : List String} (h : ∀ s ∈ texts, s.toList.all isPlain = true)
include h

/-- Plain texts are the lines that are read, and then there is one that has not been ended. -/
theorem lines_of_plain : lines texts = texts ++ [""] := by
  induction texts with
  | nil => rfl
  | cons s texts ih =>
    obtain ⟨hs, htexts⟩ := List.forall_mem_cons.1 h
    have hfirst := linesFrom_keys_of_plain hs [] (texts.flatMap fun s => s.toList ++ ['\n'])
    have hrest := ih htexts
    rw [lines, typed] at hrest ⊢
    rw [List.flatMap_cons, List.append_assoc, List.singleton_append]
    refine hfirst.trans ?_
    rw [hrest, List.reverse_nil, List.nil_append, String.ofList_toList, List.cons_append]

/-- They interrupt nothing. -/
theorem interrupts_of_plain : interrupts texts = false := by
  have hkeys : .interrupt ∉ typed texts := by
    induction texts with
    | nil => exact List.not_mem_nil
    | cons s texts ih =>
      obtain ⟨hs, htexts⟩ := List.forall_mem_cons.1 h
      rw [typed, List.flatMap_cons, List.append_assoc, List.singleton_append]
      exact not_mem_keys_of_plain hs (ih htexts)
  simpa [interrupts] using hkeys

end Plain

end Keyboard

namespace Terminal

/-- Prompts read the answers as they were typed, and empty ones after them. -/
def Returns (t : Terminal) (answers : List String) : Prop :=
  ∀ k : Nat, t.lines[k]?.getD "" = answers[k]?.getD ""

theorem returns_of_plain {texts : List String} (h : ∀ s ∈ texts, s.toList.all Keyboard.isPlain = true) :
    (answering texts).Returns texts ∧ (closing texts).Returns texts := by
  have hlines := Keyboard.lines_of_plain h
  refine ⟨fun k => ?_, fun k => ?_⟩
  · rw [Terminal.lines, Keyboard.interrupts_of_plain h, if_neg Bool.false_ne_true, hlines, List.getElem?_append]
    split
    · rfl
    · next hk =>
      rw [List.getElem?_eq_none (Nat.le_of_not_lt hk)]
      cases k - texts.length <;> rfl
  · show (Keyboard.endedLines texts)[k]?.getD "" = _
    rw [Keyboard.endedLines, hlines, List.dropLast_concat]

theorem not_fails_of_plain {texts : List String} (h : ∀ s ∈ texts, s.toList.all Keyboard.isPlain = true)
    (prompts : Nat) : ¬ (answering texts).Fails prompts := by
  rintro ⟨lines, hlines, -⟩
  rw [linesUntilFailure?, Keyboard.interrupts_of_plain h, if_neg Bool.false_ne_true] at hlines
  cases hlines

end Terminal

/-! ### The variables that are prompted for -/

/-- Those of the names for which neither the assignments nor what is kept give a value that is not empty. -/
def gaps (assignments : List Assignment) (kept : String → Option String) (names : List String) : List String :=
  names.filter fun name => finalValue assignments kept name = ""

theorem VariableSet.map_name_unfilled (s : VariableSet) :
    s.unfilled.map (·.name) = s.names.filter fun name => s.value? name = some "" := by
  rw [names, List.filter_map, unfilled]
  congr 1
  refine List.filter_congr fun v hv => ?_
  rw [Function.comp_apply, value?, get?_of_mem hv, Option.map_some]
  exact decide_eq_decide.2 Option.some_inj.symm

theorem lastAssigned_answersTo_of_not_mem {vs : List Variable} (answers : List String) {name : String}
    (h : name ∉ vs.map (·.name)) : lastAssigned (answersTo vs answers) name = none := by
  induction vs generalizing answers with
  | nil => rfl
  | cons v vs ih =>
    rw [List.map_cons, List.mem_cons, not_or] at h
    rw [answersTo, lastAssigned_cons, ih _ h.2, if_neg (Ne.symm h.1), Option.or_none]

/-- The answers are given to the variables in order. -/
theorem lastAssigned_answersTo {vs : List Variable} (hnodup : (vs.map (·.name)).Nodup) (answers : List String)
    {k : Nat} {name : String} (hk : (vs.map (·.name))[k]? = some name) :
    lastAssigned (answersTo vs answers) name = some (answers[k]?.getD "") := by
  induction vs generalizing answers k with
  | nil => cases hk
  | cons v vs ih =>
    rw [List.map_cons, List.nodup_cons] at hnodup
    rw [answersTo, lastAssigned_cons]
    cases k with
    | zero =>
      have hname : v.name = name := Option.some.inj hk
      subst hname
      rw [lastAssigned_answersTo_of_not_mem _ hnodup.1, if_pos rfl, Option.none_or, List.headD_eq_head?_getD,
        List.head?_eq_getElem?]
    | succ k =>
      rw [ih hnodup.2 answers.tail hk, Option.some_or, List.getElem?_tail]

/-- The variables are those that there were, with the answers in order in those that had gaps and the final values in
all others. -/
structure GapsFilled (assignments : List Assignment) (kept : String → Option String) (vars : VariableSet)
    (answers : List String) (filled : VariableSet) : Prop where
  signature_eq : filled.signature = vars.signature
  value?_gap : ∀ (k : Nat) name, (gaps assignments kept vars.names)[k]? = some name →
    filled.value? name = some (answers[k]?.getD "")
  value?_other : ∀ name ∈ vars.names, name ∉ gaps assignments kept vars.names →
    filled.value? name = some (finalValue assignments kept name)

/-- The gaps can be filled in one way only. -/
theorem GapsFilled.eq {assignments : List Assignment} {kept : String → Option String} {vars : VariableSet}
    {answers : List String} {filled filled' : VariableSet} (h : GapsFilled assignments kept vars answers filled)
    (h' : GapsFilled assignments kept vars answers filled') : filled = filled' := by
  refine VariableSet.eq_of_signature_eq (h.signature_eq.trans h'.signature_eq.symm) fun name hname => ?_
  rw [← VariableSet.map_name_signature, h.signature_eq, VariableSet.map_name_signature] at hname
  by_cases hgap : name ∈ gaps assignments kept vars.names
  · obtain ⟨k, hk⟩ := List.mem_iff_getElem?.1 hgap
    rw [h.value?_gap k name hk, h'.value?_gap k name hk]
  · rw [h.value?_other name hname hgap, h'.value?_other name hname hgap]

theorem VariableSet.signature_assignAll (s : VariableSet) (assignments : List Assignment) :
    (s.assignAll assignments).signature = s.signature := by
  induction assignments generalizing s with
  | nil => rfl
  | cons a rest ih => rw [assignAll, List.foldl_cons, ← assignAll, ih, signature_mapValue]

section Seeded

variable (assignments : List Assignment) (kept : String → Option String) (ds : List Declaration)

theorem value?_assignAll_of_mem {name : String} (h : name ∈ (seeded kept ds).names) :
    ((seeded kept ds).assignAll assignments).value? name = some (finalValue assignments kept name) := by
  rw [Template.names_seeded, List.mem_eraseDups] at h
  rw [value?_assignAll_seeded, if_pos h]

/-- The gaps are the variables that are empty when the assignments have been made. -/
theorem map_name_unfilled_seeded :
    ((seeded kept ds).assignAll assignments).unfilled.map (·.name) = gaps assignments kept (seeded kept ds).names := by
  rw [VariableSet.map_name_unfilled, VariableSet.names_assignAll, gaps]
  refine List.filter_congr fun name hname => ?_
  rw [value?_assignAll_of_mem assignments kept ds hname]
  exact decide_eq_decide.2 Option.some_inj

theorem gapsFilled_answersTo (answers : List String) :
    let vars := (seeded kept ds).assignAll assignments
    GapsFilled assignments kept (seeded kept ds) answers (vars.assignAll (answersTo vars.unfilled answers)) := by
  intro vars
  have hnames : vars.unfilled.map (·.name) = gaps assignments kept (seeded kept ds).names :=
    map_name_unfilled_seeded assignments kept ds
  have hvalue : ∀ name ∈ (seeded kept ds).names, vars.value? name = some (finalValue assignments kept name) :=
    fun _ => value?_assignAll_of_mem assignments kept ds
  refine ⟨?_, ?_, ?_⟩
  · rw [VariableSet.signature_assignAll, VariableSet.signature_assignAll]
  · intro k name hk
    have hdeclared : name ∈ (seeded kept ds).names := List.mem_of_mem_filter (List.mem_of_getElem? hk)
    have hnodup : (vars.unfilled.map (·.name)).Nodup := by
      rw [hnames]
      exact (seeded kept ds).nodup_names.filter _
    rw [VariableSet.value?_assignAll, hvalue name hdeclared, lastAssigned_answersTo hnodup answers (hnames ▸ hk)]
    rfl
  · intro name hname hgap
    rw [VariableSet.value?_assignAll, hvalue name hname, lastAssigned_answersTo_of_not_mem answers (hnames ▸ hgap)]
    rfl

end Seeded

namespace Command

/-! ### Renderings with prompts -/

namespace Rendering

/-- No more answers are read than there are variables to be answered. -/
theorem answer_congr (r : Rendering) (vars : List Variable) {answers answers' : List String}
    (h : ∀ k < vars.length, answers[k]?.getD "" = answers'[k]?.getD "") :
    r.answer vars answers = r.answer vars answers' := by
  induction vars generalizing r answers answers' with
  | nil => rfl
  | cons v vs ih =>
    have hfirst : answers.headD "" = answers'.headD "" := by
      rw [List.headD_eq_head?_getD, List.headD_eq_head?_getD, List.head?_eq_getElem?, List.head?_eq_getElem?]
      exact h 0 (Nat.succ_pos _)
    have hrest : ∀ r : Rendering, r.answer vs answers.tail = r.answer vs answers'.tail := by
      intro r
      refine ih r fun k hk => ?_
      rw [List.getElem?_tail, List.getElem?_tail]
      exact h (k + 1) (Nat.succ_lt_succ hk)
    rw [answer, answer, hfirst]
    split
    · exact hrest _
    · rfl

end Rendering

/-- What is written when all values have been given: the template with the values in place of its placeholders, or a
JSON text with that and the variables. -/
def printed (template : String) (vars : VariableSet) (asJson : Bool) : String :=
  let output := Template.render template vars false
  if asJson then
    (Json.Value.object [("output", .string output), ("variables", vars.toJson)]).text .indented ++ "\n"
  else output

theorem output_finished {r : Rendering} {s : JsonFileStore} {directory : Place} {template : String}
    (h : r.engine.Saved s directory template) (asJson : Bool) :
    (r.finished asJson).output = printed template r.engine.vars asJson := by
  have herror : ((r.engine.error.map fun e => ("error", e.toJson)).toList : List (String × Json.Value)) = [] := by
    rw [h.error_eq, Option.map_none, Option.toList_none]
  simp only [Rendering.finished, Rendering.json, printed, herror, h.output_eq, List.append_nil]

variable {disk : Disk} {settings : Settings} {file : Path} {template : String} {s : JsonFileStore}
  {ds : List Declaration} {assignments : List Assignment} {asJson : Bool}

theorem length_unfilled_seeded (assignments : List Assignment) (kept : String → Option String)
    (ds : List Declaration) : ((seeded kept ds).assignAll assignments).unfilled.length =
      (gaps assignments kept (seeded kept ds).names).length := by
  rw [← map_name_unfilled_seeded, List.length_map]

/-- At a terminal a well formed template is rendered with the answers in its gaps. -/
theorem Ready.render_answered (h : Ready disk settings file template s ds) {terminal : Terminal}
    (hshown : terminal ≠ .absent)
    (hprompts : ¬ terminal.Fails (gaps assignments s.value? (seeded s.value? ds).names).length)
    (hsaves : SavesSucceed disk s template (changes assignments terminal (seeded s.value? ds))) :
    let asked := gaps assignments s.value? (seeded s.value? ds).names
    let o := render disk terminal settings file assignments false asJson
    o.events.getLast? = some (promptedEvent asked) ∧
    ∃ filled, GapsFilled assignments s.value? (seeded s.value? ds) terminal.lines filled ∧
      o.exitCode = 0 ∧ o.output = printed template filled asJson ∧
      o.notices = (assignments.filter fun a => a.name ∉ (seeded s.value? ds).names).map unknownNotice ∧
      o.disk.workingDirectory = disk.workingDirectory ∧
      o.disk.read s.path = .ok ((s.root filled).text .indented) := by
  intro asked o
  let vars := (seeded s.value? ds).assignAll assignments
  have hlength : vars.unfilled.length = asked.length := length_unfilled_seeded assignments s.value? ds
  have hall : terminal.asked vars.unfilled = vars.unfilled :=
    Terminal.asked_of_not_fails hshown (by rwa [hlength])
  rcases h.render_cases assignments asJson false terminal with
    ⟨r, ho, hsaved, hvars, hnotices, hevents⟩ | ⟨begun, r, -, -, hfails, -⟩ |
      ⟨error, r, -, -, done, a, hbegins, -, hstops, -⟩
  · have ho : o = r.finished asJson := ho
    have hevents : r.events.getLast? = some (promptedEvent ((terminal.asked vars.unfilled).map (·.name))) := hevents
    have hfilled := gapsFilled_answersTo assignments s.value? ds terminal.lines
    have hchanges : r.engine.vars = vars.assignAll (answersTo vars.unfilled terminal.lines) := by
      rw [← hall]
      exact hvars.trans (VariableSet.assignAll_append _ _ _)
    rw [hall, map_name_unfilled_seeded] at hevents
    rw [ho]
    refine ⟨hevents, r.engine.vars, ?_, rfl, output_finished hsaved asJson, hnotices, hsaved.workingDirectory_eq,
      hsaved.read_eq⟩
    rw [hchanges]
    exact hfilled
  · rw [← hlength] at hprompts
    exact absurd hfails hprompts
  · exact absurd (hsaves.of_isPrefix hbegins) hstops

/-- Lines after those that are asked for make no difference. -/
theorem Ready.render_congr (h : Ready disk settings file template s ds) {terminal terminal' : Terminal}
    (hshown : terminal ≠ .absent) (hshown' : terminal' ≠ .absent)
    (hprompts : ¬ terminal.Fails (gaps assignments s.value? (seeded s.value? ds).names).length)
    (hprompts' : ¬ terminal'.Fails (gaps assignments s.value? (seeded s.value? ds).names).length)
    (hlines : ∀ k < (gaps assignments s.value? (seeded s.value? ds).names).length,
      terminal.lines[k]?.getD "" = terminal'.lines[k]?.getD "") :
    render disk terminal settings file assignments false asJson =
      render disk terminal' settings file assignments false asJson := by
  cases huntil : untilPrompts disk settings file assignments asJson with
  | error early => rw [render_of_untilPrompts_error huntil, render_of_untilPrompts_error huntil]
  | ok r =>
    have hlength := length_unfilled_seeded assignments s.value? ds
    rw [← hlength, ← h.missing_eq huntil] at hprompts hprompts' hlines
    have hprompt : r.prompt terminal = r.prompt terminal' := by
      rw [r.prompt_of_not_fails hprompts, r.prompt_of_not_fails hprompts', Terminal.asked_of_not_fails hshown hprompts,
        Terminal.asked_of_not_fails hshown' hprompts', Rendering.promptAll, Rendering.promptAll,
        r.answer_congr r.missing hlines]
    simp only [render, huntil, Bool.false_eq_true, if_false, hprompt]

/-! ### Runs with prompts -/

/-- A run prompts for the variables that have gaps, at any terminal. -/
theorem Ready.map_name_questions {host : Host} {invocation : Invocation} {opened : Disk} {rest : List Assignment}
    (h : Ready opened settings file template s ds)
    (hcommand : invocation.command = .render file assignments false asJson)
    (hstart : start host invocation = .ok (settings, opened))
    (hsaves : SavesSucceed opened s template (assignments ++ rest)) (terminal : Terminal) :
    (questions { host with terminal := terminal } invocation).map (·.name) =
      gaps assignments s.value? (seeded s.value? ds).names := by
  obtain ⟨r, huntil, -⟩ := h.untilPrompts_eq assignments asJson hsaves
  have hstart' : start { host with terminal := terminal } invocation = .ok (settings, opened) := hstart
  rw [questions_eq_missing hstart' hcommand huntil, h.missing_eq huntil, map_name_unfilled_seeded]

/-- Consider a run that renders a well formed template at a terminal, in which every save succeeds and no prompt fails. It
takes its assignments from its arguments, and it prompts for the variables that have gaps, each of them once and in the
order of the template. The answers become the values of these, in order, and all others have their final values. That is
what is written and, with the log elsewhere, what is kept. Lines beyond the last prompt are not read. -/
theorem prompts_fill_gaps {host : Host} {arguments : List String} {invocation : Invocation} {opened : Disk}
    {text : String} {kept : JsonFileStore} {vars : VariableSet} {answers : List String}
    (hasks : Request.ofArguments arguments = .ok (.run invocation))
    (hcommand : invocation.command = .render file assignments false asJson)
    (hstart : start host invocation = .ok (settings, opened)) (hread : opened.read file = .ok text)
    (hload : JsonFileStore.load opened settings.storePath settings.storeKey = .ok kept)
    (hparse : parse text kept.value? = .ok vars)
    (hsaves : SavesSucceed opened kept text (changes assignments host.terminal vars))
    (hterminal : host.terminal ≠ .absent) (hprompts : ¬ CutShort host invocation)
    (hanswers : host.terminal.Returns answers) :
    let asked := gaps assignments kept.value? vars.names
    let o := run host arguments
    List.Forall₂ Assignment.IsGivenBy assignments (Token.assignmentsOf arguments) ∧
    (questions host invocation).map (·.name) = asked ∧
    o.events.getLast? = some (promptedEvent asked) ∧
    (∃ filled, GapsFilled assignments kept.value? vars answers filled ∧
      o.exitCode = 0 ∧ o.output = printed text filled asJson ∧
      o.notices = (assignments.filter fun a => a.name ∉ vars.names).map unknownNotice ∧
      (LogElsewhere settings.logging host.disk settings.storePath →
        o.disk.read settings.storePath = .ok ((kept.root filled).text .indented) ∧
        ∀ members, JsonFileStore.contents? opened settings.storePath = some members → (∀ m ∈ members, m.2.Whole) →
          JsonFileStore.load o.disk settings.storePath settings.storeKey =
            .ok { kept with entries := filled.entries })) ∧
    ∀ terminal : Terminal, terminal ≠ .absent → ¬ CutShort { host with terminal := terminal } invocation →
      (∀ k < asked.length, terminal.lines[k]?.getD "" = answers[k]?.getD "") →
      run { host with terminal := terminal } arguments = o := by
  intro asked o
  obtain ⟨ds, hd, rfl⟩ := Template.parse_eq_ok_iff.1 hparse
  have hready : Ready opened settings file text kept ds := hsaves.ready (prepare_eq_ok_iff.2 ⟨hread, hload⟩) hd
  have henough : ∀ terminal : Terminal, ¬ CutShort { host with terminal := terminal } invocation →
      ¬ terminal.Fails asked.length := by
    intro terminal hnot
    have hall : ¬ terminal.Fails (questions { host with terminal := terminal } invocation).length := hnot
    rwa [← List.length_map, hready.map_name_questions hcommand hstart hsaves terminal] at hall
  let done := render opened host.terminal settings file assignments false asJson
  let runAt (terminal : Terminal) : RenderRun { host with terminal := terminal } arguments :=
    ⟨_, _, _, _, _, _, _, _, _, _, hasks, hcommand, hstart, hread, hload, hparse⟩
  have ho : o = { done with disk := closeLog done.disk settings.logging done.events } :=
    (runAt host.terminal).outcome_eq
  obtain ⟨hasked, filled, hfilled, hexit, houtput, hnotices, hdirectory, hwritten⟩ :=
    hready.render_answered hterminal (henough host.terminal hprompts) hsaves
  rw [ho]
  refine ⟨Request.isGivenBy_of_ofArguments hasks hcommand,
    hready.map_name_questions hcommand hstart hsaves host.terminal, hasked,
    ⟨filled, ?_, hexit, houtput, hnotices, fun hlog => ?_⟩, ?_⟩
  · exact { hfilled with value?_gap := fun k name hk => by rw [hfilled.value?_gap k name hk, hanswers k] }
  · have hpath : kept.path = settings.storePath := JsonFileStore.path_eq_of_load hload
    have hclose : LogElsewhere settings.logging done.disk settings.storePath :=
      hlog.congr (hdirectory.trans (workingDirectory_openLog (openLog_of_start hstart)))
    have hkept : (closeLog done.disk settings.logging done.events).read settings.storePath =
        .ok ((kept.root filled).text .indented) := by
      rw [Disk.read_congr (look?_closeLog _ hclose), ← hpath]
      exact hwritten
    refine ⟨hkept, fun members hmembers hwhole => ?_⟩
    obtain ⟨entries, hloaded⟩ := JsonFileStore.eq_of_load hload hmembers
    have hkey : kept.key = settings.storeKey := congrArg JsonFileStore.key hloaded
    rw [← hpath] at hkept
    have hstored := (StoreOnDisk.settled_of_load hload hmembers hwhole).of_read hkept
    rw [← hpath, ← hkey]
    exact hstored.load_eq
  · intro terminal hshown hnot hlines
    have hsame : render opened terminal settings file assignments false asJson = done :=
      hready.render_congr hshown hterminal (henough terminal hnot) (henough host.terminal hprompts) fun k hk =>
        (hlines k hk).trans (hanswers k).symm
    refine (runAt terminal).outcome_eq.trans ?_
    exact congrArg
      (fun done : Outcome => { done with disk := closeLog done.disk settings.logging done.events }) hsame

section OnDisk

open Call (diskOf homely templatePath)
open JsonFileStore (plainPath)

/-- An empty assignment takes a value away, be it one that was kept or one assigned before, and makes a gap. The answers
run out at the third prompt. -/
theorem prompts_fill_gaps_emptied :
    let saved : VariableSet := .ofList [⟨"c", .text, "old"⟩, ⟨"d", .text, "k"⟩]
    let kept : JsonFileStore := ⟨plainPath, defaultNamespace, saved.entries, []⟩
    let template := "\x7b\x7ba|text\x7d\x7d, \x7b\x7bb|url\x7d\x7d, \x7b\x7bc|text\x7d\x7d, \x7b\x7bd|text\x7d\x7d"
    let host (texts : List String) : Host :=
      ⟨diskOf ((kept.root saved).text .indented) template, homely, .answering texts⟩
    let arguments := ["render", "t", "--store=v", "--var", "b=1", "--var", "d=", "--var", "b="]
    let o := run (host ["x", "y"]) arguments
    let filled : VariableSet :=
      .ofList [⟨"a", .text, "x"⟩, ⟨"b", .url, "y"⟩, ⟨"c", .text, "old"⟩, ⟨"d", .text, ""⟩]
    o.exitCode = 0 ∧ o.output = "x, y, old, " ∧
    o.disk.read plainPath = .ok ((kept.root filled).text .indented) ∧
    run (host ["x", "y", "", "z"]) arguments = o := by
  intro saved kept template host arguments o filled
  let assignments : List Assignment := [⟨"b", "1"⟩, ⟨"d", ""⟩, ⟨"b", ""⟩]
  let ds : List Declaration := [⟨"a", .text⟩, ⟨"b", .url⟩, ⟨"c", .text⟩, ⟨"d", .text⟩]
  let invocation : Invocation := ⟨none, some plainPath, .render templatePath assignments false false⟩
  have hasks : Request.ofArguments ["render", "t", "--store=v", "--var", "b=1", "--var", "d=", "--var", "b="] =
      .ok (.run ⟨none, some plainPath, .render templatePath [⟨"b", "1"⟩, ⟨"d", ""⟩, ⟨"b", ""⟩] false false⟩) := by
    decide +kernel
  have hd : declarations template = .ok ds := by decide +kernel
  have hplain : ∀ s ∈ ["x", "y", "", "z"], s.toList.all Keyboard.isPlain = true := by decide +kernel
  have hfirst : ∀ s ∈ ["x", "y"], s.toList.all Keyboard.isPlain = true := by decide +kernel
  have hshown : ∀ texts, (host texts).terminal ≠ .absent := fun _ => nofun
  have hasked : (gaps assignments kept.value? (seeded kept.value? ds).names) = ["a", "b", "d"] := by decide +kernel
  have hstart :=
    Call.start_diskOf ((kept.root saved).text .indented) template (.answering ["x", "y"]) invocation.command
  obtain ⟨-, -, -, ⟨answered, hanswered, hexit, houtput, -, hwritten⟩, hunread⟩ :=
    prompts_fill_gaps hasks rfl hstart (Call.read_templatePath_diskOf _ template) (Call.load_diskOf saved template)
      (Template.parse_eq_ok_iff.2 ⟨ds, hd, rfl⟩) (Call.savesSucceed_diskOf _ template rfl hd _) (hshown _)
      (Terminal.not_fails_of_plain hfirst _) (Terminal.returns_of_plain hfirst).1
  have hfilled : answered = filled := by
    refine (hanswered.eq (gapsFilled_answersTo assignments kept.value? ds ["x", "y"])).trans ?_
    exact VariableSet.eq_of_toList_eq (by decide +kernel)
  subst hfilled
  refine ⟨hexit, houtput.trans (by decide +kernel), (hwritten nofun).1,
    hunread _ (hshown _) (Terminal.not_fails_of_plain hplain _) ?_⟩
  rw [hasked]
  decide +kernel

end OnDisk

end Command

end TypedTemplates
