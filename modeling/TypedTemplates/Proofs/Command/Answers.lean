import TypedTemplates.Proofs.Command.Rendering

/-!
# What prompts do

When the assignments have been made, a rendering prompts for the variables that are still empty, and saves the answer to
each prompt before it shows the next one. It ends when all of them are answered, when a prompt fails (`Terminal.Fails`),
or when an answer cannot be saved (`Rendering.prompt_cases`). So a rendering makes some of its changes
(`Command.changes`), and how many is told by how it ends (`Ready.render_cases`).
-/

namespace TypedTemplates

open Template (Declaration declarations seeded)

/-! ### Answers -/

/-- The variables that are empty. -/
def VariableSet.unfilled (s : VariableSet) : List Variable :=
  s.toList.filter fun v => v.value = ""

/-- The assignments that answers make to variables. When the answers run out, empty ones follow. -/
def answersTo : List Variable → List String → List Assignment
  | [], _ => []
  | v :: vs, answers => ⟨v.name, answers.headD ""⟩ :: answersTo vs answers.tail

namespace Terminal

/-- The lines that prompts can read. -/
def lines : Terminal → List String
  | .absent | .mute => []
  | .closing texts => Keyboard.endedLines texts
  | .answering texts => if Keyboard.interrupts texts then Keyboard.endedLines texts else Keyboard.lines texts

/-- The lines that can be read before a prompt fails, if one can fail at all. -/
def linesUntilFailure? : Terminal → Option (List String)
  | .absent => none
  | .mute => some []
  | .closing texts => some (Keyboard.endedLines texts)
  | .answering texts => if Keyboard.interrupts texts then some (Keyboard.endedLines texts) else none

/-- How the prompt fails that comes after these lines. -/
def failure : Terminal → Failure
  | .absent | .mute => .prompt
  | .closing texts => if Keyboard.interrupts texts then .interrupted else .cancelled
  | .answering _ => .interrupted

/-- One of that many prompts fails, since the lines run out before it. -/
def Fails (t : Terminal) (prompts : Nat) : Prop :=
  ∃ lines, t.linesUntilFailure? = some lines ∧ lines.length < prompts

/-- Those of the variables that get an answer: all of them, or those up to the prompt that fails. -/
def asked (t : Terminal) (vars : List Variable) : List Variable :=
  if t = .absent then []
  else
    match t.linesUntilFailure? with
    | some lines => vars.take lines.length
    | none => vars

variable {t : Terminal} {vars : List Variable}

theorem lines_eq_of_linesUntilFailure? {lines : List String} (h : t.linesUntilFailure? = some lines) :
    t.lines = lines := by
  cases t with
  | absent => cases h
  | mute => exact Option.some.inj h
  | closing texts => exact Option.some.inj h
  | answering texts =>
    by_cases hinterrupts : Keyboard.interrupts texts = true
    · rw [linesUntilFailure?, if_pos hinterrupts] at h
      rw [Terminal.lines, if_pos hinterrupts, Option.some.inj h]
    · rw [linesUntilFailure?, if_neg hinterrupts] at h
      cases h

/-- Without prompts there are no answers. -/
theorem asked_absent (vars : List Variable) : absent.asked vars = [] :=
  if_pos rfl

theorem asked_of_linesUntilFailure? {lines : List String} (h : t.linesUntilFailure? = some lines) :
    t.asked vars = vars.take lines.length := by
  have hshown : t ≠ .absent := by
    rintro rfl
    cases h
  rw [asked, if_neg hshown, h]

theorem asked_of_not_fails (hshown : t ≠ .absent) (h : ¬ t.Fails vars.length) : t.asked vars = vars := by
  cases hlines : t.linesUntilFailure? with
  | none => rw [asked, if_neg hshown, hlines]
  | some lines =>
    rw [asked_of_linesUntilFailure? hlines]
    exact List.take_of_length_le (Nat.le_of_not_lt fun hshort => h ⟨lines, hlines, hshort⟩)

theorem asked_prefix (t : Terminal) (vars : List Variable) : t.asked vars <+: vars := by
  unfold asked
  split
  · exact List.nil_prefix
  · split
    · exact List.take_prefix _ _
    · exact List.prefix_rfl

end Terminal

namespace Command

/-- The changes that a rendering has to make to the variables it begins with: the assignments, and then the answers to
the prompts for those that are still empty. -/
def changes (assignments : List Assignment) (shown : Terminal) (vars : VariableSet) : List Assignment :=
  assignments ++ answersTo (shown.asked (vars.assignAll assignments).unfilled) shown.lines

/-- What the log says of the variables that were prompted for. -/
def promptedEvent (names : List String) : Log.Event :=
  ⟨.debug, "Prompted for: " ++ Text.quotedList names, []⟩

namespace Rendering

variable {s : JsonFileStore} {directory : Place} {template : String} {r : Rendering}

/-- The variables are given the answers in order, unless one of these cannot be saved. -/
theorem answer_cases (h : r.engine.Saved s directory template) (vars : List Variable) (answers : List String) :
    (∃ r', r.answer vars answers = (.ok (), r') ∧ Advanced s directory template r (answersTo vars answers) r' ∧
      r'.notices = r.notices) ∨
      ∃ error r', r.answer vars answers = (.error error, r') ∧ Stopped s directory r (answersTo vars answers) r' := by
  induction vars generalizing r answers with
  | nil => exact .inl ⟨r, rfl, .refl h, rfl⟩
  | cons v vs ih =>
    rcases change_cases h ⟨v.name, answers.headD ""⟩ with
      ⟨r₁, hchange, hadvanced, hnotices⟩ | ⟨error, r₁, hchange, hstopped⟩
    · rcases ih hadvanced.saved answers.tail with ⟨r₂, hrest, hadvanced₂, hnotices₂⟩ | ⟨error, r₂, hrest, hstopped⟩
      · exact .inl ⟨r₂, by simp only [answer, hchange, hrest], hadvanced.append hadvanced₂, hnotices₂.trans hnotices⟩
      · exact .inr ⟨error, r₂, by simp only [answer, hchange, hrest], hadvanced.stopped_append hstopped⟩
    · exact .inr ⟨error, r₁, by simp only [answer, hchange], hstopped.append _⟩

/-! ### Prompts -/

theorem promptUntil_of_le {vars : List Variable} {lines : List String} (f : Failure)
    (h : vars.length ≤ lines.length) : r.promptUntil vars lines f = r.promptAll vars lines :=
  if_pos h

theorem prompt_of_linesUntilFailure? (r : Rendering) {t : Terminal} {lines : List String}
    (h : t.linesUntilFailure? = some lines) : r.prompt t = r.promptUntil r.missing lines t.failure := by
  cases t with
  | absent => cases h
  | mute =>
    cases h
    rfl
  | closing texts =>
    cases h
    rfl
  | answering texts =>
    by_cases hinterrupts : Keyboard.interrupts texts = true
    · rw [Terminal.linesUntilFailure?, if_pos hinterrupts] at h
      cases h
      exact if_pos hinterrupts
    · rw [Terminal.linesUntilFailure?, if_neg hinterrupts] at h
      cases h

theorem prompt_of_linesUntilFailure?_eq_none (r : Rendering) {t : Terminal} (hshown : t ≠ .absent)
    (h : t.linesUntilFailure? = none) : r.prompt t = r.promptAll r.missing t.lines := by
  cases t with
  | absent => exact absurd rfl hshown
  | mute => cases h
  | closing texts => cases h
  | answering texts =>
    by_cases hinterrupts : Keyboard.interrupts texts = true
    · rw [Terminal.linesUntilFailure?, if_pos hinterrupts] at h
      cases h
    · rw [prompt, Terminal.lines, if_neg hinterrupts, if_neg hinterrupts]

/-- If no prompt fails, all that are shown are answered. -/
theorem prompt_of_not_fails (r : Rendering) {t : Terminal} (h : ¬ t.Fails r.missing.length) :
    r.prompt t = r.promptAll (t.asked r.missing) t.lines := by
  by_cases hshown : t = .absent
  · subst hshown
    rfl
  rw [Terminal.asked_of_not_fails hshown h]
  cases hlines : t.linesUntilFailure? with
  | none => exact r.prompt_of_linesUntilFailure?_eq_none hshown hlines
  | some lines =>
    have henough : r.missing.length ≤ lines.length := Nat.le_of_not_lt fun hshort => h ⟨lines, hlines, hshort⟩
    rw [r.prompt_of_linesUntilFailure? hlines, promptUntil_of_le _ henough,
      Terminal.lines_eq_of_linesUntilFailure? hlines]

/-- If a prompt fails, those before it are answered. -/
theorem prompt_of_fails (r : Rendering) {t : Terminal} (h : t.Fails r.missing.length) :
    r.prompt t =
      match r.answer (t.asked r.missing) t.lines with
      | (.ok (), answered) => (.error t.failure, answered)
      | (.error e, answered) => (.error (.store e), answered) := by
  obtain ⟨lines, hlines, hshort⟩ := h
  rw [r.prompt_of_linesUntilFailure? hlines, Terminal.asked_of_linesUntilFailure? hlines,
    Terminal.lines_eq_of_linesUntilFailure? hlines]
  exact if_neg (Nat.not_le_of_lt hshort)

/-- Prompting ends when all prompts are answered, with one that fails, or with an answer that cannot be saved. -/
theorem prompt_cases (h : r.engine.Saved s directory template) (t : Terminal) :
    let answers := answersTo (t.asked r.missing) t.lines
    (∃ r', r.prompt t = (.ok (), r') ∧ ¬ t.Fails r.missing.length ∧
      Advanced s directory template r answers r' ∧ r'.notices = r.notices ∧
      r'.events.getLast? = some (promptedEvent ((t.asked r.missing).map (·.name)))) ∨
      (∃ r', r.prompt t = (.error t.failure, r') ∧ t.Fails r.missing.length ∧
        Advanced s directory template r answers r') ∨
      ∃ error r', r.prompt t = (.error (.store error), r') ∧ Stopped s directory r answers r' := by
  intro answers
  by_cases hfails : t.Fails r.missing.length
  · rw [r.prompt_of_fails hfails]
    rcases answer_cases h (t.asked r.missing) t.lines with
      ⟨r', hanswer, hadvanced, -⟩ | ⟨error, r', hanswer, hstopped⟩
    · exact .inr (.inl ⟨r', by rw [hanswer], hfails, hadvanced⟩)
    · exact .inr (.inr ⟨error, r', by rw [hanswer], hstopped⟩)
  · rw [r.prompt_of_not_fails hfails, promptAll]
    rcases answer_cases h (t.asked r.missing) t.lines with
      ⟨r', hanswer, hadvanced, hnotices⟩ | ⟨error, r', hanswer, hstopped⟩
    · let prompted := r'.logged ("Prompted for: " ++ Text.quotedList ((t.asked r.missing).map (·.name)))
      exact .inl ⟨prompted, by rw [hanswer], hfails, hadvanced.of_engine_eq rfl, hnotices, List.getLast?_concat⟩
    · exact .inr (.inr ⟨error, r', by rw [hanswer], hstopped⟩)

end Rendering

/-! ### Renderings -/

section Ready

variable {disk : Disk} {settings : Settings} {file : Path} {template : String} {s : JsonFileStore}
  {ds : List Declaration} {assignments : List Assignment} {asJson : Bool}

/-- The variables that a rendering prompts for are those that the assignments leave empty. -/
theorem Ready.missing_eq (h : Ready disk settings file template s ds) {r : Rendering}
    (huntil : untilPrompts disk settings file assignments asJson = .ok r) :
    r.missing = ((seeded s.value? ds).assignAll assignments).unfilled := by
  rcases h.untilPrompts_cases assignments asJson with ⟨r', huntil', hadvanced, -⟩ | ⟨error, r', huntil', -⟩
  · rw [huntil, Except.ok.injEq] at huntil'
    subst huntil'
    rw [← h.vars_beginRendering, ← hadvanced.vars_eq]
    rfl
  · rw [huntil] at huntil'
    cases huntil'

/-- All saves succeed up to that of the change with which the rendering has stopped. -/
theorem Ready.of_stopped (h : Ready disk settings file template s ds) {all : List Assignment} {r : Rendering}
    (hstopped : Rendering.Stopped s disk.workingDirectory (beginRendering disk template s).2 all r) :
    r.disk.workingDirectory = disk.workingDirectory ∧ ∃ done a, done ++ [a] <+: all ∧
      SavesSucceed disk s template done ∧ ¬ SavesSucceed disk s template (done ++ [a]) ∧
      s.Leaves (¬ disk.WritesOrRefuses) ((seeded s.value? ds).assignAll done)
        ((seeded s.value? ds).assignAll (done ++ [a])) (r.disk.file? s.path) := by
  obtain ⟨done, a, hbegins, hsaved, hstops, hleaves⟩ := hstopped.exists_leaves
  rw [h.vars_beginRendering] at hleaves
  refine ⟨hstopped.workingDirectory_eq, done, a, hbegins, ⟨h.fst_beginRendering, hsaved⟩,
    fun hsaves => hstops hsaves.rest, hleaves.imp_right fun hcut => ⟨fun hdisk => hcut.1 ?_, hcut.2⟩⟩
  exact Engine.writesOrRefuses_attach h.declarations_eq hdisk

/-- A rendering that has saved its variables is finished when all changes are made, or it fails at a prompt, with the
changes made up to there, or it fails since one of the changes cannot be saved. -/
theorem Ready.render_cases (h : Ready disk settings file template s ds) (assignments : List Assignment)
    (asJson batch : Bool) (terminal : Terminal) :
    let shown : Terminal := if batch then .absent else terminal
    let vars := seeded s.value? ds
    let asked := shown.asked (vars.assignAll assignments).unfilled
    let all := changes assignments shown vars
    let o := render disk terminal settings file assignments batch asJson
    (∃ r : Rendering, o = r.finished asJson ∧ r.engine.Saved s disk.workingDirectory template ∧
      r.engine.vars = vars.assignAll all ∧
      r.notices = (assignments.filter fun a => a.name ∉ vars.names).map unknownNotice ∧
      r.events.getLast? = some (promptedEvent (asked.map (·.name)))) ∨
      (∃ begun r : Rendering, untilPrompts disk settings file assignments asJson = .ok begun ∧
        o = r.failed shown.failure ∧ shown.Fails (vars.assignAll assignments).unfilled.length ∧
        r.engine.Saved s disk.workingDirectory template ∧ r.engine.vars = vars.assignAll all) ∨
      ∃ (error : StoreError) (r : Rendering), o = r.failed (.store error) ∧
        r.disk.workingDirectory = disk.workingDirectory ∧ ∃ done a, done ++ [a] <+: all ∧
          SavesSucceed disk s template done ∧ ¬ SavesSucceed disk s template (done ++ [a]) ∧
          s.Leaves (¬ disk.WritesOrRefuses) (vars.assignAll done) (vars.assignAll (done ++ [a]))
            (r.disk.file? s.path) := by
  intro shown vars asked all o
  have hvars := h.vars_beginRendering
  rcases h.untilPrompts_cases assignments asJson with
    ⟨begun, huntil, hadvanced, hnotices⟩ | ⟨error, r, huntil, hstopped⟩
  · have hmissing : begun.missing = (vars.assignAll assignments).unfilled := h.missing_eq huntil
    rcases Rendering.prompt_cases hadvanced.saved shown with
      ⟨r, hprompt, -, hanswered, hsaid, hevents⟩ | ⟨r, hprompt, hfails, hanswered⟩ | ⟨error, r, hprompt, hstopped⟩
    · rw [hmissing] at hanswered hevents
      refine .inl ⟨r, render_of_prompt huntil hprompt, hanswered.saved, ?_, hsaid.trans hnotices, hevents⟩
      exact (hadvanced.append hanswered).vars_eq.trans (congrArg (·.assignAll all) hvars)
    · rw [hmissing] at hanswered hfails
      refine .inr (.inl ⟨begun, r, huntil, render_of_prompt_error huntil hprompt, hfails, hanswered.saved, ?_⟩)
      exact (hadvanced.append hanswered).vars_eq.trans (congrArg (·.assignAll all) hvars)
    · rw [hmissing] at hstopped
      exact .inr (.inr ⟨error, r, render_of_prompt_error huntil hprompt,
        h.of_stopped (hadvanced.stopped_append hstopped)⟩)
  · exact .inr (.inr ⟨error, r, render_of_untilPrompts_error huntil,
      h.of_stopped (hstopped.append (answersTo asked shown.lines))⟩)

end Ready

end Command

end TypedTemplates
