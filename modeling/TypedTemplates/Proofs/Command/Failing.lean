import TypedTemplates.Proofs.Command.Answers
import TypedTemplates.Proofs.Command.Calls

/-!
# Renderings that fail

A run that fails before it saves anything leaves the file of the store as it was (`file?_run_of_isEmpty`).
From then on the file holds what the last save that succeeded has written: that of the variables with the values that
were kept, that of the last change before one that cannot be saved, or that of the last answer before a prompt that
fails (`Ready.file?_render_of_error`). Only a write that is cut leaves anything else.
-/

namespace TypedTemplates

open Template (Declaration declarations parse seeded)

namespace Command

variable {disk : Disk} {settings : Settings} {file : Path} {assignments : List Assignment} {asJson : Bool}

/-! ### Renderings that fail -/

/-- A first save that fails ends a rendering. -/
theorem untilPrompts_of_save_error {template : String} {s : JsonFileStore} {ds : List Declaration} {error : StoreError}
    (assignments : List Assignment) (asJson : Bool) (hprepare : prepare disk settings file = .ok (template, s))
    (hd : declarations template = .ok ds) (hsave : (s.save disk (seeded s.value? ds)).1 = .error error) :
    ∃ r : Rendering, untilPrompts disk settings file assignments asJson = .error (r.failed (.store error)) ∧
      r.disk = (s.save disk (seeded s.value? ds)).2.2 := by
  have hattach : Engine.attach (StoreOnDisk.mk s disk) template = _ := Engine.setTemplate_of_ok _ hd
  have hfirst : (beginRendering disk template s).1 = .error error := (Engine.fst_attach hd).trans hsave
  have hbegin : beginRendering disk template s = (.error error, (beginRendering disk template s).2) :=
    Prod.ext hfirst rfl
  refine ⟨(beginRendering disk template s).2, ?_, ?_⟩
  · rw [untilPrompts, hprepare]
    simp only
    rw [hbegin]
  · show (Engine.attach (StoreOnDisk.mk s disk) template).2.store.disk = _
    rw [hattach]
    rfl

/-- What a rendering that has saved its variables leaves in the file if it fails. -/
theorem Ready.file?_render_of_error {template : String} {s : JsonFileStore} {ds : List Declaration}
    (h : Ready disk settings file template s ds) {terminal : Terminal} {batch : Bool}
    (hfail : (render disk terminal settings file assignments batch asJson).exitCode ≠ 0) :
    let shown : Terminal := if batch then .absent else terminal
    let vars := seeded s.value? ds
    let o := render disk terminal settings file assignments batch asJson
    o.disk.workingDirectory = disk.workingDirectory ∧
    ((∃ error done a,
        o.output = (Failure.store error).report (some .render) ∧ done ++ [a] <+: changes assignments shown vars ∧
        SavesSucceed disk s template done ∧ ¬ SavesSucceed disk s template (done ++ [a]) ∧
        s.Leaves (¬ disk.WritesOrRefuses) (vars.assignAll done) (vars.assignAll (done ++ [a]))
          (o.disk.file? s.path)) ∨
      ∃ begun, untilPrompts disk settings file assignments asJson = .ok begun ∧
        shown.Fails begun.missing.length ∧ o.output = shown.failure.report (some .render) ∧
        o.disk.file? s.path =
          some (.text ((s.root (vars.assignAll (changes assignments shown vars))).text .indented))) := by
  intro shown vars o
  have hfail : o.exitCode ≠ 0 := hfail
  rcases h.render_cases assignments asJson batch terminal with
    ⟨r, ho, -⟩ | ⟨begun, r, huntil, ho, hfails, hsaved, hvars⟩ |
      ⟨error, r, ho, hworking, done, a, hbegins, hends⟩
  · rw [show o = r.finished asJson from ho] at hfail
    exact absurd rfl hfail
  · rw [show o = r.failed shown.failure from ho]
    rw [← h.missing_eq huntil] at hfails
    refine ⟨hsaved.workingDirectory_eq, .inr ⟨begun, huntil, hfails, rfl, ?_⟩⟩
    rw [← hvars]
    exact Disk.file?_of_read hsaved.read_eq
  · rw [show o = r.failed (.store error) from ho]
    exact ⟨hworking, .inl ⟨error, done, a, rfl, hbegins, hends⟩⟩

/-! ### Prompts of a run -/

/-- Lines run out before all prompts of the run are answered, so that the next prompt fails. -/
def CutShort (host : Host) (invocation : Invocation) : Prop :=
  host.terminal.Fails (questions host invocation).length

theorem questions_eq_missing {host : Host} {invocation : Invocation} {opened : Disk} {r : Rendering}
    (hstart : start host invocation = .ok (settings, opened))
    (hcommand : invocation.command = .render file assignments false asJson)
    (huntil : untilPrompts opened settings file assignments asJson = .ok r) :
    questions host invocation = r.missing := by
  simp only [questions, hcommand, hstart, huntil]

/-! ### Runs that render -/

/-- A run that is to render a file whose text is a template, over a store that can be loaded, with what it works on. -/
structure RenderRun (host : Host) (arguments : List String) where
  invocation : Invocation
  file : Path
  assignments : List Assignment
  batch : Bool
  asJson : Bool
  settings : Settings
  /-- The disk when the log has been opened. -/
  opened : Disk
  template : String
  kept : JsonFileStore
  vars : VariableSet
  asks : Request.ofArguments arguments = .ok (.run invocation)
  command_eq : invocation.command = .render file assignments batch asJson
  start_eq : start host invocation = .ok (settings, opened)
  read_eq : opened.read file = .ok template
  load_eq : JsonFileStore.load opened settings.storePath settings.storeKey = .ok kept
  parse_eq : parse template kept.value? = .ok vars

namespace RenderRun

variable {host : Host} {arguments : List String} (run : RenderRun host arguments)

/-- The terminal at which the run prompts. -/
def shown : Terminal :=
  if run.batch then .absent else host.terminal

/-- The changes that the run has to make. -/
def changes : List Assignment :=
  Command.changes run.assignments run.shown run.vars

def SavesSucceed : Prop :=
  Command.SavesSucceed run.opened run.kept run.template run.changes

theorem prepare_eq : prepare run.opened run.settings run.file = .ok (run.template, run.kept) :=
  prepare_eq_ok_iff.2 ⟨run.read_eq, run.load_eq⟩

theorem exists_declarations : ∃ ds, declarations run.template = .ok ds ∧ run.vars = seeded run.kept.value? ds := by
  obtain ⟨ds, hd, hvars⟩ := Template.parse_eq_ok_iff.1 run.parse_eq
  exact ⟨ds, hd, hvars.symm⟩

theorem path_eq : run.kept.path = run.settings.storePath :=
  JsonFileStore.path_eq_of_load run.load_eq

theorem outcome_eq : Command.run host arguments =
    let done := render run.opened host.terminal run.settings run.file run.assignments run.batch run.asJson
    { done with disk := closeLog done.disk run.settings.logging done.events } := by
  rw [Command.run, run.asks]
  simp only
  rw [invoke_of_start run.start_eq, run.command_eq]
  rfl

theorem output_eq : (Command.run host arguments).output =
    (render run.opened host.terminal run.settings run.file run.assignments run.batch run.asJson).output := by
  rw [run.outcome_eq]

theorem exitCode_eq : (Command.run host arguments).exitCode =
    (render run.opened host.terminal run.settings run.file run.assignments run.batch run.asJson).exitCode := by
  rw [run.outcome_eq]

section LogElsewhere

variable (hlog : LogElsewhere run.settings.logging host.disk run.settings.storePath)
include hlog

/-- The store is loaded as it was before the run. -/
theorem load_before : JsonFileStore.load host.disk run.settings.storePath run.settings.storeKey = .ok run.kept := by
  rw [← run.load_eq]
  exact (JsonFileStore.load_congr (look?_openLog (openLog_of_start run.start_eq) hlog) _).symm

theorem file?_opened : run.opened.file? run.settings.storePath = host.disk.file? run.settings.storePath :=
  file?_openLog (openLog_of_start run.start_eq) hlog

variable {done : Outcome}
  (hdone : render run.opened host.terminal run.settings run.file run.assignments run.batch run.asJson = done)
  (hdirectory : done.disk.workingDirectory = run.opened.workingDirectory)
include hdone hdirectory

/-- What the rendering leaves at the path of the store is there at the end. -/
theorem look?_outcome : (Command.run host arguments).disk.look? run.settings.storePath =
    done.disk.look? run.settings.storePath := by
  have hworking := hdirectory.trans (workingDirectory_openLog (openLog_of_start run.start_eq))
  rw [run.outcome_eq, hdone]
  exact look?_closeLog _ (hlog.congr hworking)

theorem file?_outcome : (Command.run host arguments).disk.file? run.settings.storePath =
    done.disk.file? run.settings.storePath := by
  have hworking := hdirectory.trans (workingDirectory_openLog (openLog_of_start run.start_eq))
  rw [run.outcome_eq, hdone]
  exact file?_closeLog _ (hlog.congr hworking)

end LogElsewhere

/-- The template is read as it was before the run, if it is not the log. -/
theorem read_before (hlog : LogElsewhere run.settings.logging host.disk run.file) :
    host.disk.read run.file = .ok run.template := by
  rw [← run.read_eq]
  exact (Disk.read_congr (look?_openLog (openLog_of_start run.start_eq) hlog)).symm

end RenderRun

/-! ### Runs that fail -/

theorem disk_run_of_no_settings {host : Host} {arguments : List String}
    (h : ∀ invocation settings, Request.ofArguments arguments = .ok (.run invocation) →
      settingsFor host invocation ≠ .ok settings) : (run host arguments).disk = host.disk := by
  unfold run
  split
  · rfl
  · rfl
  · rfl
  · next invocation hasks =>
    cases hsettings : settingsFor host invocation with
    | error f => exact disk_of_settingsFor_error hsettings
    | ok settings => exact absurd hsettings (h invocation settings hasks)

/-- A run that is to render, but saves nothing, leaves the file of the store as it was. -/
theorem file?_run_of_isEmpty {host : Host} {arguments : List String} {invocation : Invocation} {batch : Bool}
    (hasks : Request.ofArguments arguments = .ok (.run invocation))
    (hcommand : invocation.command = .render file assignments batch asJson)
    (hsettings : settingsFor host invocation = .ok settings)
    (hlog : LogElsewhere settings.logging host.disk settings.storePath) (hnone : IsEmpty (RenderRun host arguments)) :
    (run host arguments).disk.file? settings.storePath = host.disk.file? settings.storePath := by
  have hrun : run host arguments = invoke host invocation := by rw [run, hasks]
  rw [hrun]
  cases hstart : start host invocation with
  | error outcome =>
    rw [invoke_of_start_error hstart]
    exact file?_of_start_error hstart _
  | ok started =>
    obtain ⟨settings', opened⟩ := started
    obtain ⟨hsettings', hopen⟩ := of_start hstart
    rw [hsettings, Except.ok.injEq] at hsettings'
    subst hsettings'
    have hmalformed : ∀ template s ds, prepare opened settings file = .ok (template, s) →
        declarations template ≠ .ok ds := by
      intro template s ds hprepare hd
      obtain ⟨hread, hload⟩ := prepare_eq_ok_iff.1 hprepare
      exact hnone.false ⟨_, _, _, _, _, _, _, _, _, _, hasks, hcommand, hstart, hread, hload,
        Template.parse_eq_ok_iff.2 ⟨ds, hd, rfl⟩⟩
    obtain ⟨early, huntil, -, hdisk⟩ := untilPrompts_of_not_declarations assignments asJson hmalformed
    have hinvoke : invoke host invocation =
        { early with disk := closeLog early.disk settings.logging early.events } := by
      rw [invoke_of_start hstart, hcommand]
      simp only [perform, render_of_untilPrompts_error huntil]
    have hclose : LogElsewhere settings.logging early.disk settings.storePath := by
      rw [hdisk]
      exact hlog.congr (workingDirectory_openLog hopen)
    rw [hinvoke]
    calc
      (closeLog early.disk settings.logging early.events).file? settings.storePath
        = early.disk.file? settings.storePath := file?_closeLog _ hclose
      _ = opened.file? settings.storePath := by rw [hdisk]
      _ = host.disk.file? settings.storePath := file?_openLog hopen hlog

/-- A run that fails leaves the disk alone if its arguments ask for no subcommand or if it has no settings. Consider one
that is to render a file, with its log, if it has one, not where the store is. The file of the store is as it was, unless
the store can be loaded and the text of the file is a template. Then the variables are saved first with the values that
were kept. If this save fails, the file is as it was, and if a later one fails, it holds what the last one before it has
written; only if the failing write is cut, it holds the beginning of what that was to write. If a prompt fails, the file
holds what saving the variables over the store writes after the assignments and the answers before that prompt. -/
theorem store_left_by_failed_run {host : Host} {arguments : List String} (hfail : (run host arguments).exitCode ≠ 0) :
    let o := run host arguments
    ((∀ invocation settings, Request.ofArguments arguments = .ok (.run invocation) →
      settingsFor host invocation ≠ .ok settings) → o.disk = host.disk) ∧
    (∀ invocation settings file assignments batch asJson,
      Request.ofArguments arguments = .ok (.run invocation) →
      invocation.command = .render file assignments batch asJson →
      settingsFor host invocation = .ok settings →
      LogElsewhere settings.logging host.disk settings.storePath → IsEmpty (RenderRun host arguments) →
      o.disk.file? settings.storePath = host.disk.file? settings.storePath) ∧
    ∀ run : RenderRun host arguments, LogElsewhere run.settings.logging host.disk run.settings.storePath →
      let held := o.disk.file? run.settings.storePath
      let text (vars : VariableSet) := (run.kept.root vars).text .indented
      let cuts := ¬ run.opened.WritesOrRefuses
      JsonFileStore.load host.disk run.settings.storePath run.settings.storeKey = .ok run.kept ∧
      (LogElsewhere run.settings.logging host.disk run.file → host.disk.read run.file = .ok run.template) ∧
      ((∃ error, (run.kept.save run.opened run.vars).1 = .error error ∧
          o.output = (Failure.store error).report (some .render) ∧
          (held = host.disk.file? run.settings.storePath ∨
            cuts ∧ ∃ room < (text run.vars).utf8ByteSize, held = some (.beginning (text run.vars) room))) ∨
        (∃ error done a, o.output = (Failure.store error).report (some .render) ∧ done ++ [a] <+: run.changes ∧
          SavesSucceed run.opened run.kept run.template done ∧
          ¬ SavesSucceed run.opened run.kept run.template (done ++ [a]) ∧
          run.kept.Leaves cuts (run.vars.assignAll done) (run.vars.assignAll (done ++ [a])) held) ∨
        (CutShort host run.invocation ∧ o.output = host.terminal.failure.report (some .render) ∧
          held = some (.text (text (run.vars.assignAll run.changes))))) := by
  intro o
  refine ⟨disk_run_of_no_settings, fun _ _ _ _ _ _ => file?_run_of_isEmpty, ?_⟩
  intro run hlog held text cuts
  refine ⟨run.load_before hlog, run.read_before, ?_⟩
  obtain ⟨ds, hd, hvars⟩ := run.exists_declarations
  cases hsave : (run.kept.save run.opened run.vars).1 with
  | error error =>
    rw [hvars] at hsave
    obtain ⟨r, huntil, hdisk⟩ := untilPrompts_of_save_error run.assignments run.asJson run.prepare_eq hd hsave
    have hdone : render run.opened host.terminal run.settings run.file run.assignments run.batch run.asJson =
        r.failed (.store error) := render_of_untilPrompts_error huntil
    have hfinal : held = (run.kept.save run.opened run.vars).2.2.file? run.settings.storePath := by
      rw [hvars, ← hdisk]
      refine run.file?_outcome hlog hdone ?_
      show r.disk.workingDirectory = _
      rw [hdisk, run.kept.workingDirectory_save]
    refine .inl ⟨error, rfl, ?_, ?_⟩
    · rw [show o.output = _ from run.output_eq, hdone]
      rfl
    · rw [hfinal, ← run.path_eq, hvars]
      refine (JsonFileStore.file?_save_of_error hsave).imp_left fun hfiles => ?_
      rw [hfiles, run.path_eq, run.file?_opened hlog]
  | ok u =>
    have hready : Ready run.opened run.settings run.file run.template run.kept ds :=
      ⟨run.prepare_eq, hd, hvars ▸ hsave⟩
    have hexit : (render run.opened host.terminal run.settings run.file run.assignments run.batch
        run.asJson).exitCode ≠ 0 := run.exitCode_eq ▸ hfail
    obtain ⟨hdirectory, hends⟩ := hready.file?_render_of_error hexit
    have hfinal := run.file?_outcome hlog rfl hdirectory
    rw [← run.output_eq, run.path_eq, ← hfinal, ← hvars] at hends
    rcases hends with
      ⟨error, done, a, houtput, hbegins, hstops⟩ | ⟨begun, huntil, hfails, houtput, hheld⟩
    · exact .inr (.inl ⟨error, done, a, houtput, hbegins, hstops⟩)
    · have hbatch : run.batch = false := by
        cases h : run.batch with
        | false => rfl
        | true =>
          -- no lines are read without prompts
          obtain ⟨lines, hlines, -⟩ := hfails
          rw [h] at hlines
          cases hlines
      have hcommand := run.command_eq
      rw [hbatch] at hcommand hfails houtput
      refine .inr (.inr ⟨?_, houtput, hheld⟩)
      rw [CutShort, questions_eq_missing run.start_eq hcommand huntil]
      exact hfails

section OnDisk

open Call (diskOf homely templatePath)
open JsonFileStore (plainPath)

/-- The disk with a store and a template, which refuses the second operation. -/
def refusingDiskOf (text template : String) : Disk :=
  { diskOf text template with faults := ⟨[none, some .refused]⟩ }

theorem start_refusingDiskOf (text template : String) (terminal : Terminal) (command : Subcommand) :
    start ⟨refusingDiskOf text template, homely, terminal⟩ ⟨none, some plainPath, command⟩ =
      .ok ({ Settings.standard homely with storePath := plainPath }, refusingDiskOf text template) := by
  have hnone : (refusingDiskOf text template).contains homely.settingsPath = false :=
    Call.contains_settingsPath_diskOf text template
  simp only [start, settingsFor, Settings.load, hnone]
  rfl

theorem save_refusingDiskOf (text template : String) (s : JsonFileStore) (vs : VariableSet) (h : s.path = plainPath) :
    (s.save (refusingDiskOf text template) vs).1 = .ok () := by
  have hparent : JsonFileStore.makeParent (refusingDiskOf text template) plainPath =
      (.ok (), refusingDiskOf text template) := rfl
  have hwrite : ∀ new, ((refusingDiskOf text template).write plainPath new).1 = .ok () := fun _ => rfl
  rw [JsonFileStore.save, h, hparent]
  simp only
  rw [← Prod.eta (Disk.write _ _ _), hwrite]

theorem writesOrRefuses_refusingDiskOf (text template : String) : (refusingDiskOf text template).WritesOrRefuses := by
  intro room hroom
  change some (.full room) ∈ [none, some Fault.refused] at hroom
  simp at hroom

/-- A disk that refuses the save of an assignment, and input that ends at the last of two prompts. Each time the file has
what was saved before, and the value that the template does not ask for is dropped. -/
theorem store_left_by_failed_run_later :
    let saved : VariableSet := .ofList [⟨"z", .text, "old"⟩]
    let kept : JsonFileStore := ⟨plainPath, defaultNamespace, saved.entries, []⟩
    let template := "\x7b\x7ba|text\x7d\x7d\x7b\x7bb|url\x7d\x7d\x7b\x7bc|text\x7d\x7d"
    let before := (kept.root saved).text .indented
    let arguments := ["--store", "v", "render", "t", "--var", "a=x"]
    let refused := run ⟨refusingDiskOf before template, homely, .absent⟩ arguments
    let prompted := run ⟨diskOf before template, homely, .closing ["y"]⟩ arguments
    let text (a b : String) :=
      (kept.root (.ofList [⟨"a", .text, a⟩, ⟨"b", .url, b⟩, ⟨"c", .text, ""⟩])).text .indented
    refused.exitCode = 1 ∧ refused.disk.file? plainPath = some (.text (text "" "")) ∧
    prompted.exitCode = 1 ∧ prompted.output = "FAIL etpl render\ninput cancelled by user\n" ∧
    prompted.disk.file? plainPath = some (.text (text "x" "y")) := by
  intro saved kept template before arguments refused prompted text
  let invocation : Invocation := ⟨none, some plainPath, .render templatePath [⟨"a", "x"⟩] false false⟩
  let ds : List Declaration := [⟨"a", .text⟩, ⟨"b", .url⟩, ⟨"c", .text⟩]
  have hrefused : refused.exitCode = 1 := by decide +kernel
  have hprompted : prompted.exitCode = 1 := by decide +kernel
  have hasks : Request.ofArguments arguments = .ok (.run invocation) := by decide +kernel
  have hd : declarations template = .ok ds := by decide +kernel
  have hparse : parse template kept.value? = .ok (seeded kept.value? ds) := Template.parse_eq_ok_iff.2 ⟨ds, hd, rfl⟩
  have hload : JsonFileStore.load (diskOf before template) plainPath defaultNamespace = .ok kept :=
    Call.load_diskOf saved template
  let run (host : Host) (hlook : host.disk.look? = (diskOf before template).look?)
      (hstart : start host invocation = .ok ({ Settings.standard homely with storePath := plainPath }, host.disk)) :
      RenderRun host arguments := {
    invocation := invocation
    file := templatePath
    assignments := [⟨"a", "x"⟩]
    batch := false
    asJson := false
    settings := { Settings.standard homely with storePath := plainPath }
    opened := host.disk
    template := template
    kept := kept
    vars := seeded kept.value? ds
    asks := hasks
    command_eq := rfl
    start_eq := hstart
    read_eq := (Disk.read_congr (congrFun hlook _)).trans (Call.read_templatePath_diskOf before template)
    load_eq := (JsonFileStore.load_congr (congrFun hlook _) _).trans hload
    parse_eq := hparse }
  have hfirst : seeded kept.value? ds = .ofList [⟨"a", .text, ""⟩, ⟨"b", .url, ""⟩, ⟨"c", .text, ""⟩] :=
    VariableSet.eq_of_toList_eq (by decide +kernel)
  have hfilled : (seeded kept.value? ds).assignAll
      (changes [⟨"a", "x"⟩] (.closing ["y"]) (seeded kept.value? ds)) =
        .ofList [⟨"a", .text, "x"⟩, ⟨"b", .url, "y"⟩, ⟨"c", .text, ""⟩] :=
    VariableSet.eq_of_toList_eq (by decide +kernel)
  have hwritten {vars vars' : VariableSet} (h : vars = vars') :
      some (Content.text ((kept.root vars).text .indented)) = some (.text ((kept.root vars').text .indented)) := by
    rw [h]
  refine ⟨hrefused, ?_, hprompted, ?_⟩
  · let refusing := run ⟨refusingDiskOf before template, homely, .absent⟩ rfl
      (start_refusingDiskOf before template .absent invocation.command)
    obtain ⟨-, -, hruns⟩ := store_left_by_failed_run (ne_of_eq_of_ne hrefused (by decide))
    obtain ⟨-, -, hends⟩ := hruns refusing nofun
    have hsave := save_refusingDiskOf before template kept (seeded kept.value? ds) rfl
    rcases hends with ⟨error, herror, -⟩ | ⟨error, done, a, -, hbegins, -, -, hleaves⟩ | ⟨⟨lines, hlines, -⟩, -⟩
    · cases hsave.symm.trans herror
    · -- there is only one change, so none has been made
      obtain ⟨rest, hrest⟩ := hbegins
      have hrest : done ++ [a] ++ rest = [⟨"a", "x"⟩] := hrest
      obtain rfl : done = [] := by
        cases done with
        | nil => rfl
        | cons b more => simp at hrest
      rcases hleaves with hheld | ⟨hcuts, -⟩
      · exact hheld.trans (hwritten hfirst)
      · exact absurd (writesOrRefuses_refusingDiskOf before template) hcuts
    · cases hlines
  · let closing := run ⟨diskOf before template, homely, .closing ["y"]⟩ rfl
      (Call.start_diskOf before template (.closing ["y"]) invocation.command)
    obtain ⟨-, -, hruns⟩ := store_left_by_failed_run (ne_of_eq_of_ne hprompted (by decide))
    obtain ⟨-, -, hends⟩ := hruns closing nofun
    have hsave := Call.save_diskOf before template kept (seeded kept.value? ds) rfl
    rcases hends with ⟨error, herror, -⟩ | ⟨error, done, a, -, -, -, hstops, -⟩ | ⟨-, houtput, hheld⟩
    · cases hsave.symm.trans herror
    · exact absurd (Call.savesSucceed_diskOf before template rfl hd _) hstops
    · exact ⟨houtput.trans (by decide +kernel), hheld.trans (hwritten hfilled)⟩

/-- A disk that refuses the second save, a prompt that fails, or a log in the file of the store changes that file in a
run that fails. -/
theorem store_changed_by_failed_run :
    let before := (JsonFileStore.root ⟨plainPath, defaultNamespace, [], []⟩
      (.ofList [⟨"z", .text, "old"⟩])).text .indented
    let refusing : Host := ⟨refusingDiskOf before "\x7b\x7ba|text\x7d\x7d", homely, .absent⟩
    let mute : Host := ⟨diskOf before "\x7b\x7ba|text\x7d\x7d", homely, .mute⟩
    let logging : Host := ⟨⟨⟨[(["v"], .file (.text before)), (["t"], .file (.text "\x7b\x7b")),
      (["c"], .file (.text "version = 1\n[logging]\nfile = \"v\""))]⟩, []⟩, homely, .absent⟩
    let refused := run refusing ["--store", "v", "render", "t", "--var", "a=x"]
    let prompted := run mute ["--store", "v", "render", "t"]
    let logged := run logging ["--store", "v", "--config", "c", "render", "t"]
    refused.exitCode = 1 ∧
    refused.disk.file? plainPath ≠ refusing.disk.file? plainPath ∧
    prompted.exitCode = 1 ∧
    prompted.disk.file? plainPath ≠ mute.disk.file? plainPath ∧
    logged.exitCode = 1 ∧
    logged.disk.file? plainPath ≠ logging.disk.file? plainPath := by
  intro before refusing mute logging refused prompted logged
  refine ⟨?_, ?_, ?_, ?_, ?_, ?_⟩
  · decide +kernel
  · decide +kernel
  · decide +kernel
  · decide +kernel
  · decide +kernel
  · decide +kernel

end OnDisk

end Command

end TypedTemplates
