import TypedTemplates.Proofs.Command.Logs
import TypedTemplates.Proofs.Command.Rendering
import TypedTemplates.Proofs.Engine.Parallel
import TypedTemplates.Proofs.Settings.Foreign

/-!
# Subcommands on disks that agree but for a file

Where two disks agree but for a file of settings, a subcommand under the same settings comes to the same on both
(`Command.perform_of_agreeBut`), unless that file is its template: a store is not loaded from it, and whatever is
written is written to both disks. A log that is opened and closed around the subcommand makes no difference
(`Command.openLog_of_agreeBut`, `Command.closeLog_of_agreeBut`).
-/

namespace TypedTemplates

variable {place : Place} {c c' : Content}

/-- The outcomes differ in nothing but their disks, and these agree but for the file at the place. -/
structure Outcome.AgreeBut (place : Place) (c c' : Content) (o o' : Outcome) : Prop where
  exitCode_eq : o'.exitCode = o.exitCode
  output_eq : o'.output = o.output
  notices_eq : o'.notices = o.notices
  events_eq : o'.events = o.events
  disk : o.disk.AgreeBut place c c' o'.disk

/-! ### Events -/

namespace Log

variable {σ : Type} [Observed σ]

theorem assigning_congr {x x' : Except StoreError Bool × Engine σ} (hresult : x'.1 = x.1)
    (hsaved : Observed.saved x'.2.store = Observed.saved x.2.store) (name : String) :
    assigning name x' = assigning name x := by
  obtain ⟨result, e⟩ := x
  obtain ⟨result', e'⟩ := x'
  dsimp only at hresult hsaved
  subst hresult
  cases result' with
  | error error => rfl
  | ok known =>
    cases known with
    | true => exact hsaved
    | false => rfl

theorem attaching_congr {x x' : Except StoreError Unit × Engine σ} (hresult : x'.1 = x.1)
    (herror : x'.2.error = x.2.error) (hsaved : Observed.saved x'.2.store = Observed.saved x.2.store)
    (template : String) : attaching template x' = attaching template x := by
  obtain ⟨result, e⟩ := x
  obtain ⟨result', e'⟩ := x'
  dsimp only at hresult herror hsaved
  subst hresult
  cases result' with
  | error error => rfl
  | ok u => rw [attaching, attaching, herror, hsaved]

theorem loading_congr {disk disk' : Disk} {store : JsonFileStore} (h : disk'.read store.path = disk.read store.path) :
    loading disk' store = loading disk store := by
  rw [loading, loading, h]

theorem saved_of_agreeBut {s s' : StoreOnDisk} (h : s.AgreeBut place c c' s') :
    Observed.saved s' = Observed.saved s := by
  show [_] = [_]
  rw [h.store_eq]

end Log

namespace Command

/-! ### Renderings -/

namespace Rendering

/-- The renderings differ in nothing but their disks, and these agree but for the file at the place. -/
structure AgreeBut (place : Place) (c c' : Content) (r r' : Rendering) : Prop where
  engine : r.engine.Paired (StoreOnDisk.AgreeBut place c c') r'.engine
  notices_eq : r'.notices = r.notices
  events_eq : r'.events = r.events

variable {r r' : Rendering}

theorem AgreeBut.logged (h : r.AgreeBut place c c' r') (message : String) :
    (r.logged message).AgreeBut place c c' (r'.logged message) :=
  ⟨h.engine, h.notices_eq, congrArg (· ++ _) h.events_eq⟩

theorem AgreeBut.change (h : r.AgreeBut place c c' r') (name value : String) :
    ∃ result s s', r.change name value = (result, s) ∧ r'.change name value = (result, s') ∧
      s.AgreeBut place c c' s' := by
  obtain ⟨hresult, hengine⟩ := h.engine.setValue (StoreOnDisk.parallel place c c') name value
  refine ⟨_, _, _, rfl, Prod.ext hresult rfl, hengine, h.notices_eq, ?_⟩
  exact congrArg₂ (· ++ ·) h.events_eq (Log.assigning_congr hresult (Log.saved_of_agreeBut hengine.store) name)

theorem AgreeBut.assign (h : r.AgreeBut place c c' r') (a : Assignment) :
    ∃ result s s', r.assign a = (result, s) ∧ r'.assign a = (result, s') ∧ s.AgreeBut place c c' s' := by
  obtain ⟨result, s, s', hchange, hchange', hagree⟩ := h.change a.name a.value
  rw [Rendering.assign, Rendering.assign, hchange, hchange']
  cases result with
  | error e => exact ⟨_, _, _, rfl, rfl, hagree⟩
  | ok known =>
    cases known with
    | true => exact ⟨_, _, _, rfl, rfl, hagree.logged _⟩
    | false => exact ⟨_, _, _, rfl, rfl, hagree.engine, congrArg (· ++ _) hagree.notices_eq, hagree.events_eq⟩

theorem AgreeBut.assignAll (h : r.AgreeBut place c c' r') (assignments : List Assignment) :
    ∃ result s s', r.assignAll assignments = (result, s) ∧ r'.assignAll assignments = (result, s') ∧
      s.AgreeBut place c c' s' := by
  induction assignments generalizing r r' with
  | nil => exact ⟨_, _, _, rfl, rfl, h⟩
  | cons a rest ih =>
    obtain ⟨result, s, s', hassign, hassign', hagree⟩ := h.assign a
    rw [Rendering.assignAll, Rendering.assignAll, hassign, hassign']
    cases result with
    | error e => exact ⟨_, _, _, rfl, rfl, hagree⟩
    | ok u => exact ih hagree

theorem AgreeBut.missing_eq (h : r.AgreeBut place c c' r') : r'.missing = r.missing := by
  rw [missing, missing, h.engine.alike.vars_eq]

theorem AgreeBut.answer (h : r.AgreeBut place c c' r') (vars : List Variable) (answers : List String) :
    ∃ result s s', r.answer vars answers = (result, s) ∧ r'.answer vars answers = (result, s') ∧
      s.AgreeBut place c c' s' := by
  induction vars generalizing r r' answers with
  | nil => exact ⟨_, _, _, rfl, rfl, h⟩
  | cons v vs ih =>
    obtain ⟨result, s, s', hchange, hchange', hagree⟩ := h.change v.name (answers.headD "")
    rw [Rendering.answer, Rendering.answer, hchange, hchange']
    cases result with
    | error e => exact ⟨_, _, _, rfl, rfl, hagree⟩
    | ok known => exact ih hagree answers.tail

theorem AgreeBut.promptAll (h : r.AgreeBut place c c' r') (vars : List Variable) (answers : List String) :
    ∃ result s s', r.promptAll vars answers = (result, s) ∧ r'.promptAll vars answers = (result, s') ∧
      s.AgreeBut place c c' s' := by
  obtain ⟨result, s, s', hanswer, hanswer', hagree⟩ := h.answer vars answers
  rw [Rendering.promptAll, Rendering.promptAll, hanswer, hanswer']
  cases result with
  | error e => exact ⟨_, _, _, rfl, rfl, hagree⟩
  | ok u => exact ⟨_, _, _, rfl, rfl, hagree.logged _⟩

theorem AgreeBut.promptUntil (h : r.AgreeBut place c c' r') (vars : List Variable) (answers : List String)
    (f : Failure) :
    ∃ result s s', r.promptUntil vars answers f = (result, s) ∧ r'.promptUntil vars answers f = (result, s') ∧
      s.AgreeBut place c c' s' := by
  rw [Rendering.promptUntil, Rendering.promptUntil]
  split
  · exact h.promptAll vars answers
  · obtain ⟨result, s, s', hanswer, hanswer', hagree⟩ := h.answer (vars.take answers.length) answers
    rw [hanswer, hanswer']
    cases result with
    | error e => exact ⟨_, _, _, rfl, rfl, hagree⟩
    | ok u => exact ⟨_, _, _, rfl, rfl, hagree⟩

theorem AgreeBut.prompt (h : r.AgreeBut place c c' r') (terminal : Terminal) :
    ∃ result s s', r.prompt terminal = (result, s) ∧ r'.prompt terminal = (result, s') ∧
      s.AgreeBut place c c' s' := by
  cases terminal with
  | absent => exact ⟨_, _, _, rfl, rfl, h.logged _⟩
  | mute => simpa only [Rendering.prompt, h.missing_eq] using h.promptUntil r.missing [] .prompt
  | closing texts =>
    simpa only [Rendering.prompt, h.missing_eq] using h.promptUntil r.missing (Keyboard.endedLines texts) _
  | answering texts =>
    rw [Rendering.prompt, Rendering.prompt, h.missing_eq]
    split
    · exact h.promptUntil r.missing (Keyboard.endedLines texts) .interrupted
    · exact h.promptAll r.missing (Keyboard.lines texts)

theorem AgreeBut.failed (h : r.AgreeBut place c c' r') (f : Failure) :
    (r.failed f).AgreeBut place c c' (r'.failed f) :=
  ⟨rfl, rfl, h.notices_eq, h.events_eq, h.engine.store.disk⟩

theorem AgreeBut.json_eq (h : r.AgreeBut place c c' r') : r'.json = r.json := by
  obtain ⟨-, hvars, herror, houtput⟩ := h.engine.alike
  rw [json, json, hvars, herror, houtput]

theorem AgreeBut.finished (h : r.AgreeBut place c c' r') (asJson : Bool) :
    (r.finished asJson).AgreeBut place c c' (r'.finished asJson) := by
  refine ⟨rfl, ?_, h.notices_eq, h.events_eq, h.engine.store.disk⟩
  rw [Rendering.finished, Rendering.finished, h.json_eq, h.engine.alike.output_eq]

theorem AgreeBut.malformed (h : r.AgreeBut place c c' r') (file : Path) (e : TemplateError) (asJson : Bool) :
    (r.malformed file e asJson).AgreeBut place c c' (r'.malformed file e asJson) := by
  rw [Rendering.malformed, Rendering.malformed]
  split
  · exact ⟨rfl, h.json_eq, h.notices_eq, h.events_eq, h.engine.store.disk⟩
  · exact h.failed _

end Rendering

section Perform

variable {disk disk' : Disk} {settings : Settings}

/-- What holds of the content of a file of settings, which is no store and no template. -/
def IsSettings (content : Content) : Prop :=
  ∃ text document, content = .text text ∧ SettingsDocument.ofText? text = some document

theorem load_error_of_isSettings {path : Path} (hc : IsSettings c) (h : disk.look? path = some (.file c))
    (key : String) : JsonFileStore.load disk path key = .error (.parse path) := by
  obtain ⟨text, document, rfl, hdocument⟩ := hc
  exact JsonFileStore.load_of_settings (by rw [Disk.read, h]) hdocument key

theorem beginRendering_of_agreeBut (h : disk.AgreeBut place c c' disk') (template : String) {s : JsonFileStore}
    (hread : disk'.read s.path = disk.read s.path) :
    ∃ result r r', beginRendering disk template s = (result, r) ∧ beginRendering disk' template s = (result, r') ∧
      r.AgreeBut place c c' r' := by
  have hstores : StoreOnDisk.AgreeBut place c c' ⟨s, disk⟩ ⟨s, disk'⟩ := ⟨rfl, h⟩
  obtain ⟨hresult, hpaired⟩ := Engine.paired_attach (StoreOnDisk.parallel place c c') hstores template
  refine ⟨_, _, _, rfl, Prod.ext hresult rfl, hpaired, rfl, ?_⟩
  have hevents := Log.attaching_congr hresult hpaired.alike.error_eq.symm (Log.saved_of_agreeBut hpaired.store) template
  exact congrArg₂ (· ++ ·) (Log.loading_congr hread) hevents

section OnBoth

variable (hc : IsSettings c) (hc' : IsSettings c') (h : disk.AgreeBut place c c' disk')
include hc hc' h

/-- A store is loaded on both disks from a file that is the same, or on none of them. -/
theorem load_of_agreeBut (path : Path) (key : String) :
    JsonFileStore.load disk' path key = JsonFileStore.load disk path key ∧
      ∀ s, JsonFileStore.load disk path key = .ok s → disk'.read path = disk.read path := by
  rcases h.look?_cases path with ⟨-, hfile, hfile'⟩ | heq
  · rw [load_error_of_isSettings hc hfile, load_error_of_isSettings hc' hfile']
    exact ⟨rfl, nofun⟩
  · exact ⟨JsonFileStore.load_congr heq key, fun _ _ => Disk.read_congr heq⟩

theorem prepare_of_agreeBut (settings : Settings) {file : Path} (hfile : disk.place file ≠ place) :
    prepare disk' settings file = prepare disk settings file ∧
      ∀ template s, prepare disk settings file = .ok (template, s) → disk'.read s.path = disk.read s.path := by
  obtain ⟨hload, hread⟩ := load_of_agreeBut hc hc' h settings.storePath settings.storeKey
  refine ⟨?_, fun template s hprepare => ?_⟩
  · rw [prepare, prepare, Disk.read_congr (h.look?_eq hfile), hload]
  · have hs := (prepare_eq_ok_iff.1 hprepare).2
    rw [JsonFileStore.path_eq_of_load hs]
    exact hread s hs

theorem inspect_of_agreeBut {file : Path} (hfile : disk.place file ≠ place) :
    inspect disk' settings file = inspect disk settings file := by
  obtain ⟨hsame, hread⟩ := prepare_of_agreeBut hc hc' h settings hfile
  cases hprepare : prepare disk settings file with
  | error f =>
    rw [hprepare] at hsame
    simp only [inspect, hprepare, hsame]
  | ok prepared =>
    obtain ⟨template, s⟩ := prepared
    rw [hprepare] at hsame
    have hstores : StoreOnDisk.AgreeBut place c c' (ReadOnly.mk ⟨s, disk⟩).store (ReadOnly.mk ⟨s, disk'⟩).store :=
      ⟨rfl, h⟩
    obtain ⟨hresult, hpaired⟩ :=
      Engine.paired_attach (ReadOnly.parallel (StoreOnDisk.parallel place c c')) hstores template
    have hevents : Log.attaching template (Engine.attach (ReadOnly.mk (StoreOnDisk.mk s disk')) template) =
        Log.attaching template (Engine.attach (ReadOnly.mk (StoreOnDisk.mk s disk)) template) :=
      Log.attaching_congr hresult hpaired.alike.error_eq.symm rfl template
    rw [inspect, inspect, hprepare, hsame]
    dsimp only
    rw [hevents, Log.loading_congr (hread template s hprepare)]
    rcases hattach : Engine.attach (ReadOnly.mk (StoreOnDisk.mk s disk)) template with ⟨result, e⟩
    rcases hattach' : Engine.attach (ReadOnly.mk (StoreOnDisk.mk s disk')) template with ⟨result', e'⟩
    rw [hattach, hattach'] at hresult hpaired
    dsimp only at hresult hpaired
    subst hresult
    cases result' with
    | error error => rfl
    | ok u => simp only [hpaired.alike.error_eq, hpaired.alike.vars_eq]

/-! ### Subcommands -/

theorem check_of_agreeBut {file : Path} (hfile : disk.place file ≠ place) :
    (check disk settings file).AgreeBut place c c' (check disk' settings file) := by
  rw [check, check, inspect_of_agreeBut hc hc' h hfile]
  split
  · exact ⟨rfl, rfl, rfl, rfl, h⟩
  · exact ⟨rfl, rfl, rfl, rfl, h⟩

theorem vars_of_agreeBut {file : Path} (hfile : disk.place file ≠ place) (asJson : Bool) :
    (vars disk settings file asJson).AgreeBut place c c' (vars disk' settings file asJson) := by
  rw [vars, vars, inspect_of_agreeBut hc hc' h hfile]
  split
  · exact ⟨rfl, rfl, rfl, rfl, h⟩
  · exact ⟨rfl, rfl, rfl, rfl, h⟩

/-- Up to its prompts a rendering comes to the same on both disks. -/
theorem untilPrompts_of_agreeBut (settings : Settings) {file : Path} (hfile : disk.place file ≠ place)
    (assignments : List Assignment) (asJson : Bool) :
    (∃ o o', untilPrompts disk settings file assignments asJson = .error o ∧
        untilPrompts disk' settings file assignments asJson = .error o' ∧ o.AgreeBut place c c' o') ∨
      ∃ r r', untilPrompts disk settings file assignments asJson = .ok r ∧
        untilPrompts disk' settings file assignments asJson = .ok r' ∧ r.AgreeBut place c c' r' := by
  obtain ⟨hsame, hread⟩ := prepare_of_agreeBut hc hc' h settings hfile
  rw [untilPrompts, untilPrompts, hsame]
  cases hprepare : prepare disk settings file with
  | error f => exact .inl ⟨_, _, rfl, rfl, rfl, rfl, rfl, rfl, h⟩
  | ok prepared =>
    obtain ⟨template, s⟩ := prepared
    obtain ⟨result, r, r', hbegin, hbegin', hagree⟩ := beginRendering_of_agreeBut h template (hread template s hprepare)
    dsimp only
    rw [hbegin, hbegin']
    cases result with
    | error e => exact .inl ⟨_, _, rfl, rfl, hagree.failed _⟩
    | ok u =>
      dsimp only
      rw [← hagree.engine.alike.error_eq]
      cases r.engine.error with
      | some e => exact .inl ⟨_, _, rfl, rfl, hagree.malformed file e asJson⟩
      | none =>
        obtain ⟨result, s, s', hassign, hassign', hnext⟩ := hagree.assignAll assignments
        dsimp only
        rw [hassign, hassign']
        cases result with
        | error e => exact .inl ⟨_, _, rfl, rfl, hnext.failed _⟩
        | ok u => exact .inr ⟨_, _, rfl, rfl, hnext⟩

theorem render_of_agreeBut {file : Path} (hfile : disk.place file ≠ place) (terminal : Terminal)
    (assignments : List Assignment) (batch asJson : Bool) :
    (render disk terminal settings file assignments batch asJson).AgreeBut place c c'
      (render disk' terminal settings file assignments batch asJson) := by
  rw [render, render]
  rcases untilPrompts_of_agreeBut hc hc' h settings hfile assignments asJson with
    ⟨o, o', huntil, huntil', hagree⟩ | ⟨r, r', huntil, huntil', hagree⟩
  · rw [huntil, huntil']
    exact hagree
  · obtain ⟨result, s, s', hprompt, hprompt', hnext⟩ := hagree.prompt (if batch then .absent else terminal)
    rw [huntil, huntil']
    dsimp only
    rw [hprompt, hprompt']
    cases result with
    | error f => exact hnext.failed f
    | ok u => exact hnext.finished asJson

/-- The file of the template of a subcommand that has one. -/
def template? : Subcommand → Option Path
  | .doctor => none
  | .check file => some file
  | .vars file _ => some file
  | .render file _ _ _ => some file

/-- A subcommand comes to the same on disks that agree but for a file of settings that is not its template. -/
theorem perform_of_agreeBut (env : Environment) (terminal : Terminal) (settings : Settings) {command : Subcommand}
    (hfile : ∀ file, template? command = some file → disk.place file ≠ place) :
    (perform ⟨disk, env, terminal⟩ settings command).AgreeBut place c c'
      (perform ⟨disk', env, terminal⟩ settings command) := by
  cases command with
  | doctor => exact ⟨rfl, rfl, rfl, rfl, h⟩
  | check file => exact check_of_agreeBut hc hc' h (hfile file rfl)
  | vars file asJson => exact vars_of_agreeBut hc hc' h (hfile file rfl) asJson
  | render file assignments batch asJson =>
    exact render_of_agreeBut hc hc' h (hfile file rfl) terminal assignments batch asJson

end OnBoth

/-! ### The log -/

theorem openLog_of_agreeBut (h : disk.AgreeBut place c c' disk') (logging : Logging) :
    (openLog disk' logging).1 = (openLog disk logging).1 ∧
      (openLog disk logging).2.AgreeBut place c c' (openLog disk' logging).2 := by
  rw [openLog, openLog]
  cases logging.file? with
  | none => exact ⟨rfl, h⟩
  | some log => exact h.write log ""

theorem closeLog_of_agreeBut (h : disk.AgreeBut place c c' disk') (logging : Logging) (events : List Log.Event) :
    (closeLog disk logging events).AgreeBut place c c' (closeLog disk' logging events) := by
  rw [closeLog, closeLog]
  split
  · exact h
  · exact h
  · next log _ _ => exact (h.write log _).2

end Perform

end Command

end TypedTemplates
