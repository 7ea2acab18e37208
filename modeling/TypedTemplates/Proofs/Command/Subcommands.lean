import TypedTemplates.Proofs.Command.Calls

/-!
# What subcommands show

The subcommands `check`, `vars` and `render` show what the template in a file comes to. The first two look at the store
only (`inspect_of_prepare`) and the last one saves to it, but when the store can be written and no values are given, all
of them come to the same: a failure (`perform_of_prepare_error`, `perform_of_declarations_error`), which each of them
tells in the same lines after one that names it (`report_eq`), or the variables of the template
(`Ready.perform`).
-/

namespace TypedTemplates.Command

open Json (Value)
open Template (Declaration declarations parse seeded)

/-! ### What failures say -/

/-- Where an error is, in a line of its own, if it has a position. -/
def offsetLine (error : TemplateError) : String :=
  (error.position?.map fun n => "\n  at offset " ++ String.ofList (Decimal.text n)).getD ""

theorem message_malformed (file : Path) (error : TemplateError) :
    (Failure.malformed file error).message = file.text ++ ": " ++ error.message ++ offsetLine error := by
  cases error with
  | mismatchedBrackets => exact String.append_empty.symm
  | invalidFormat => exact String.append_empty.symm
  | invalidType found n => exact String.append_assoc

/-- A line that names the subcommand, and then the cause. -/
theorem report_eq (name : CommandName) {f : Failure} (h : f ≠ .interrupted) :
    f.report (some name) = "FAIL etpl " ++ name.text ++ "\n" ++ (f.message ++ "\n") := by
  have hspeaker : "FAIL " ++ (programName ++ " " ++ name.text) = "FAIL etpl " ++ name.text := by
    cases name <;> rfl
  rw [Failure.report, if_neg h, hspeaker, String.append_assoc]

/-- The subcommand shows the template in the file or its variables, and gives them no values. -/
inductive Shows (file : Path) : Subcommand → Prop
  | check : Shows file (.check file)
  | vars (asJson : Bool) : Shows file (.vars file asJson)
  | render (batch asJson : Bool) : Shows file (.render file [] batch asJson)

section Inspect

variable {disk : Disk} {settings : Settings} {file : Path}

theorem inspect_of_prepare_error {f : Failure} (h : prepare disk settings file = .error f) :
    (inspect disk settings file).1 = .error f := by
  simp only [inspect, h]

/-- A template that is looked at has the variables that it is given by the store. -/
theorem inspect_of_prepare {template : String} {s : JsonFileStore}
    (h : prepare disk settings file = .ok (template, s)) :
    (inspect disk settings file).1 = (parse template s.value?).mapError (.malformed file) := by
  cases hd : declarations template with
  | error error =>
    have hattach := Engine.attach_eq_of_error (ReadOnly.mk (StoreOnDisk.mk s disk)) hd
    rw [Template.parse_eq_error_iff.2 hd]
    simp only [inspect, h, hattach]
    rfl
  | ok ds =>
    have hattach : Engine.attach (ReadOnly.mk (StoreOnDisk.mk s disk)) template = _ := Engine.setTemplate_of_ok _ hd
    rw [Template.parse_eq_ok_iff.2 ⟨ds, hd, rfl⟩]
    simp only [inspect, h, hattach]
    rfl

theorem check_of_error {f : Failure} (h : (inspect disk settings file).1 = .error f) :
    (check disk settings file).exitCode = f.exitCode ∧ (check disk settings file).output = f.report (some .check) := by
  rcases hinspect : inspect disk settings file with ⟨result, events⟩
  rw [hinspect] at h
  cases h
  rw [check, hinspect]
  exact ⟨rfl, rfl⟩

theorem check_of_ok {shown : VariableSet} (h : (inspect disk settings file).1 = .ok shown) :
    (check disk settings file).exitCode = 0 ∧ (check disk settings file).output = checkReport file shown.size := by
  rcases hinspect : inspect disk settings file with ⟨result, events⟩
  rw [hinspect] at h
  cases h
  rw [check, hinspect]
  exact ⟨rfl, rfl⟩

theorem vars_of_error {f : Failure} (h : (inspect disk settings file).1 = .error f) (asJson : Bool) :
    (vars disk settings file asJson).exitCode = f.exitCode ∧
      (vars disk settings file asJson).output = f.report (some .vars) := by
  rcases hinspect : inspect disk settings file with ⟨result, events⟩
  rw [hinspect] at h
  cases h
  rw [vars, hinspect]
  exact ⟨rfl, rfl⟩

theorem vars_of_ok {shown : VariableSet} (h : (inspect disk settings file).1 = .ok shown) (asJson : Bool) :
    (vars disk settings file asJson).exitCode = 0 ∧ (vars disk settings file asJson).output =
      if asJson then shown.toJson.text .indented ++ "\n" else variableTable shown := by
  rcases hinspect : inspect disk settings file with ⟨result, events⟩
  rw [hinspect] at h
  cases h
  rw [vars, hinspect]
  exact ⟨rfl, rfl⟩

end Inspect

section Perform

variable {host : Host} {settings : Settings} {file : Path} {template : String} {s : JsonFileStore} {c : Subcommand}

theorem perform_of_prepare_error {f : Failure} (h : prepare host.disk settings file = .error f) (hc : Shows file c) :
    (perform host settings c).exitCode = 1 ∧ (perform host settings c).output = f.report (some c.name) := by
  have hinspect := inspect_of_prepare_error h
  have hexit := exitCode_of_ne_interrupted (ne_interrupted_of_prepare h)
  cases hc with
  | check => exact ⟨(check_of_error hinspect).1.trans hexit, (check_of_error hinspect).2⟩
  | vars asJson => exact ⟨(vars_of_error hinspect asJson).1.trans hexit, (vars_of_error hinspect asJson).2⟩
  | render batch asJson =>
    simp only [perform, render_of_untilPrompts_error (untilPrompts_of_prepare_error [] asJson h)]
    exact ⟨hexit, rfl⟩

/-- Where it writes JSON, a rendering that fails tells the error in another way. -/
theorem perform_of_declarations_error {error : TemplateError} (h : prepare host.disk settings file = .ok (template, s))
    (hd : declarations template = .error error) (hc : Shows file c) :
    (perform host settings c).exitCode = 1 ∧ ((∀ batch, c ≠ .render file [] batch true) →
      (perform host settings c).output = (Failure.malformed file error).report (some c.name)) := by
  have hinspect : (inspect host.disk settings file).1 = .error (.malformed file error) := by
    rw [inspect_of_prepare h, Template.parse_eq_error_iff.2 hd]
    rfl
  cases hc with
  | check => exact ⟨(check_of_error hinspect).1, fun _ => (check_of_error hinspect).2⟩
  | vars asJson => exact ⟨(vars_of_error hinspect asJson).1, fun _ => (vars_of_error hinspect asJson).2⟩
  | render batch asJson =>
    obtain ⟨r, huntil, -⟩ := untilPrompts_of_error [] asJson h hd
    simp only [perform, render_of_untilPrompts_error huntil]
    cases asJson with
    | true => exact ⟨rfl, fun hplain => absurd rfl (hplain batch)⟩
    | false => exact ⟨rfl, fun _ => rfl⟩

/-- What the subcommands write that show a template with these variables. -/
structure Shown (file : Path) (template : String) (shown : VariableSet) (o : Subcommand → Outcome) : Prop where
  exitCode_eq : ∀ c, Shows file c → (o c).exitCode = 0
  check_eq : (o (.check file)).output = checkReport file shown.size
  table_eq : (o (.vars file false)).output = variableTable shown
  list_eq : (o (.vars file true)).output = shown.toJson.text .indented ++ "\n"
  text_eq : ∀ batch, (o (.render file [] batch false)).output = Template.render template shown false
  json_eq : ∀ batch, (o (.render file [] batch true)).output =
    (Value.object [("output", .string (Template.render template shown false)), ("variables", shown.toJson)]).text
      .indented ++ "\n"

theorem Ready.perform {ds : List Declaration} (h : Ready host.disk settings file template s ds)
    (hterminal : host.terminal = .absent) :
    Shown file template (seeded s.value? ds) fun c => perform host settings c := by
  let shown := seeded s.value? ds
  have hinspect : (inspect host.disk settings file).1 = .ok shown := by
    rw [inspect_of_prepare h.prepare_eq, Template.parse_eq_ok_iff.2 ⟨ds, h.declarations_eq, rfl⟩]
    rfl
  have hsaves : SavesSucceed host.disk s template [] := ⟨h.fst_beginRendering, trivial⟩
  have hrender : ∀ batch asJson, ∃ r : Rendering,
      Command.perform host settings (.render file [] batch asJson) = r.finished asJson ∧
        r.engine.vars = shown ∧ r.engine.error = none ∧ r.engine.output = Template.render template shown false := by
    intro batch asJson
    obtain ⟨r, hrender, hsaved, hvars, -⟩ := h.exists_finished [] asJson hsaves batch
    refine ⟨r, ?_, hvars, hsaved.error_eq, by rw [hsaved.output_eq, hvars]; rfl⟩
    rw [Command.perform, hterminal, hrender]
  constructor
  · intro c hc
    cases hc with
    | check => exact (check_of_ok hinspect).1
    | vars asJson => exact (vars_of_ok hinspect asJson).1
    | render batch asJson =>
      obtain ⟨r, hr, -⟩ := hrender batch asJson
      exact congrArg Outcome.exitCode hr
  · exact (check_of_ok hinspect).2
  · exact (vars_of_ok hinspect false).2
  · exact (vars_of_ok hinspect true).2
  · intro batch
    obtain ⟨r, hr, -, -, houtput⟩ := hrender batch false
    exact (congrArg Outcome.output hr).trans houtput
  · intro batch
    obtain ⟨r, hr, hvars, herror, houtput⟩ := hrender batch true
    refine (congrArg Outcome.output hr).trans ?_
    show r.json = _
    rw [Rendering.json, hvars, herror, houtput]
    rfl

/-- If the variables of the template can be saved, all subcommands tell the same failure, or all of them show the
template. -/
theorem failed_or_shown (hterminal : host.terminal = .absent) (file : Path)
    (hsave : ∀ text kept ds, prepare host.disk settings file = .ok (text, kept) → declarations text = .ok ds →
      (kept.save host.disk (seeded kept.value? ds)).1 = .ok ()) :
    (∃ f : Failure, f ≠ .interrupted ∧ (∀ c, Shows file c → (perform host settings c).exitCode = 1 ∧
        ((∀ batch, c ≠ .render file [] batch true) → (perform host settings c).output = f.report (some c.name))) ∧
      ∀ text kept error, prepare host.disk settings file = .ok (text, kept) →
        parse text kept.value? = .error error → f = .malformed file error) ∨
      ∃ text kept ds, Ready host.disk settings file text kept ds ∧
        Shown file text (seeded kept.value? ds) fun c => perform host settings c := by
  cases hprepare : prepare host.disk settings file with
  | error f =>
    refine .inl ⟨f, ne_interrupted_of_prepare hprepare, fun c hc => ?_, nofun⟩
    obtain ⟨hexit, houtput⟩ := perform_of_prepare_error hprepare hc
    exact ⟨hexit, fun _ => houtput⟩
  | ok prepared =>
    obtain ⟨text, kept⟩ := prepared
    cases hd : declarations text with
    | error error =>
      refine .inl ⟨.malformed file error, nofun, fun c => perform_of_declarations_error hprepare hd, ?_⟩
      intro text' kept' error' hsame herror
      cases hsame
      rw [Template.parse_eq_error_iff.1 herror] at hd
      cases hd
      rfl
    | ok ds =>
      have hready : Ready host.disk settings file text kept ds := ⟨hprepare, hd, hsave text kept ds hprepare hd⟩
      exact .inr ⟨text, kept, ds, hready, hready.perform hterminal⟩

end Perform

/-! ### Whole runs -/

section Run

variable {host : Host} {config? store? : Option Path} {file : Path} {settings : Settings} {opened : Disk}

/-- A run that has started shows what its subcommand does with the log opened. -/
theorem shown_of_start {c : Subcommand} (h : start host ⟨config?, store?, c⟩ = .ok (settings, opened)) :
    (invoke host ⟨config?, store?, c⟩).exitCode = (perform { host with disk := opened } settings c).exitCode ∧
      (invoke host ⟨config?, store?, c⟩).output = (perform { host with disk := opened } settings c).output := by
  rw [invoke_of_start h]
  exact ⟨rfl, rfl⟩

/-- From one state of the files in which the variables of the template can be saved and the log, if there is one, is
neither where the store is nor where the template is, all subcommands that show the template succeed or all of them
fail. If they cannot start, they all come to the same outcome. If they have started and fail, each of them writes a
line that names it and then the same text, which gives the file, the message and the offset if the template has an
error. If they succeed, then `check` counts the variables that `vars` lists, `render` writes the template with the
values of these variables, and as JSON it writes the same list with it. -/
theorem subcommands_agree (hterminal : host.terminal = .absent)
    (hworks : ∀ c settings opened, start host ⟨config?, store?, c⟩ = .ok (settings, opened) →
      LogElsewhere settings.logging host.disk settings.storePath ∧ LogElsewhere settings.logging host.disk file ∧
      ∀ text kept vars, opened.read file = .ok text →
        JsonFileStore.load opened settings.storePath settings.storeKey = .ok kept → parse text kept.value? = .ok vars →
        (kept.save opened vars).1 = .ok ()) :
    let o c := invoke host ⟨config?, store?, c⟩
    (∀ arguments c, Request.ofArguments arguments = .ok (.run ⟨config?, store?, c⟩) → run host arguments = o c) ∧
    ((∀ c, Shows file c → (o c).exitCode = 0) ∨ ∀ c, Shows file c → (o c).exitCode = 1) ∧
    (∀ outcome, start host ⟨config?, store?, .check file⟩ = .error outcome → ∀ c, o c = outcome) ∧
    (∀ settings opened, start host ⟨config?, store?, .check file⟩ = .ok (settings, opened) →
      (o (.check file)).exitCode = 1 →
      ∃ rest : String, (o (.check file)).output = "FAIL etpl check\n" ++ rest ∧
        (∀ asJson, (o (.vars file asJson)).output = "FAIL etpl vars\n" ++ rest) ∧
        (∀ batch, (o (.render file [] batch false)).output = "FAIL etpl render\n" ++ rest) ∧
        ∀ text kept error, host.disk.read file = .ok text →
          JsonFileStore.load host.disk settings.storePath settings.storeKey = .ok kept →
          parse text kept.value? = .error error →
          rest = file.text ++ ": " ++ error.message ++ offsetLine error ++ "\n") ∧
    ((o (.check file)).exitCode = 0 → ∃ settings text kept shown,
      settingsFor host ⟨config?, store?, .check file⟩ = .ok settings ∧ host.disk.read file = .ok text ∧
      JsonFileStore.load host.disk settings.storePath settings.storeKey = .ok kept ∧
      parse text kept.value? = .ok shown ∧
      (o (.check file)).output = checkReport file shown.size ∧
      (o (.vars file false)).output = variableTable shown ∧
      (o (.vars file true)).output = shown.toJson.text .indented ++ "\n" ∧
      ∀ batch, (o (.render file [] batch false)).output = String.ofList ((Template.Layout.of text.toList).fill fun m =>
          ((shown.value? m.varName).getD "").toList) ∧
        (o (.render file [] batch true)).output = (Value.object [("output",
          .string (o (.render file [] batch false)).output), ("variables", shown.toJson)]).text .indented ++ "\n") := by
  intro o
  refine ⟨fun arguments c hasks => by rw [run, hasks], ?_⟩
  cases hstart : start host ⟨config?, store?, .check file⟩ with
  | error outcome =>
    -- the subcommand makes no difference to how a run starts
    have hall : ∀ c, start host ⟨config?, store?, c⟩ = .error outcome := fun _ => hstart
    have hsame : ∀ c, o c = outcome := fun c => invoke_of_start_error (hall c)
    have hexit : ∀ c, (o c).exitCode = 1 := fun c => by rw [hsame, exitCode_of_start_error hstart]
    refine ⟨.inr fun c _ => hexit c, ?_, ?_, ?_⟩
    · rintro outcome' ⟨⟩
      exact hsame
    · intro settings opened hok
      cases hok
    · intro hzero
      rw [hexit] at hzero
      cases hzero
  | ok started =>
    obtain ⟨settings, opened⟩ := started
    have hall : ∀ c, start host ⟨config?, store?, c⟩ = .ok (settings, opened) := fun _ => hstart
    obtain ⟨hstore, htemplate, hsave⟩ := hworks (.check file) settings opened hstart
    have hopen := openLog_of_start hstart
    have hread : opened.read file = host.disk.read file := Disk.read_congr (look?_openLog hopen htemplate)
    have hload := JsonFileStore.load_congr (look?_openLog hopen hstore) settings.storeKey
    -- all of them see the files as they are when the log has been made
    let inside : Host := { host with disk := opened }
    have hexit : ∀ c, (o c).exitCode = (perform inside settings c).exitCode :=
      fun c => (shown_of_start (hall c)).1
    have houtput : ∀ c, (o c).output = (perform inside settings c).output := fun c => (shown_of_start (hall c)).2
    have habsent : inside.terminal = .absent := hterminal
    have hsave : ∀ text kept ds, prepare inside.disk settings file = .ok (text, kept) → declarations text = .ok ds →
        (kept.save inside.disk (seeded kept.value? ds)).1 = .ok () := by
      intro text kept ds hprepare hd
      obtain ⟨htext, hkept⟩ := prepare_eq_ok_iff.1 hprepare
      exact hsave text kept _ htext hkept (Template.parse_eq_ok_iff.2 ⟨ds, hd, rfl⟩)
    rcases failed_or_shown habsent file hsave with ⟨f, hf, hfails, hmalformed⟩ | ⟨text, kept, ds, hready, hshown⟩
    · have hone : ∀ c, Shows file c → (o c).exitCode = 1 := fun c hc => (hexit c).trans (hfails c hc).1
      have htold : ∀ c, Shows file c → (∀ batch, c ≠ .render file [] batch true) →
          (o c).output = "FAIL etpl " ++ c.name.text ++ "\n" ++ (f.message ++ "\n") := fun c hc hplain =>
        (houtput c).trans (((hfails c hc).2 hplain).trans (report_eq c.name hf))
      refine ⟨.inr hone, ?_, ?_, ?_⟩
      · intro outcome herror
        cases herror
      · rintro settings' opened' hsame -
        cases hsame
        refine ⟨f.message ++ "\n", htold _ .check ?_, fun asJson => htold _ (.vars asJson) ?_,
          fun batch => htold _ (.render batch false) ?_, ?_⟩
        · rintro batch ⟨⟩
        · rintro batch ⟨⟩
        · rintro batch' ⟨⟩
        intro text kept error htext hkept herror
        rw [hmalformed text kept error (prepare_eq_ok_iff.2 ⟨hread.trans htext, hload.trans hkept⟩) herror,
          message_malformed]
      · intro hzero
        rw [hone _ .check] at hzero
        cases hzero
    · have hzero : ∀ c, Shows file c → (o c).exitCode = 0 := fun c hc => (hexit c).trans (hshown.exitCode_eq c hc)
      obtain ⟨htext, hkept⟩ := prepare_eq_ok_iff.1 hready.prepare_eq
      refine ⟨.inl hzero, ?_, ?_, ?_⟩
      · intro outcome herror
        cases herror
      · intro _ _ _ hone
        rw [hzero _ .check] at hone
        cases hone
      · intro _
        let shown := seeded kept.value? ds
        refine ⟨settings, text, kept, shown, (of_start hstart).1, hread.symm.trans htext, hload.symm.trans hkept,
          Template.parse_eq_ok_iff.2 ⟨ds, hready.declarations_eq, rfl⟩, (houtput _).trans hshown.check_eq,
          (houtput _).trans hshown.table_eq, (houtput _).trans hshown.list_eq, fun batch => ?_⟩
        have hplain : (o (.render file [] batch false)).output = Template.render text shown false :=
          (houtput _).trans (hshown.text_eq batch)
        refine ⟨hplain.trans (Template.render_seeded kept.value? hready.declarations_eq), ?_⟩
        rw [hplain]
        exact (houtput _).trans (hshown.json_eq batch)

end Run

section OnDisk

open Call (diskOf homely templatePath)
open JsonFileStore (plainPath)

/-- There the variables of any template can be saved, and there is no log. -/
theorem works_diskOf (before template : String) (c : Subcommand) (settings : Settings) (opened : Disk)
    (hstart : start ⟨diskOf before template, homely, .absent⟩ ⟨none, some plainPath, c⟩ = .ok (settings, opened)) :
    LogElsewhere settings.logging (diskOf before template) settings.storePath ∧
      LogElsewhere settings.logging (diskOf before template) templatePath ∧
      ∀ text kept vars, opened.read templatePath = .ok text →
        JsonFileStore.load opened settings.storePath settings.storeKey = .ok kept → parse text kept.value? = .ok vars →
        (kept.save opened vars).1 = .ok () := by
  rw [Call.start_diskOf _ _ .absent c] at hstart
  cases hstart
  exact ⟨nofun, nofun, fun _ s vs _ hload _ => Call.save_diskOf _ _ s vs (JsonFileStore.path_eq_of_load hload)⟩

/-- Two variables, one of which has a value in the store, and a template with a type that there is not. -/
theorem subcommands_agree_one_value :
    let saved : VariableSet := .ofList [⟨"a", .text, "x"⟩]
    let kept : JsonFileStore := ⟨plainPath, defaultNamespace, saved.entries, []⟩
    let shown : VariableSet := .ofList [⟨"a", .text, "x"⟩, ⟨"b", .url, ""⟩]
    let before := (kept.root saved).text .indented
    let good := "\x7b\x7ba|text\x7d\x7d: \x7b\x7bb|url\x7d\x7d"
    let bad := "\x7b\x7ba|text\x7d\x7d: \x7b\x7bb|foo\x7d\x7d"
    let shows (template : String) (arguments : List String) : String :=
      (run ⟨diskOf before template, homely, .absent⟩ arguments).output
    let message := "t: Invalid type \"foo\". Valid types: " ++ VarType.tokenList ++ "\n  at offset 12\n"
    shows good ["--store", "v", "check", "t"] = "OK   etpl check\nt: 2 variables\n" ∧
    shows good ["--store", "v", "vars", "--json", "t"] = shown.toJson.text .indented ++ "\n" ∧
    shows good ["--store", "v", "render", "t"] = "x: " ∧
    shows good ["--store", "v", "render", "t", "--json"] =
      (Value.object [("output", .string "x: "), ("variables", shown.toJson)]).text .indented ++ "\n" ∧
    shows bad ["--store", "v", "check", "t"] = "FAIL etpl check\n" ++ message ∧
    shows bad ["--store", "v", "vars", "--json", "t"] = "FAIL etpl vars\n" ++ message ∧
    shows bad ["--store", "v", "render", "t"] = "FAIL etpl render\n" ++ message := by
  intro saved kept shown before good bad shows message
  have hload : ∀ template, JsonFileStore.load (diskOf before template) plainPath defaultNamespace = .ok kept :=
    Call.load_diskOf saved
  have hcheck : Request.ofArguments ["--store", "v", "check", "t"] =
      .ok (.run ⟨none, some plainPath, .check templatePath⟩) := by decide +kernel
  have hlist : Request.ofArguments ["--store", "v", "vars", "--json", "t"] =
      .ok (.run ⟨none, some plainPath, .vars templatePath true⟩) := by decide +kernel
  have hplain : Request.ofArguments ["--store", "v", "render", "t"] =
      .ok (.run ⟨none, some plainPath, .render templatePath [] false false⟩) := by decide +kernel
  have hjson : Request.ofArguments ["--store", "v", "render", "t", "--json"] =
      .ok (.run ⟨none, some plainPath, .render templatePath [] false true⟩) := by decide +kernel
  obtain ⟨hgood, -, -, -, hshown⟩ := subcommands_agree rfl (works_diskOf before good)
  obtain ⟨hbad, -, -, hfails, -⟩ := subcommands_agree rfl (works_diskOf before bad)
  let checking : Invocation := ⟨none, some plainPath, .check templatePath⟩
  have hzero : (invoke ⟨diskOf before good, homely, .absent⟩ checking).exitCode = 0 := by decide +kernel
  have hone : (invoke ⟨diskOf before bad, homely, .absent⟩ checking).exitCode = 1 := by decide +kernel
  obtain ⟨settings, text, kept', shown', hsettings, htext, hkept, hparse, hcount, -, hwritten, hrendered⟩ :=
    hshown hzero
  rw [(of_start (Call.start_diskOf before good .absent (.check templatePath))).1] at hsettings
  cases hsettings
  have htext : Except.ok good = Except.ok text := (Call.read_templatePath_diskOf before good).symm.trans htext
  have hkept : Except.ok kept = Except.ok kept' := (hload good).symm.trans hkept
  rw [Except.ok.injEq] at htext hkept
  subst htext hkept
  have hd : declarations good = .ok [⟨"a", .text⟩, ⟨"b", .url⟩] := by decide +kernel
  have hsame : shown = seeded kept.value? [⟨"a", .text⟩, ⟨"b", .url⟩] :=
    VariableSet.eq_of_toList_eq (by decide +kernel)
  have hagain : Except.ok shown = Except.ok shown' :=
    (Template.parse_eq_ok_iff.2 ⟨_, hd, hsame.symm⟩).symm.trans hparse
  cases hagain
  obtain ⟨hfilled, hwhole⟩ := hrendered false
  have hfilled : _ = "x: " := hfilled.trans (by decide +kernel)
  rw [hfilled] at hwhole
  have hstart := Call.start_diskOf before bad .absent (.check templatePath)
  obtain ⟨rest, hchecked, hlisted, hplainly, hrest⟩ := hfails _ _ hstart hone
  have hbroken : declarations bad = .error (.invalidType "foo" 12) := by decide +kernel
  have hrest : rest = message := by
    refine (hrest bad kept _ (Call.read_templatePath_diskOf before bad) (hload bad)
      (Template.parse_eq_error_iff.2 hbroken)).trans ?_
    decide +kernel
  subst hrest
  have hcounted : checkReport templatePath shown.size = "OK   etpl check\nt: 2 variables\n" := by decide +kernel
  have houtput {o o' : Outcome} {text : String} (h : o = o') (htext : o'.output = text) : o.output = text := h ▸ htext
  exact ⟨houtput (hgood _ _ hcheck) (hcount.trans hcounted), houtput (hgood _ _ hlist) hwritten,
    houtput (hgood _ _ hplain) hfilled, houtput (hgood _ _ hjson) hwhole, houtput (hbad _ _ hcheck) hchecked,
    houtput (hbad _ _ hlist) (hlisted true), houtput (hbad _ _ hplain) (hplainly false)⟩

end OnDisk

end TypedTemplates.Command
