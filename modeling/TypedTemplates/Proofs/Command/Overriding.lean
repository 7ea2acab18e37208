import TypedTemplates.Proofs.Command.Agreeing
import TypedTemplates.Proofs.Command.Calls
import TypedTemplates.Proofs.Settings.Fields

/-!
# A store named on the command line

Of the path of a store that settings give, only whether it can be expanded counts where the command line names another
one (`Settings.load_map_of_withoutStorePath`). So with settings files that differ in this path only, the program does
the same (`Command.store_option_overrides_path`), unless the path can be expanded in just one of them. The other one is
refused then, although its path would not be used.
-/

namespace TypedTemplates

/-- The document, with nothing about the path of the store. -/
def SettingsDocument.withoutStorePath (document : SettingsDocument) : SettingsDocument :=
  { document with store := { document.store with path? := none } }

/-- The settings, with another path of the store. -/
def Settings.withStorePath (path : Path) (settings : Settings) : Settings :=
  { settings with storePath := path }

namespace Settings

open SettingsDocument (ofText? withoutStorePath)
open SettingsKey (Expands)

variable {env : Environment} {text text' : String} {document document' : SettingsDocument}

theorem ofDocument_map_of_withoutStorePath (source store : Path) (hsaid : document.Says text)
    (hsaid' : document'.Says text') (hsame : document'.withoutStorePath = document.withoutStorePath)
    (hexpands : Expands env text ↔ Expands env text') :
    (ofDocument env source document').map (withStorePath store) =
      (ofDocument env source document).map (withStorePath store) := by
  by_cases h : Expands env text
  · have hkey : document'.store.storeKey? = document.store.storeKey? := congrArg (·.store.storeKey?) hsame
    have hlogging : document'.logging = document.logging := congrArg (·.logging) hsame
    obtain ⟨path, hpath, -⟩ := expandOr_eq_ok id env.storePath (h .storePath rfl)
    obtain ⟨path', hpath', -⟩ := expandOr_eq_ok id env.storePath (hexpands.1 h .storePath rfl)
    rw [ofDocument_eq, ofDocument_eq, hsaid.storePath, hsaid'.storePath, hpath, hpath', hkey, hlogging]
    cases expandOr env some none document.logging.file? <;> rfl
  · have h' : ¬ Expands env text' := fun hsome => h (hexpands.2 hsome)
    rw [ofDocument_eq_error source hsaid h, ofDocument_eq_error source hsaid' h']

/-- Settings files that differ in the path of the store only give settings that differ in nothing else, or the same
error, unless in version 1 the paths can be expanded in just one of them. -/
theorem load_map_of_withoutStorePath {disk disk' : Disk} {path? : Option Path} (store : Path)
    (hread : disk.read (path?.getD env.settingsPath) = .ok text)
    (hread' : disk'.read (path?.getD env.settingsPath) = .ok text') (hdocument : ofText? text = some document)
    (hdocument' : ofText? text' = some document') (hsame : document'.withoutStorePath = document.withoutStorePath)
    (hexpands : document.version = 1 → (Expands env text ↔ Expands env text')) :
    (load disk' env path?).map (withStorePath store) = (load disk env path?).map (withStorePath store) := by
  have hversion : document'.version = document.version := congrArg (·.version) hsame
  rw [load_of_read hread hdocument, load_of_read hread' hdocument', hversion]
  by_cases h : document.version = 1
  · rw [if_pos h, if_pos h]
    exact ofDocument_map_of_withoutStorePath _ store (SettingsDocument.says_of_ofText? hdocument)
      (SettingsDocument.says_of_ofText? hdocument') hsame (hexpands h)
  · rw [if_neg h, if_neg h]

end Settings

namespace Command

open SettingsDocument (ofText? withoutStorePath)
open SettingsKey (Expands)

variable {host : Host} {invocation : Invocation} {disk' : Disk} {store : Path}

/-! ### Settings of an invocation -/

theorem settingsFor_congr (hstore : invocation.storePath? = some store)
    (h : (Settings.load disk' host.environment invocation.configPath?).map (Settings.withStorePath store) =
      (Settings.load host.disk host.environment invocation.configPath?).map (Settings.withStorePath store)) :
    settingsFor { host with disk := disk' } invocation = settingsFor host invocation := by
  rw [settingsFor, settingsFor, hstore]
  cases hload : Settings.load host.disk host.environment invocation.configPath? with
  | error e =>
    cases hload' : Settings.load disk' host.environment invocation.configPath? with
    | error e' =>
      rw [hload, hload'] at h
      cases h
      rfl
    | ok settings' =>
      rw [hload, hload'] at h
      cases h
  | ok settings =>
    cases hload' : Settings.load disk' host.environment invocation.configPath? with
    | error e' =>
      rw [hload, hload'] at h
      cases h
    | ok settings' =>
      rw [hload, hload'] at h
      exact congrArg Except.ok (Except.ok.inj h)

theorem storePath_of_settingsFor {settings : Settings} (hstore : invocation.storePath? = some store)
    (h : settingsFor host invocation = .ok settings) : settings.storePath = store := by
  unfold settingsFor at h
  split at h
  · cases h
    rw [hstore]
    rfl
  · cases h

/-! ### Runs -/

variable {place : Place} {c c' : Content}

/-- An invocation comes to the same on disks that agree but for a file of settings, if it has the same settings on
both. -/
theorem invoke_of_agreeBut (h : host.disk.AgreeBut place c c' disk')
    (hsettings : settingsFor { host with disk := disk' } invocation = settingsFor host invocation)
    (hc : IsSettings c) (hc' : IsSettings c')
    (hfile : ∀ file, template? invocation.command = some file → host.disk.place file ≠ place) :
    (invoke host invocation).AgreeBut place c c' (invoke { host with disk := disk' } invocation) := by
  rw [invoke, invoke, start, start, hsettings]
  cases settingsFor host invocation with
  | error f => exact ⟨rfl, rfl, rfl, rfl, h⟩
  | ok settings =>
    obtain ⟨hresult, hlog⟩ := openLog_of_agreeBut h settings.logging
    rcases hopen : openLog host.disk settings.logging with ⟨result, opened⟩
    rcases hopen' : openLog disk' settings.logging with ⟨result', opened'⟩
    rw [hopen, hopen'] at hresult hlog
    dsimp only at hresult hlog
    subst hresult
    dsimp only
    rw [hopen, hopen']
    cases result' with
    | error cause => exact ⟨rfl, rfl, rfl, rfl, hlog⟩
    | ok u =>
      have hplace : ∀ file, template? invocation.command = some file → opened.place file ≠ place := by
        intro file hcommand
        rw [Disk.place_congr (workingDirectory_openLog hopen) file]
        exact hfile file hcommand
      have hdone := perform_of_agreeBut hc hc' hlog host.environment host.terminal settings hplace
      refine ⟨hdone.exitCode_eq, hdone.output_eq, hdone.notices_eq, hdone.events_eq, ?_⟩
      dsimp only
      rw [hdone.events_eq]
      exact closeLog_of_agreeBut hdone.disk settings.logging _

/-- Without settings an invocation tells why there are none, and does nothing. -/
theorem invoke_of_load_error {e : SettingsError}
    (h : Settings.load host.disk host.environment invocation.configPath? = .error e) :
    invoke host invocation = ⟨1, (Failure.settings e
      (if invocation.configPath?.isSome then none else some host.environment.settingsPath)).report none, [], [],
      host.disk⟩ := by
  rw [invoke, start, settingsFor, h]

theorem exists_report_malformed (path : Path) (searched? : Option Path) :
    ∃ rest, (Failure.settings (.malformed path) searched?).report none =
      "FAIL etpl\nfailed to parse TOML in " ++ path.text ++ ": " ++ rest := by
  let f : Failure := .settings (.malformed path) searched?
  have hne : f ≠ .interrupted := by
    show Failure.settings (.malformed path) searched? ≠ .interrupted
    exact Failure.noConfusion
  have hreport : f.report none = "FAIL " ++ programName ++ "\n" ++ f.message ++ "\n" := by
    rw [Failure.report, if_neg hne]
  have hhead : "FAIL etpl\nfailed to parse TOML in " = "FAIL " ++ programName ++ "\n" ++ "failed to parse TOML in " :=
    rfl
  obtain ⟨more, hmessage⟩ : ∃ more, f.message = "failed to parse TOML in " ++ path.text ++ ": " ++ more := by
    cases searched? with
    | none => exact ⟨(SettingsError.malformed path).cause?.getD "", rfl⟩
    | some searched =>
      refine ⟨(SettingsError.malformed path).cause?.getD "" ++ ("\nlooked for: " ++ searched.text), ?_⟩
      rw [← String.append_assoc, ← String.append_assoc]
      rfl
  refine ⟨more ++ "\n", ?_⟩
  rw [hreport, hmessage, hhead]
  simp only [String.append_assoc]

section OnDisk

open Call (homely)

/-- The disk on which there are only a settings file and a template. -/
def diskWithSettings (text : String) : Disk :=
  ⟨⟨[(["c"], .file (.text text)), (["t"], .file (.text "\x7b\x7ba|text\x7d\x7d!"))]⟩, []⟩

theorem read_diskWithSettings (text : String) : (diskWithSettings text).read ⟨"c"⟩ = .ok text := rfl

theorem place_diskWithSettings (text : String) : (diskWithSettings text).place ⟨"c"⟩ = ["c"] := rfl

theorem agreeBut_diskWithSettings (text text' : String) :
    (diskWithSettings text).AgreeBut ((diskWithSettings text).place ⟨"c"⟩) (.text text) (.text text')
      (diskWithSettings text') where
  workingDirectory_eq := rfl
  faults_eq := rfl
  tree := by
    rw [place_diskWithSettings]
    refine ⟨fun place hplace => ?_, .inl ⟨rfl, rfl⟩⟩
    have hsettings : ¬ ["c"] = place := fun heq => hplace heq.symm
    simp [diskWithSettings, FileTree.node?, List.find?_cons, hsettings]

end OnDisk

end Command

end TypedTemplates
