import TypedTemplates.Settings.Load
import TypedTemplates.Proofs.Disk.Files

/-!
# Settings field by field

What a settings file says about each field is the text under one key of one section (`SettingsKey.written?`). Where it
says something, that is the field, with the variables in a path expanded; where it says nothing, the field is that of
the standard settings (`SettingsKey.resolved?`). No field depends on what is written under the key of another one.
-/

namespace TypedTemplates

open Toml (Value)

/-- The keys of a settings file that settings depend on. -/
inductive SettingsKey where
  | storePath
  | storeKey
  | level
  | fileLevel
  | file
  deriving DecidableEq, Repr

namespace SettingsKey

/-- The section in which the key stands. -/
def header : SettingsKey → String
  | .storePath | .storeKey => "store"
  | .level | .fileLevel | .file => "logging"

def name : SettingsKey → String
  | .storePath => "path"
  | .storeKey => "namespace"
  | .level => "level"
  | .fileLevel => "file_level"
  | .file => "file"

/-- The place of the key among those of its section. -/
def index : SettingsKey → Nat
  | .storePath | .level => 0
  | .storeKey | .fileLevel => 1
  | .file => 2

/-- The value that a section has under the key. -/
def valueIn? (key : SettingsKey) : Option Value → Option Value
  | some (.table _ members) => Keyed.find? key.name members
  | some (.array items) => items[key.index]?
  | some (.tables earlier last) => (SettingsDocument.tablesAsItems earlier last)[key.index]?
  | _ => none

/-- The text of a value that is one. -/
def textOf? : Option Value → Option String
  | some (.string s) => some s
  | _ => none

/-- The section under a header of a settings file. -/
def section? (text header : String) : Option Value :=
  (Toml.document? text).bind (Keyed.find? header)

/-- The text under the key of a settings file. -/
def written? (key : SettingsKey) (text : String) : Option String :=
  textOf? (key.valueIn? (section? text key.header))

/-- Whether a section is left out or has no keys. -/
def isBare : Option Value → Bool
  | none | some (.table _ []) => true
  | some _ => false

theorem valueIn?_of_isBare (key : SettingsKey) {value : Option Value} (h : isBare value = true) :
    key.valueIn? value = none := by
  unfold isBare at h
  split at h
  · rfl
  · rfl
  · cases h

end SettingsKey

namespace SettingsDocument

open SettingsKey (textOf?)

/-! ### What a document says -/

theorem textOf?_of_optionalText? {value : Option Value} {text? : Option String} (h : optionalText? value = some text?) :
    textOf? value = text? := by
  cases value with
  | none => exact Option.some.inj h
  | some v =>
    cases v with
    | string s => exact Option.some.inj h
    | _ => cases h

theorem eq_of_textOr? {value : Option Value} {default text : String} (h : textOr? default value = some text) :
    text = (textOf? value).getD default := by
  obtain ⟨text?, htext, rfl⟩ := Option.map_eq_some_iff.1 h
  rw [textOf?_of_optionalText? htext]

theorem storeOfItems?_eq_some {items : List Value} {s : StoreSection} (h : storeOfItems? items = some s) :
    s.path? = textOf? items[0]? ∧ s.storeKey? = textOf? items[1]? := by
  unfold storeOfItems? at h
  split at h
  · cases h
    exact ⟨rfl, rfl⟩
  · cases h

/-- The section about the store has what is written under its keys. -/
theorem store?_eq_some {value : Option Value} {s : StoreSection} (h : store? value = some s) :
    s.path? = textOf? (SettingsKey.storePath.valueIn? value) ∧
      s.storeKey? = textOf? (SettingsKey.storeKey.valueIn? value) := by
  unfold store? at h
  split at h
  · cases h
    exact ⟨rfl, rfl⟩
  · cases h
    exact ⟨rfl, rfl⟩
  · obtain ⟨-, -, hfields⟩ := Option.bind_eq_some_iff.1 h
    obtain ⟨path?, hpath, hrest⟩ := Option.bind_eq_some_iff.1 hfields
    obtain ⟨key?, hkey, hsection⟩ := Option.bind_eq_some_iff.1 hrest
    cases hsection
    exact ⟨(textOf?_of_optionalText? hpath).symm, (textOf?_of_optionalText? hkey).symm⟩
  · exact storeOfItems?_eq_some h
  · exact storeOfItems?_eq_some h
  · cases h

theorem loggingOfItems?_eq_some {items : List Value} {l : LoggingSection} (h : loggingOfItems? items = some l) :
    l.level = (textOf? items[0]?).getD "warn" ∧ l.fileLevel? = textOf? items[1]? ∧ l.file? = textOf? items[2]? := by
  obtain ⟨level, hlevel, hfields⟩ := Option.bind_eq_some_iff.1 h
  obtain ⟨fileLevel?, hfileLevel, hrest⟩ := Option.bind_eq_some_iff.1 hfields
  obtain ⟨file?, hfile, hsection⟩ := Option.bind_eq_some_iff.1 hrest
  cases hsection
  exact ⟨eq_of_textOr? hlevel, (textOf?_of_optionalText? hfileLevel).symm, (textOf?_of_optionalText? hfile).symm⟩

/-- The section about logging has what is written under its keys, and the standard level if none is. -/
theorem logging?_eq_some {value : Option Value} {l : LoggingSection} (h : logging? value = some l) :
    l.level = (textOf? (SettingsKey.level.valueIn? value)).getD "warn" ∧
      l.fileLevel? = textOf? (SettingsKey.fileLevel.valueIn? value) ∧
      l.file? = textOf? (SettingsKey.file.valueIn? value) := by
  unfold logging? at h
  split at h
  · cases h
    exact ⟨rfl, rfl, rfl⟩
  · cases h
    exact ⟨rfl, rfl, rfl⟩
  · obtain ⟨-, -, hmembers⟩ := Option.bind_eq_some_iff.1 h
    obtain ⟨level, hlevel, hfields⟩ := Option.bind_eq_some_iff.1 hmembers
    obtain ⟨fileLevel?, hfileLevel, hrest⟩ := Option.bind_eq_some_iff.1 hfields
    obtain ⟨file?, hfile, hsection⟩ := Option.bind_eq_some_iff.1 hrest
    cases hsection
    exact ⟨eq_of_textOr? hlevel, (textOf?_of_optionalText? hfileLevel).symm, (textOf?_of_optionalText? hfile).symm⟩
  · exact loggingOfItems?_eq_some h
  · exact loggingOfItems?_eq_some h
  · cases h

/-- A document has what its text says under each key. -/
structure Says (document : SettingsDocument) (text : String) : Prop where
  storePath : document.store.path? = SettingsKey.storePath.written? text
  storeKey : document.store.storeKey? = SettingsKey.storeKey.written? text
  level : document.logging.level = (SettingsKey.level.written? text).getD "warn"
  fileLevel : document.logging.fileLevel? = SettingsKey.fileLevel.written? text
  file : document.logging.file? = SettingsKey.file.written? text

theorem says_of_ofText? {text : String} {document : SettingsDocument} (h : ofText? text = some document) :
    document.Says text := by
  obtain ⟨members, hmembers, hdocument⟩ := Option.bind_eq_some_iff.1 h
  have hwritten : ∀ key : SettingsKey, key.written? text = textOf? (key.valueIn? (members.find? key.header)) := by
    intro key
    rw [SettingsKey.written?, SettingsKey.section?, hmembers, Option.bind_some]
  obtain ⟨-, -, hsections⟩ := Option.bind_eq_some_iff.1 hdocument
  obtain ⟨version, -, hnext⟩ := Option.bind_eq_some_iff.1 hsections
  obtain ⟨store, hstore, hrest⟩ := Option.bind_eq_some_iff.1 hnext
  obtain ⟨logging, hlogging, hmade⟩ := Option.bind_eq_some_iff.1 hrest
  cases hmade
  obtain ⟨hpath, hkey⟩ := store?_eq_some hstore
  obtain ⟨hlevel, hfileLevel, hfile⟩ := logging?_eq_some hlogging
  exact {
    storePath := hpath.trans (hwritten .storePath).symm
    storeKey := hkey.trans (hwritten .storeKey).symm
    level := by rw [hwritten]; exact hlevel
    fileLevel := hfileLevel.trans (hwritten .fileLevel).symm
    file := hfile.trans (hwritten .file).symm }

/-- What a text says makes up the document, with its version. -/
theorem Says.eq {document document' : SettingsDocument} {text text' : String} (h : document.Says text)
    (h' : document'.Says text') (hversion : document'.version = document.version)
    (hwritten : ∀ key : SettingsKey, key.written? text' = key.written? text) : document' = document := by
  obtain ⟨version, ⟨path?, key?⟩, ⟨level, fileLevel?, file?⟩⟩ := document
  obtain ⟨version', ⟨path?', key?'⟩, ⟨level', fileLevel?', file?'⟩⟩ := document'
  have hpath : path?' = path? := h'.storePath.trans ((hwritten _).trans h.storePath.symm)
  have hkey : key?' = key? := h'.storeKey.trans ((hwritten _).trans h.storeKey.symm)
  have hlevel : level' = level := h'.level.trans ((congrArg (·.getD "warn") (hwritten _)).trans h.level.symm)
  have hfileLevel : fileLevel?' = fileLevel? := h'.fileLevel.trans ((hwritten _).trans h.fileLevel.symm)
  have hfile : file?' = file? := h'.file.trans ((hwritten _).trans h.file.symm)
  have hversion : version' = version := hversion
  rw [hversion, hpath, hkey, hlevel, hfileLevel, hfile]

end SettingsDocument

/-! ### The settings of a document -/

/-- The field that a key is about. -/
def Settings.get? (s : Settings) : SettingsKey → Option String
  | .storePath => some s.storePath.text
  | .storeKey => some s.storeKey
  | .level => some s.logging.level
  | .fileLevel => s.logging.fileLevel?
  | .file => s.logging.file?.map Path.text

namespace SettingsKey

/-- The key is about a path. -/
def isPath : SettingsKey → Bool
  | .storePath | .file => true
  | .storeKey | .level | .fileLevel => false

/-- What a field is if this is written under its key: that, expanded if it is a path; or what it is in the standard
settings if nothing is. -/
def resolved? (key : SettingsKey) (env : Environment) : Option String → Option String
  | none => (Settings.standard env).get? key
  | some text => if key.isPath then (env.expand? text).map Path.text else some text

/-- The paths that are written in a settings file can be expanded. -/
def Expands (env : Environment) (text : String) : Prop :=
  ∀ key : SettingsKey, key.isPath = true → ∀ path, key.written? text = some path → (env.expand? path).isSome = true

end SettingsKey

namespace Settings

open SettingsKey (Expands section? isBare)

variable {env : Environment} {document : SettingsDocument} {text : String}

/-- What is made of the path that a text stands for, or a default if there is none. -/
def expandOr {α : Type} (env : Environment) (f : Path → α) (default : α) : Option String → Except SettingsError α
  | some text => (expand env text).map f
  | none => .ok default

theorem expandOr_eq_ok {α : Type} (f : Path → α) (default : α) {written : Option String}
    (h : ∀ text, written = some text → (env.expand? text).isSome = true) :
    ∃ a, expandOr env f default written = .ok a ∧ (written = none → a = default) ∧
      ∀ text, written = some text → (env.expand? text).map f = some a := by
  cases written with
  | none => exact ⟨default, rfl, fun _ => rfl, nofun⟩
  | some text =>
    obtain ⟨path, hpath⟩ := Option.isSome_iff_exists.1 (h text rfl)
    refine ⟨f path, by rw [expandOr, expand, hpath]; rfl, nofun, ?_⟩
    rintro _ ⟨⟩
    rw [hpath, Option.map_some]

theorem expandOr_eq_error {α : Type} {f : Path → α} {default : α} {written : Option String}
    (h : ¬ ∀ text, written = some text → (env.expand? text).isSome = true) :
    expandOr env f default written = .error .noExpansion := by
  cases written with
  | none => exact absurd nofun h
  | some text =>
    have hpath : env.expand? text = none := by
      rw [← Option.not_isSome_iff_eq_none]
      exact fun hsome => h fun _ heq => Option.some.inj heq ▸ hsome
    rw [expandOr, expand, hpath]
    rfl

theorem ofDocument_eq (env : Environment) (source : Path) (document : SettingsDocument) :
    ofDocument env source document =
      (expandOr env id env.storePath document.store.path?).bind fun storePath =>
        (expandOr env some none document.logging.file?).bind fun file? =>
          .ok ⟨some source, storePath, document.store.storeKey?.getD defaultNamespace,
            ⟨document.logging.level, document.logging.fileLevel?, file?⟩⟩ := by
  obtain ⟨version, ⟨path?, storeKey?⟩, ⟨level, fileLevel?, file?⟩⟩ := document
  have hid : ∀ path : Except SettingsError Path, path.map id = path := by
    rintro (e | path) <;> rfl
  cases path? with
  | none => cases file? <;> rfl
  | some text =>
    simp only [expandOr, hid]
    cases file? <;> rfl

/-- Each field of the settings of a document is what its key stands for. -/
theorem exists_ofDocument (source : Path) (h : document.Says text) (hexpands : Expands env text) :
    ∃ settings, ofDocument env source document = .ok settings ∧ settings.source? = some source ∧
      ∀ key : SettingsKey, settings.get? key = key.resolved? env (key.written? text) := by
  obtain ⟨storePath, hstore, hdefault, hwritten⟩ := expandOr_eq_ok id env.storePath (hexpands .storePath rfl)
  obtain ⟨file?, hfile, hnone, hsome⟩ := expandOr_eq_ok some none (hexpands .file rfl)
  rw [← h.storePath] at hstore
  rw [← h.file] at hfile
  refine ⟨_, by rw [ofDocument_eq, hstore, hfile]; rfl, rfl, fun key => ?_⟩
  cases key with
  | storePath =>
    cases hpath : SettingsKey.storePath.written? text with
    | none => exact congrArg (fun path => some path.text) (hdefault hpath)
    | some path =>
      show _ = (env.expand? path).map Path.text
      have hexpanded := hwritten path hpath
      rw [Option.map_id_fun, id] at hexpanded
      rw [hexpanded]
      rfl
  | storeKey =>
    show some (document.store.storeKey?.getD defaultNamespace) = _
    rw [h.storeKey]
    cases SettingsKey.storeKey.written? text <;> rfl
  | level =>
    show some document.logging.level = _
    rw [h.level]
    cases SettingsKey.level.written? text <;> rfl
  | fileLevel =>
    show document.logging.fileLevel? = _
    rw [h.fileLevel]
    cases SettingsKey.fileLevel.written? text <;> rfl
  | file =>
    cases hpath : SettingsKey.file.written? text with
    | none => exact congrArg (Option.map Path.text) (hnone hpath)
    | some path =>
      show _ = (env.expand? path).map Path.text
      obtain ⟨expanded, hexpanded, rfl⟩ := Option.map_eq_some_iff.1 (hsome path hpath)
      rw [hexpanded]
      rfl

theorem expands_iff (h : document.Says text) :
    Expands env text ↔
      (∀ path, document.store.path? = some path → (env.expand? path).isSome = true) ∧
        ∀ path, document.logging.file? = some path → (env.expand? path).isSome = true := by
  rw [h.storePath, h.file]
  refine ⟨fun hexpands => ⟨hexpands .storePath rfl, hexpands .file rfl⟩, fun ⟨hstore, hfile⟩ key hpath => ?_⟩
  cases key with
  | storePath => exact hstore
  | file => exact hfile
  | storeKey => cases hpath
  | level => cases hpath
  | fileLevel => cases hpath

/-- There are none if a path cannot be expanded. -/
theorem ofDocument_eq_error (source : Path) (h : document.Says text) (hexpands : ¬ Expands env text) :
    ofDocument env source document = .error .noExpansion := by
  rw [expands_iff h] at hexpands
  rw [ofDocument_eq]
  by_cases hstore : ∀ path, document.store.path? = some path → (env.expand? path).isSome = true
  · obtain ⟨storePath, hok, -⟩ := expandOr_eq_ok id env.storePath hstore
    rw [hok, expandOr_eq_error fun hfile => hexpands ⟨hstore, hfile⟩]
    rfl
  · rw [expandOr_eq_error hstore]
    rfl

/-! ### Loading -/

variable {disk : Disk} {path? : Option Path}

/-- A settings file that can be read is used, be it named or at its usual place. -/
theorem load_eq_ofFile (hread : disk.read (path?.getD env.settingsPath) = .ok text) :
    load disk env path? = ofFile disk env (path?.getD env.settingsPath) := by
  cases path? with
  | some path => rfl
  | none => exact if_pos (Disk.contains_of_read hread)

theorem load_of_read (hread : disk.read (path?.getD env.settingsPath) = .ok text)
    (hdocument : SettingsDocument.ofText? text = some document) :
    load disk env path? =
      if document.version = 1 then ofDocument env (path?.getD env.settingsPath) document
      else .error (.unsupportedVersion document.version) := by
  rw [load_eq_ofFile hread, ofFile, if_pos (Disk.contains_of_read hread), hread]
  simp only [hdocument]

theorem load_of_malformed (hread : disk.read (path?.getD env.settingsPath) = .ok text)
    (hdocument : SettingsDocument.ofText? text = none) :
    load disk env path? = .error (.malformed (path?.getD env.settingsPath)) := by
  rw [load_eq_ofFile hread, ofFile, if_pos (Disk.contains_of_read hread), hread]
  simp only [hdocument]

theorem get?_of_load {settings : Settings}
    (hread : disk.read (path?.getD env.settingsPath) = .ok text)
    (hdocument : SettingsDocument.ofText? text = some document) (hload : load disk env path? = .ok settings)
    (key : SettingsKey) : settings.get? key = key.resolved? env (key.written? text) := by
  have hsaid := SettingsDocument.says_of_ofText? hdocument
  rw [load_of_read hread hdocument] at hload
  by_cases hversion : document.version = 1
  · rw [if_pos hversion] at hload
    by_cases hexpands : Expands env text
    · obtain ⟨found, hfound, -, hfields⟩ := exists_ofDocument (path?.getD env.settingsPath) hsaid hexpands
      rw [hload, Except.ok.injEq] at hfound
      rw [hfound]
      exact hfields key
    · rw [ofDocument_eq_error _ hsaid hexpands] at hload
      cases hload
  · rw [if_neg hversion] at hload
    cases hload

/-- Take a settings file, at the path that was given or at its usual place, whose text is a document of settings. In
version 1, if its paths can be expanded, each field of the settings is what is written under its key, or that of the
standard settings if nothing is; if they cannot be, there are no settings. Another version is refused, whatever the
paths. Compare it with any other such text. A section that is left out in one and has no keys in the other makes no
difference, and a field can only differ if what is written under its own key does. -/
theorem load_overrides_standard (hread : disk.read (path?.getD env.settingsPath) = .ok text)
    (hdocument : SettingsDocument.ofText? text = some document) :
    let path := path?.getD env.settingsPath
    (document.version = 1 → Expands env text →
      ∃ settings, load disk env path? = .ok settings ∧ settings.source? = some path ∧
        ∀ key : SettingsKey, settings.get? key = key.resolved? env (key.written? text)) ∧
    (document.version = 1 → ¬ Expands env text → load disk env path? = .error .noExpansion) ∧
    (document.version ≠ 1 → load disk env path? = .error (.unsupportedVersion document.version)) ∧
    ∀ (disk' : Disk) (text' : String) (document' : SettingsDocument), disk'.read path = .ok text' →
      SettingsDocument.ofText? text' = some document' → document'.version = document.version →
      ((∀ key : SettingsKey, key.written? text' = key.written? text ∨
          isBare (section? text' key.header) = true ∧ isBare (section? text key.header) = true) →
        load disk' env path? = load disk env path?) ∧
      ∀ settings settings', load disk env path? = .ok settings → load disk' env path? = .ok settings' →
        ∀ key : SettingsKey, key.written? text' = key.written? text → settings'.get? key = settings.get? key := by
  intro path
  have hsaid := SettingsDocument.says_of_ofText? hdocument
  have hload := load_of_read hread hdocument
  refine ⟨?_, ?_, ?_, fun disk' text' document' hread' hdocument' hsame => ⟨?_, ?_⟩⟩
  · intro hversion hexpands
    rw [hload, if_pos hversion]
    exact exists_ofDocument path hsaid hexpands
  · intro hversion hexpands
    rw [hload, if_pos hversion]
    exact ofDocument_eq_error path hsaid hexpands
  · intro hversion
    rw [hload, if_neg hversion]
  · intro hsections
    have hwritten : ∀ key : SettingsKey, key.written? text' = key.written? text := by
      intro key
      rcases hsections key with hsame | ⟨hbare', hbare⟩
      · exact hsame
      · rw [SettingsKey.written?, SettingsKey.written?, key.valueIn?_of_isBare hbare', key.valueIn?_of_isBare hbare]
    rw [hload, load_of_read hread' hdocument', hsaid.eq (SettingsDocument.says_of_ofText? hdocument') hsame hwritten]
  · intro settings settings' hfound hfound' key hkey
    rw [get?_of_load hread hdocument hfound, get?_of_load hread' hdocument' hfound', hkey]

/-- A level and a log file are written, and the rest is standard. An empty section about the store makes no difference.
In version 2 it does not matter that a path cannot be expanded. -/
theorem load_overrides_standard_logging :
    let env : Environment := ⟨[("HOME", "/h")]⟩
    let disk (text : String) : Disk := ⟨⟨[(["c"], .file (.text text))]⟩, []⟩
    let text := "version = 1\n[logging]\nlevel = \"debug\"\nfile = \"~/l\"\n"
    (∃ settings, load (disk text) env (some ⟨"c"⟩) = .ok settings ∧ settings.source? = some ⟨"c"⟩ ∧
      settings.get? .storePath = some "/h/.local/share/easy-templates/variables.json" ∧
      settings.get? .storeKey = some defaultNamespace ∧ settings.get? .level = some "debug" ∧
      settings.get? .fileLevel = none ∧ settings.get? .file = some "/h/l") ∧
    load (disk (text ++ "[store]\n")) env (some ⟨"c"⟩) = load (disk text) env (some ⟨"c"⟩) ∧
    load (disk "version = 2\nstore.path = \"$NOPE\"") env (some ⟨"c"⟩) = .error (.unsupportedVersion 2) := by
  intro env disk text
  have hdocument : SettingsDocument.ofText? "version = 1\n[logging]\nlevel = \"debug\"\nfile = \"~/l\"\n" =
      some ⟨1, {}, ⟨"debug", none, some "~/l"⟩⟩ := by decide +kernel
  have hdocument' : SettingsDocument.ofText?
      "version = 1\n[logging]\nlevel = \"debug\"\nfile = \"~/l\"\n[store]\n" =
      some ⟨1, {}, ⟨"debug", none, some "~/l"⟩⟩ := by decide +kernel
  have hnext : SettingsDocument.ofText? "version = 2\nstore.path = \"$NOPE\"" =
      some ⟨2, ⟨some "$NOPE", none⟩, {}⟩ := by decide +kernel
  have hexpands : Expands env text :=
    (expands_iff (SettingsDocument.says_of_ofText? hdocument)).2
      ⟨by rintro _ ⟨⟩, by rintro _ ⟨⟩; decide +kernel⟩
  have hfile : ∀ text, (disk text).read ⟨"c"⟩ = .ok text := fun _ => rfl
  have hread : ∀ text, (disk text).read ((some ⟨"c"⟩ : Option Path).getD env.settingsPath) = .ok text := hfile
  obtain ⟨hfields, -, -, hcompare⟩ := load_overrides_standard (hread text) hdocument
  obtain ⟨settings, hload, hsource, hfield⟩ := hfields rfl hexpands
  obtain ⟨hsame, -⟩ := hcompare _ _ _ (hread _) hdocument' rfl
  refine ⟨⟨settings, hload, hsource, ?_, ?_, ?_, ?_, ?_⟩, hsame fun key => ?_, ?_⟩
  · exact (hfield .storePath).trans (by decide +kernel)
  · exact (hfield .storeKey).trans (by decide +kernel)
  · exact (hfield .level).trans (by decide +kernel)
  · exact (hfield .fileLevel).trans (by decide +kernel)
  · exact (hfield .file).trans (by decide +kernel)
  · cases key with
    | storePath => exact .inr (by decide +kernel)
    | storeKey => exact .inr (by decide +kernel)
    | level => exact .inl (by decide +kernel)
    | fileLevel => exact .inl (by decide +kernel)
    | file => exact .inl (by decide +kernel)
  · obtain ⟨-, -, hrefused, -⟩ := load_overrides_standard (hread _) hnext
    exact hrefused (by decide)

end Settings

end TypedTemplates
