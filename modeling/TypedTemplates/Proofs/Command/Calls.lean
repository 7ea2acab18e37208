import TypedTemplates.Proofs.Command.Assignments
import TypedTemplates.Proofs.Command.Logs
import TypedTemplates.Proofs.Command.Rendering

/-!
# Calls that share a store

The program is called again and again without a terminal, each time with its own arguments and environment, and all
calls work on one store (`Call.WorksOn`). A call that renders a well formed template makes the values that it ends up
with the ones that are kept (`Call.rendered_of_renders`). Every other call leaves the file of the store as it is
(`Call.look?_outcome_of_not_renders`), since a log file elsewhere makes no difference to it. So the store can be loaded
before every call (`Call.exists_settled_diskAfter`), and each call finds what the last rendering has left.
-/

namespace TypedTemplates

open Command
open JsonFileStore (Storable contents? load plainPath)
open Template (Declaration declarations parse seeded)

/-! ### Calls -/

/-- A call of the program with no terminal. -/
structure Call where
  environment : Environment
  arguments : List String

namespace Call

variable {path : Path} {key : String} {disk : Disk} {c : Call} {kept : JsonFileStore}

def host (c : Call) (disk : Disk) : Host :=
  ⟨disk, c.environment, .absent⟩

/-- What the call brings about on a disk. -/
def outcome (c : Call) (disk : Disk) : Outcome :=
  run (c.host disk) c.arguments

/-- The disk after the calls, one after the other. -/
def diskAfter (disk : Disk) (calls : List Call) : Disk :=
  calls.foldl (fun disk c => (c.outcome disk).disk) disk

/-- The arguments ask for a subcommand. -/
def AsksFor (c : Call) (invocation : Invocation) : Prop :=
  Request.ofArguments c.arguments = .ok (.run invocation)

/-- The call is to render the text in a file, with these assignments. -/
def Renders (c : Call) (disk : Disk) (text : String) (assignments : List Assignment) (asJson : Bool) : Prop :=
  ∃ invocation file batch, c.AsksFor invocation ∧ invocation.command = .render file assignments batch asJson ∧
    disk.read file = .ok text

/-- The call works under these settings, and on this disk when its log has been made. They name the store, and the log
is neither the file of the store nor one to be rendered. If the text to be rendered is well formed, every save of the
rendering succeeds. -/
structure WorksUnder (path : Path) (key : String) (c : Call) (disk : Disk) (invocation : Invocation)
    (settings : Settings) (opened : Disk) : Prop where
  start_eq : start (c.host disk) invocation = .ok (settings, opened)
  storePath_eq : settings.storePath = path
  storeKey_eq : settings.storeKey = key
  log_store : LogElsewhere settings.logging disk path
  log_template : ∀ file assignments batch asJson, invocation.command = .render file assignments batch asJson →
    LogElsewhere settings.logging disk file
  saves : ∀ text assignments asJson s vs, c.Renders disk text assignments asJson → s.path = path →
    parse text s.value? = .ok vs → SavesSucceed opened s text assignments

/-- If the call is to carry out a subcommand, it works on the store under the key in the file at the path. -/
def WorksOn (path : Path) (key : String) (c : Call) (disk : Disk) : Prop :=
  ∀ invocation, c.AsksFor invocation → ∃ settings opened, c.WorksUnder path key disk invocation settings opened

theorem AsksFor.eq {invocation invocation' : Invocation} (h : c.AsksFor invocation) (h' : c.AsksFor invocation') :
    invocation = invocation' := by
  rw [AsksFor, h, Except.ok.injEq, Request.run.injEq] at h'
  exact h'

theorem WorksUnder.worksOn {invocation : Invocation} {settings : Settings} {opened : Disk}
    (h : c.WorksUnder path key disk invocation settings opened) (hasks : c.AsksFor invocation) :
    c.WorksOn path key disk := by
  intro invocation' hasks'
  exact ⟨settings, opened, hasks.eq hasks' ▸ h⟩

theorem outcome_of_start {invocation : Invocation} {settings : Settings} {opened : Disk} (h : c.AsksFor invocation)
    (hstart : start (c.host disk) invocation = .ok (settings, opened)) :
    c.outcome disk =
      let done := perform (c.host opened) settings invocation.command
      { done with disk := closeLog done.disk settings.logging done.events } := by
  have hinvoke : c.outcome disk = invoke (c.host disk) invocation := by rw [outcome, run, h]
  rw [hinvoke, invoke_of_start hstart]
  rfl

/-! ### What a call leaves -/

/-- A call that renders no template leaves the file of the store as it was. -/
theorem look?_outcome_of_not_renders (hworks : c.WorksOn path key disk)
    (h : ∀ text assignments asJson ds, c.Renders disk text assignments asJson → declarations text ≠ .ok ds) :
    (c.outcome disk).disk.look? path = disk.look? path := by
  cases hrequest : Request.ofArguments c.arguments with
  | error e => rw [outcome, run, hrequest]; rfl
  | ok request =>
    cases request with
    | help topic => rw [outcome, run, hrequest]; rfl
    | version => rw [outcome, run, hrequest]; rfl
    | run invocation =>
      obtain ⟨settings, opened, hunder⟩ := hworks invocation hrequest
      have hopen := openLog_of_start hunder.start_eq
      -- what is done between opening and closing the log leaves the disk alone
      have hdone : (perform (c.host opened) settings invocation.command).disk = opened := by
        cases hcommand : invocation.command with
        | doctor => rfl
        | check file => exact disk_check opened settings file
        | vars file asJson => exact disk_vars opened settings file asJson
        | render file assignments batch asJson =>
          refine (disk_render_of_not_declarations assignments asJson _ batch ?_).2
          intro text s ds hprepare
          have hread : opened.read file = .ok text := (prepare_eq_ok_iff.1 hprepare).1
          have hlook := look?_openLog hopen (hunder.log_template file assignments batch asJson hcommand)
          have hfile : disk.read file = .ok text := (Disk.read_congr hlook).symm.trans hread
          exact h text assignments asJson ds ⟨invocation, file, batch, hrequest, hcommand, hfile⟩
      have hlog := hunder.log_store.congr (workingDirectory_openLog hopen)
      rw [outcome_of_start hrequest hunder.start_eq]
      simp only [hdone]
      rw [look?_closeLog _ hlog]
      exact look?_openLog hopen hunder.log_store

theorem rendered_of_renders {text : String} {assignments : List Assignment} {asJson : Bool} {vs : VariableSet}
    (hworks : c.WorksOn kept.path kept.key disk) (hs : StoreOnDisk.Settled ⟨kept, disk⟩)
    (hrenders : c.Renders disk text assignments asJson) (hparse : parse text kept.value? = .ok vs) :
    Rendered kept text vs.names assignments asJson (c.outcome disk) ∧
      ∃ entries, StoreOnDisk.Settled ⟨{ kept with entries := entries }, (c.outcome disk).disk⟩ := by
  obtain ⟨ds, hd, rfl⟩ := Template.parse_eq_ok_iff.1 hparse
  have hsaved := hrenders
  obtain ⟨invocation, file, batch, hasks, hcommand, hfile⟩ := hrenders
  obtain ⟨settings, opened, hunder⟩ := hworks invocation hasks
  have hsaves := hunder.saves text assignments asJson kept _ hsaved rfl hparse
  have hopen := openLog_of_start hunder.start_eq
  have hread : opened.read file = .ok text := by
    rw [← hfile]
    exact Disk.read_congr (look?_openLog hopen (hunder.log_template file assignments batch asJson hcommand))
  have hsettled : StoreOnDisk.Settled ⟨kept, opened⟩ := hs.of_look?_eq (look?_openLog hopen hunder.log_store)
  have hprepare : prepare opened settings file = .ok (text, kept) := by
    refine prepare_eq_ok_iff.2 ⟨hread, ?_⟩
    rw [hunder.storePath_eq, hunder.storeKey_eq]
    exact hsettled.load_eq
  have hready := hsaves.ready hprepare hd
  let done := render opened .absent settings file assignments batch asJson
  have houtcome : c.outcome disk = { done with disk := closeLog done.disk settings.logging done.events } := by
    rw [outcome_of_start hasks hunder.start_eq, hcommand]
    rfl
  obtain ⟨-, -, -, hdirectory, hwritten⟩ := hready.render_eq assignments asJson hsaves batch
  have hstored := hsettled.of_read hwritten
  have hlook : (c.outcome disk).disk.look? kept.path = done.disk.look? kept.path := by
    rw [houtcome]
    exact look?_closeLog _ (hunder.log_store.congr (hdirectory.trans (workingDirectory_openLog hopen)))
  have hlast := hstored.of_look?_eq hlook
  refine ⟨?_, _, hlast⟩
  rw [houtcome] at hlook ⊢
  exact (hready.rendered assignments asJson hsaves hsettled batch).of_look?_eq hlook

section Sequence

variable {entries : Keyed Variable} {others : Keyed Json.Value}

/-- After a call the store can be loaded again, with what it has under other keys. -/
theorem exists_settled_outcome (hworks : c.WorksOn path key disk)
    (hs : StoreOnDisk.Settled ⟨⟨path, key, entries, others⟩, disk⟩) :
    ∃ left, StoreOnDisk.Settled ⟨⟨path, key, left, others⟩, (c.outcome disk).disk⟩ := by
  by_cases h : ∀ text assignments asJson ds, c.Renders disk text assignments asJson → declarations text ≠ .ok ds
  · exact ⟨entries, hs.of_look?_eq (look?_outcome_of_not_renders hworks h)⟩
  · simp only [Classical.not_forall, ne_eq, Classical.not_not] at h
    obtain ⟨text, assignments, asJson, ds, hrenders, hd⟩ := h
    exact (rendered_of_renders hworks hs hrenders (Template.parse_eq_ok_iff.2 ⟨ds, hd, rfl⟩)).2

/-- So it can after any number of calls. -/
theorem exists_settled_diskAfter {calls : List Call} (hs : StoreOnDisk.Settled ⟨⟨path, key, entries, others⟩, disk⟩)
    (hworks : ∀ done next, done ++ [next] <+: calls → next.WorksOn path key (diskAfter disk done)) :
    ∃ left, StoreOnDisk.Settled ⟨⟨path, key, left, others⟩, diskAfter disk calls⟩ := by
  induction calls generalizing disk entries with
  | nil => exact ⟨entries, hs⟩
  | cons first rest ih =>
    have hfirst : first.WorksOn path key disk := hworks [] first ⟨rest, rfl⟩
    obtain ⟨left, hnext⟩ := exists_settled_outcome hfirst hs
    refine ih hnext ?_
    rintro done next ⟨later, hlater⟩
    exact hworks (first :: done) next ⟨later, by rw [← hlater]; rfl⟩

end Sequence

/-- Take a store that is loaded from a file in which all numbers are whole, and any calls that work on it. Before every
call the store can be loaded. A call that renders a well formed template takes its assignments from its arguments and
comes to what `Rendered` says of them and of the values that are kept before it. A call that fails, or that renders
nothing, leaves the file of the store as it was. -/
theorem values_kept_between_calls {s : JsonFileStore} {members : Keyed Json.Value} {calls : List Call}
    (hload : load disk path key = .ok s) (hmembers : contents? disk path = some members)
    (hwhole : ∀ m ∈ members, m.2.Whole)
    (hworks : ∀ done next, done ++ [next] <+: calls ++ [c] → next.WorksOn path key (diskAfter disk done)) :
    let now := diskAfter disk calls
    let o := c.outcome now
    ∃ kept, load now path key = .ok kept ∧
      (∀ text assignments asJson vs, c.Renders now text assignments asJson → parse text kept.value? = .ok vs →
        List.Forall₂ Assignment.IsGivenBy assignments (Token.assignmentsOf c.arguments) ∧
        Rendered kept text vs.names assignments asJson o) ∧
      ((o.exitCode ≠ 0 ∨ ∀ invocation, c.AsksFor invocation → invocation.command.name ≠ .render) →
        o.disk.look? path = now.look? path ∧ load o.disk path key = .ok kept) := by
  intro now o
  have hstart := StoreOnDisk.settled_of_load hload hmembers hwhole
  obtain ⟨entries, rfl⟩ := JsonFileStore.eq_of_load hload hmembers
  obtain ⟨entries, hs⟩ := exists_settled_diskAfter hstart fun done next hbegins =>
    hworks done next (hbegins.trans (List.prefix_append calls [c]))
  have hnow : c.WorksOn path key now := hworks calls c (List.prefix_refl _)
  refine ⟨_, hs.load_eq, ?_, ?_⟩
  · intro text assignments asJson vs hrenders hparse
    refine ⟨?_, (rendered_of_renders hnow hs hrenders hparse).1⟩
    obtain ⟨invocation, file, batch, hasks, hcommand, -⟩ := hrenders
    exact Request.isGivenBy_of_ofArguments hasks hcommand
  · intro hfails
    have hnot : ∀ text assignments asJson ds, c.Renders now text assignments asJson → declarations text ≠ .ok ds := by
      intro text assignments asJson ds hrenders hd
      rcases hfails with hexit | hname
      · exact hexit (rendered_of_renders hnow hs hrenders (Template.parse_eq_ok_iff.2 ⟨ds, hd, rfl⟩)).1.exitCode_eq
      · obtain ⟨invocation, file, batch, hasks, hcommand, -⟩ := hrenders
        exact hname invocation hasks (by rw [hcommand]; rfl)
    have hlook : o.disk.look? path = now.look? path := look?_outcome_of_not_renders hnow hnot
    exact ⟨hlook, (JsonFileStore.load_congr hlook key).trans hs.load_eq⟩

/-! ### A disk with a store and a template -/

/-- The disk on which there are only the file of a store and that of a template. -/
def diskOf (text template : String) : Disk :=
  ⟨⟨[(["v"], .file (.text text)), (["t"], .file (.text template))]⟩, []⟩

/-- The path of the template. -/
def templatePath : Path := ⟨"t"⟩

/-- An environment with a home directory. -/
def homely : Environment := ⟨[("HOME", "/h")]⟩

theorem read_diskOf (text template : String) : (diskOf text template).read plainPath = .ok text := rfl

theorem read_templatePath_diskOf (text template : String) :
    (diskOf text template).read templatePath = .ok template := rfl

/-- The store of variables is loaded from a file that only they were saved to. -/
theorem load_diskOf (vs : VariableSet) (template : String) :
    load (diskOf ((JsonFileStore.root ⟨plainPath, defaultNamespace, vs.entries, []⟩ vs).text .indented) template)
      plainPath defaultNamespace = .ok ⟨plainPath, defaultNamespace, vs.entries, []⟩ :=
  JsonFileStore.load_of_read (s := ⟨plainPath, defaultNamespace, vs.entries, []⟩) JsonFileStore.storable_nil rfl
    (read_diskOf _ template)

theorem contains_settingsPath_diskOf (text template : String) :
    (diskOf text template).contains homely.settingsPath = false := by
  have hpath : homely.settingsPath = ⟨"/h/.config/easy-templates/config.toml"⟩ := by decide +kernel
  have hadmits : Disk.admits ⟨"/h/.config/easy-templates/config.toml"⟩ = true := by decide +kernel
  have hnames : Path.names ⟨"/h/.config/easy-templates/config.toml"⟩ =
      ["h", ".config", "easy-templates", "config.toml"] := by decide +kernel
  rw [hpath, Disk.contains, Disk.look?, hadmits, hnames]
  rfl

/-- There no settings and no log are found. -/
theorem start_diskOf (text template : String) (terminal : Terminal) (command : Subcommand) :
    start ⟨diskOf text template, homely, terminal⟩ ⟨none, some plainPath, command⟩ =
      .ok ({ Settings.standard homely with storePath := plainPath }, diskOf text template) := by
  simp only [start, settingsFor, Settings.load, contains_settingsPath_diskOf]
  rfl

theorem reliable_diskOf (text template : String) : (diskOf text template).Reliable :=
  nofun

/-- Nothing keeps a store from being saved there. -/
theorem save_diskOf (text template : String) (s : JsonFileStore) (vs : VariableSet) (h : s.path = plainPath) :
    (s.save (diskOf text template) vs).1 = .ok () := by
  have hwritable : (diskOf text template).Writable s.path := by
    rw [h]
    exact JsonFileStore.writable_plainPath (reliable_diskOf text template) rfl rfl
  obtain ⟨disk', hsave, -⟩ := s.save_of_writable hwritable vs
  rw [hsave]

theorem savesSucceed_diskOf (text template : String) {s : JsonFileStore} (h : s.path = plainPath) {written : String}
    {ds : List Declaration} (hd : declarations written = .ok ds) (changes : List Assignment) :
    SavesSucceed (diskOf text template) s written changes :=
  savesSucceed_of_reliable hd (reliable_diskOf text template) (save_diskOf text template s _ h) changes

/-- So every subcommand works on the store. -/
theorem worksUnder_diskOf (text template : String) (arguments : List String) (command : Subcommand) :
    WorksUnder plainPath defaultNamespace ⟨homely, arguments⟩ (diskOf text template) ⟨none, some plainPath, command⟩
      { Settings.standard homely with storePath := plainPath } (diskOf text template) where
  start_eq := start_diskOf text template .absent command
  storePath_eq := rfl
  storeKey_eq := rfl
  log_store := nofun
  log_template _ _ _ _ _ := nofun
  saves written changes _ s _ _ hpath hparse := by
    obtain ⟨ds, hd, rfl⟩ := Template.parse_eq_ok_iff.1 hparse
    exact savesSucceed_diskOf text template hpath hd changes

/-- The last of two values for a name counts, a name that is not declared gives a warning, and a value that no template
asks for is dropped. -/
theorem values_kept_between_calls_last_value :
    let others : Keyed Json.Value := [("o", .number (.int 1))]
    let saved : VariableSet := .ofList [⟨"c", .text, "old"⟩, ⟨"d", .url, "e"⟩]
    let members : Keyed Json.Value := others.insert defaultNamespace saved.toJson.sorted
    let text := (Json.Value.object members).text .indented
    let template := "\x7b\x7ba|text\x7d\x7d, \x7b\x7b c |text\x7d\x7d\x7b\x7bb|url\x7d\x7d"
    let disk := diskOf text template
    let look : Call := ⟨homely, ["--store", "v", "vars", "t"]⟩
    let c : Call := ⟨homely, ["render", "t", "--var", " a =1", "--var", "z=2", "--store=v", "--var", "a=x"]⟩
    let o := c.outcome (diskAfter disk [look])
    load disk plainPath defaultNamespace = .ok ⟨plainPath, defaultNamespace, saved.entries, others⟩ ∧
    o.exitCode = 0 ∧ o.output = "x, old" ∧ o.notices = ["warning: template has no variable 'z'"] ∧
    ∃ stored, load o.disk plainPath defaultNamespace = .ok stored ∧ stored.others = others ∧
      stored.value? "a" = some "x" ∧ stored.value? "b" = some "" ∧ stored.value? "c" = some "old" ∧
      stored.value? "d" = none := by
  intro others saved members text template disk look c o
  have hothers : Storable others :=
    JsonFileStore.storable_nil.insert "o" (.number ⟨by decide, by decide⟩) rfl (by decide)
  have hs : Storable members := hothers.insert_toJson defaultNamespace saved
  have hmembers : contents? disk plainPath = some members := hs.contents?_of_read rfl
  have hload : load disk plainPath defaultNamespace = .ok ⟨plainPath, defaultNamespace, saved.entries, others⟩ := by
    refine JsonFileStore.load_eq_ok_iff.2 ⟨members, saved.entries, hmembers, ?_, ?_⟩
    · rw [Keyed.find?_insert_self, JsonFileStore.entriesOf?_toJson]
    · rw [Keyed.erase_insert_self]
      rfl
  have hlook : look.AsksFor ⟨none, some plainPath, .vars templatePath false⟩ := by
    show Request.ofArguments ["--store", "v", "vars", "t"] = _
    decide +kernel
  have hasks : c.AsksFor
      ⟨none, some plainPath, .render templatePath [⟨"a", "1"⟩, ⟨"z", "2"⟩, ⟨"a", "x"⟩] false false⟩ := by
    show Request.ofArguments ["render", "t", "--var", " a =1", "--var", "z=2", "--store=v", "--var", "a=x"] = _
    decide +kernel
  have hafter : diskAfter disk [look] = disk := by
    rw [diskAfter, List.foldl_cons, List.foldl_nil,
      outcome_of_start hlook (worksUnder_diskOf text template _ _).start_eq]
    dsimp only
    rw [closeLog_of_no_file _ _ rfl]
    exact disk_vars disk _ templatePath false
  have hworks : ∀ done next, done ++ [next] <+: [look] ++ [c] →
      next.WorksOn plainPath defaultNamespace (diskAfter disk done) := by
    rintro done next ⟨rest, hrest⟩
    rcases done with _ | ⟨first, _ | ⟨second, later⟩⟩
    · obtain ⟨rfl, -⟩ := List.cons.inj hrest
      exact (worksUnder_diskOf text template _ _).worksOn hlook
    · obtain ⟨rfl, htail⟩ := List.cons.inj hrest
      obtain ⟨rfl, -⟩ := List.cons.inj htail
      rw [hafter]
      exact (worksUnder_diskOf text template _ _).worksOn hasks
    · simp at hrest
  obtain ⟨kept, hkept, hrendered, -⟩ := values_kept_between_calls hload hmembers hs.whole hworks
  rw [hafter, hload, Except.ok.injEq] at hkept
  subst hkept
  have houtcome : o = c.outcome disk := congrArg c.outcome hafter
  rw [hafter] at hrendered
  rw [houtcome]
  have hd : declarations template = .ok [⟨"a", .text⟩, ⟨"c", .text⟩, ⟨"b", .url⟩] := by decide +kernel
  obtain ⟨-, h⟩ := hrendered template _ false _ ⟨_, templatePath, false, hasks, rfl, rfl⟩
    (Template.parse_eq_ok_iff.2 ⟨_, hd, rfl⟩)
  obtain ⟨stored, -, hstored, hsame, hvalue, -⟩ := h.exists_stored
  have houtput : (c.outcome disk).output = "x, old" := by
    rw [h.output_eq rfl]
    decide +kernel
  have hnotices : (c.outcome disk).notices = ["warning: template has no variable 'z'"] := by
    rw [h.notices_eq]
    decide +kernel
  have ha : stored.value? "a" = some "x" := by
    rw [hvalue]
    decide +kernel
  have hb : stored.value? "b" = some "" := by
    rw [hvalue]
    decide +kernel
  have hc : stored.value? "c" = some "old" := by
    rw [hvalue]
    decide +kernel
  have hdropped : stored.value? "d" = none := by
    rw [hvalue]
    decide +kernel
  exact ⟨hload, h.exitCode_eq, houtput, hnotices, stored, hstored, hsame, ha, hb, hc, hdropped⟩

end Call

end TypedTemplates
