import TypedTemplates.Command.Run
import TypedTemplates.Proofs.Disk.Files

/-!
# Logs of a run

Before and after its subcommand a run writes to its log file, if there is one, and to nothing else (`openLog_cases`,
`closeLog_cases`). So what other paths lead to stays as it is, whatever comes of the writing, and the run does what its
subcommand does between the two (`invoke_of_start`).
-/

namespace TypedTemplates.Command

/-- The log, if there is one, has another place than the path. -/
def LogElsewhere (logging : Logging) (disk : Disk) (path : Path) : Prop :=
  ∀ log, logging.file? = some log → disk.place log ≠ disk.place path

variable {disk opened : Disk} {logging : Logging} {result : Except FileError Unit}

theorem LogElsewhere.congr {disk' : Disk} {path : Path} (h : LogElsewhere logging disk path)
    (hdirectory : disk'.workingDirectory = disk.workingDirectory) : LogElsewhere logging disk' path := by
  intro log hfile
  rw [Disk.place_congr hdirectory, Disk.place_congr hdirectory]
  exact h log hfile

/-! ### Opening the log -/

theorem openLog_cases (h : openLog disk logging = (result, opened)) :
    opened = disk ∧ result = .ok () ∨ ∃ log, logging.file? = some log ∧ disk.write log "" = (result, opened) := by
  unfold openLog at h
  split at h
  · next log hfile => exact .inr ⟨log, hfile, h⟩
  · cases h
    exact .inl ⟨rfl, rfl⟩

theorem workingDirectory_openLog (h : openLog disk logging = (result, opened)) :
    opened.workingDirectory = disk.workingDirectory := by
  rcases openLog_cases h with ⟨rfl, -⟩ | ⟨log, -, hwrite⟩
  · rfl
  · have hworking := disk.workingDirectory_write log ""
    rwa [hwrite] at hworking

theorem look?_openLog (h : openLog disk logging = (result, opened)) {path : Path}
    (hlog : LogElsewhere logging disk path) : opened.look? path = disk.look? path := by
  rcases openLog_cases h with ⟨rfl, -⟩ | ⟨log, hfile, hwrite⟩
  · rfl
  · have hlook := Disk.look?_write_of_ne "" (hlog log hfile)
    rwa [hwrite] at hlook

theorem file?_openLog (h : openLog disk logging = (result, opened)) {path : Path}
    (hlog : LogElsewhere logging disk path) : opened.file? path = disk.file? path := by
  rcases openLog_cases h with ⟨rfl, -⟩ | ⟨log, hfile, hwrite⟩
  · rfl
  · have hsame := Disk.file?_write_of_ne "" (hlog log hfile)
    rwa [hwrite] at hsame

/-- There is always room for nothing. So a log that cannot be made changes no file. -/
theorem tree_openLog_of_error {cause : FileError} (h : openLog disk logging = (.error cause, opened)) :
    opened.tree = disk.tree := by
  rcases openLog_cases h with ⟨-, hok⟩ | ⟨log, -, hwrite⟩
  · cases hok
  · rcases disk.write_cases log "" with ⟨-, htree⟩ | ⟨place, content, -, -, ⟨hok, -⟩ | ⟨-, room, -, hroom, -⟩⟩
    · rwa [hwrite] at htree
    · rw [hwrite] at hok
      cases hok
    · exact absurd hroom (Nat.not_lt_zero room)

/-! ### Closing the log -/

theorem closeLog_cases (disk : Disk) (logging : Logging) (events : List Log.Event) :
    closeLog disk logging events = disk ∨
      ∃ log text, logging.file? = some log ∧ closeLog disk logging events = (disk.write log text).2 := by
  unfold closeLog
  split
  · exact .inl rfl
  · exact .inl rfl
  · next log hfile _ => exact .inr ⟨log, _, hfile, rfl⟩

theorem look?_closeLog (events : List Log.Event) {path : Path} (hlog : LogElsewhere logging disk path) :
    (closeLog disk logging events).look? path = disk.look? path := by
  rcases closeLog_cases disk logging events with hsame | ⟨log, text, hfile, hwrite⟩
  · rw [hsame]
  · rw [hwrite, Disk.look?_write_of_ne text (hlog log hfile)]

theorem file?_closeLog (events : List Log.Event) {path : Path} (hlog : LogElsewhere logging disk path) :
    (closeLog disk logging events).file? path = disk.file? path := by
  rcases closeLog_cases disk logging events with hsame | ⟨log, text, hfile, hwrite⟩
  · rw [hsame]
  · rw [hwrite, Disk.file?_write_of_ne text (hlog log hfile)]

theorem closeLog_of_no_file (disk : Disk) (events : List Log.Event) (h : logging.file? = none) :
    closeLog disk logging events = disk := by
  simp only [closeLog, h]

/-! ### Between the two -/

section Start

variable {host : Host} {invocation : Invocation} {settings : Settings}

theorem of_start (h : start host invocation = .ok (settings, opened)) :
    settingsFor host invocation = .ok settings ∧ openLog host.disk settings.logging = (.ok (), opened) := by
  unfold start at h
  split at h
  · cases h
  · next found hsettings =>
    split at h
    · cases h
    · next hopen =>
      cases h
      exact ⟨hsettings, hopen⟩

theorem openLog_of_start (h : start host invocation = .ok (settings, opened)) :
    openLog host.disk settings.logging = (.ok (), opened) :=
  (of_start h).2

/-- A run that does not start fails. -/
theorem exitCode_of_start_error {outcome : Outcome} (h : start host invocation = .error outcome) :
    outcome.exitCode = 1 := by
  unfold start at h
  split at h
  · cases h
    rfl
  · split at h
    · cases h
      rfl
    · cases h

/-- A run that does not start changes no file. -/
theorem file?_of_start_error {outcome : Outcome} (h : start host invocation = .error outcome) (path : Path) :
    outcome.disk.file? path = host.disk.file? path := by
  unfold start at h
  split at h
  · cases h
    rfl
  · split at h
    · next hopen =>
      cases h
      exact Disk.file?_congr (tree_openLog_of_error hopen) (workingDirectory_openLog hopen) path
    · cases h

/-- Without settings nothing is done. -/
theorem disk_of_settingsFor_error {f : Failure} (h : settingsFor host invocation = .error f) :
    (invoke host invocation).disk = host.disk := by
  simp only [invoke, start, h]

theorem invoke_of_start (h : start host invocation = .ok (settings, opened)) :
    invoke host invocation =
      let done := perform { host with disk := opened } settings invocation.command
      { done with disk := closeLog done.disk settings.logging done.events } := by
  rw [invoke, h]

theorem invoke_of_start_error {outcome : Outcome} (h : start host invocation = .error outcome) :
    invoke host invocation = outcome := by
  rw [invoke, h]

end Start

end TypedTemplates.Command
