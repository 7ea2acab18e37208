import TypedTemplates.Command.Inspect
import TypedTemplates.Command.Keyboard

/-!
# Rendering a template

The subcommand `render` takes the values of a template's variables from the store, then from assignments on the
command line, then from prompts for those that are still empty. Every change is saved at once.
-/

namespace TypedTemplates.Command

open Json (Value)

/-- A run of `render` under way. -/
structure Rendering where
  engine : Engine StoreOnDisk
  notices : List String
  events : List Log.Event

namespace Rendering

/-- Gives a variable another value, and answers whether there is one of that name. -/
def change (r : Rendering) (name value : String) : Except StoreError Bool × Rendering :=
  let changed := r.engine.setValue name value
  (changed.1, { r with engine := changed.2, events := r.events ++ Log.assigning name changed })

def logged (r : Rendering) (message : String) : Rendering :=
  { r with events := r.events ++ [⟨.debug, message, []⟩] }

/-- Makes an assignment of the command line. One that no variable has the name of gives a warning. -/
def assign (r : Rendering) (a : Assignment) : Except StoreError Unit × Rendering :=
  match r.change a.name a.value with
  | (.ok true, r) => (.ok (), r.logged ("Set " ++ a.name ++ " from --var"))
  | (.ok false, r) =>
    (.ok (), { r with notices := r.notices ++ ["warning: template has no variable '" ++ a.name ++ "'"] })
  | (.error e, r) => (.error e, r)

/-- Makes assignments in order, up to one that cannot be saved. -/
def assignAll (r : Rendering) : List Assignment → Except StoreError Unit × Rendering
  | [] => (.ok (), r)
  | a :: rest =>
    match r.assign a with
    | (.ok (), r) => assignAll r rest
    | (.error e, r) => (.error e, r)

/-- The variables that are still empty. -/
def missing (r : Rendering) : List Variable :=
  r.engine.vars.toList.filter fun v => v.value = ""

/-- Gives the variables the answers in order, up to one that cannot be saved. When they run out, empty ones follow. -/
def answer (r : Rendering) : List Variable → List String → Except StoreError Unit × Rendering
  | [], _ => (.ok (), r)
  | v :: vs, answers =>
    match r.change v.name (answers.headD "") with
    | (.ok _, r) => answer r vs answers.tail
    | (.error e, r) => (.error e, r)

/-- Prompts for the variables, all of which are answered. -/
def promptAll (r : Rendering) (vars : List Variable) (answers : List String) : Except Failure Unit × Rendering :=
  match r.answer vars answers with
  | (.ok (), answered) => (.ok (), answered.logged ("Prompted for: " ++ Text.quotedList (vars.map (·.name))))
  | (.error e, answered) => (.error (.store e), answered)

/-- Prompts for the variables as long as there are answers. The prompt after them fails. -/
def promptUntil (r : Rendering) (vars : List Variable) (answers : List String) (f : Failure) :
    Except Failure Unit × Rendering :=
  if vars.length ≤ answers.length then r.promptAll vars answers
  else
    match r.answer (vars.take answers.length) answers with
    | (.ok (), answered) => (.error f, answered)
    | (.error e, answered) => (.error (.store e), answered)

/-- Prompts for the variables that are still empty, if there is a terminal. -/
def prompt (r : Rendering) (terminal : Terminal) : Except Failure Unit × Rendering :=
  match terminal with
  | .absent => (.ok (), r.logged "Prompted for: []")
  | .mute => r.promptUntil r.missing [] .prompt
  | .closing texts =>
    r.promptUntil r.missing (Keyboard.endedLines texts) (if Keyboard.interrupts texts then .interrupted else .cancelled)
  | .answering texts =>
    if Keyboard.interrupts texts then r.promptUntil r.missing (Keyboard.endedLines texts) .interrupted
    else r.promptAll r.missing (Keyboard.lines texts)

def disk (r : Rendering) : Disk :=
  r.engine.store.disk

/-- The output and the variables as a JSON text, with the template's error if it has one. -/
def json (r : Rendering) : String :=
  (Value.object ([("output", .string r.engine.output), ("variables", r.engine.vars.toJson)] ++
    (r.engine.error.map fun e => ("error", e.toJson)).toList)).text .indented ++ "\n"

def failed (r : Rendering) (f : Failure) : Outcome :=
  .failed .render f r.notices r.events r.disk

/-- The outcome when all values have been given. -/
def finished (r : Rendering) (asJson : Bool) : Outcome :=
  ⟨0, if asJson then r.json else r.engine.output, r.notices, r.events, r.disk⟩

/-- The outcome when the text of the file is no template. -/
def malformed (r : Rendering) (file : Path) (e : TemplateError) (asJson : Bool) : Outcome :=
  if asJson then ⟨1, r.json, r.notices, r.events, r.disk⟩ else r.failed (.malformed file e)

end Rendering

/-- Begins to render the template in a file, over the configured store. -/
def beginRendering (disk : Disk) (template : String) (store : JsonFileStore) :
    Except StoreError Unit × Rendering :=
  let attached := Engine.attach (StoreOnDisk.mk store disk) template
  (attached.1, ⟨attached.2, [], Log.loading disk store ++ Log.attaching template attached⟩)

/-- A run of `render` up to its prompts, or its outcome if it ends before them. -/
def untilPrompts (disk : Disk) (settings : Settings) (file : Path) (assignments : List Assignment) (asJson : Bool) :
    Except Outcome Rendering :=
  match prepare disk settings file with
  | .error f => .error (.failed .render f [] [] disk)
  | .ok (template, store) =>
    match beginRendering disk template store with
    | (.error e, r) => .error (r.failed (.store e))
    | (.ok (), r) =>
      match r.engine.error with
      | some e => .error (r.malformed file e asJson)
      | none =>
        match r.assignAll assignments with
        | (.error e, r) => .error (r.failed (.store e))
        | (.ok (), r) => .ok r

def render (disk : Disk) (terminal : Terminal) (settings : Settings) (file : Path) (assignments : List Assignment)
    (batch asJson : Bool) : Outcome :=
  match untilPrompts disk settings file assignments asJson with
  | .error outcome => outcome
  | .ok r =>
    match r.prompt (if batch then .absent else terminal) with
    | (.error f, r) => r.failed f
    | (.ok (), r) => r.finished asJson

end TypedTemplates.Command
