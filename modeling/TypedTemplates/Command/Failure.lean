import TypedTemplates.Command.Arguments
import TypedTemplates.Command.Host
import TypedTemplates.Decimal.Digits
import TypedTemplates.Settings.Basic
import TypedTemplates.Template.Error

/-!
# Why a command fails

A command that fails says so on standard output, in a line that names it, and tells the cause in further lines.
-/

namespace TypedTemplates

/-- The name under which the program speaks. -/
def programName : String := "etpl"

inductive Failure where
  /-- There are no settings; `searched?` is where they were looked for if no file was named. -/
  | settings (e : SettingsError) (searched? : Option Path)
  /-- The template file cannot be read. -/
  | unreadable (file : Path) (cause : FileError)
  /-- The text of the file is no template. -/
  | malformed (file : Path) (e : TemplateError)
  | store (e : StoreError)
  /-- A prompt cannot be shown. -/
  | prompt
  /-- Input comes to its end at a prompt. -/
  | cancelled
  /-- The program is interrupted at a prompt. -/
  | interrupted
  deriving DecidableEq, Repr

namespace Failure

/-- The lines that tell the cause. -/
def message : Failure → String
  | .settings e none => e.message
  | .settings e (some path) => e.message ++ "\nlooked for: " ++ path.text
  | .unreadable file cause => "failed to read template " ++ file.text ++ ": " ++ cause.message
  | .malformed file e =>
    match e.position? with
    | some n => file.text ++ ": " ++ e.message ++ "\n  at offset " ++ String.ofList (Decimal.text n)
    | none => file.text ++ ": " ++ e.message
  | .store e => e.message
  | .prompt => "IO error: not a terminal"
  | .cancelled => "input cancelled by user"
  | .interrupted => ""

/-- What the program writes when it fails before or in a subcommand. When it is interrupted, it ends without a word. -/
def report (name? : Option CommandName) (f : Failure) : String :=
  let speaker := match name? with
    | some name => programName ++ " " ++ name.text
    | none => programName
  if f = .interrupted then "" else "FAIL " ++ speaker ++ "\n" ++ f.message ++ "\n"

/-- The exit code. For a program that is interrupted it is the one that shells give to the signal. -/
def exitCode : Failure → Nat
  | .interrupted => 130
  | _ => 1

end Failure

/-- The outcome of a subcommand that fails. -/
def Outcome.failed (name : CommandName) (f : Failure) (notices : List String) (events : List Log.Event)
    (disk : Disk) : Outcome :=
  ⟨f.exitCode, f.report (some name), notices, events, disk⟩

end TypedTemplates
