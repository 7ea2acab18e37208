import TypedTemplates.Command.Failure
import TypedTemplates.Version

/-!
# Help texts
-/

namespace TypedTemplates.Command

/-- The line that says how a subcommand is used. -/
def usage : Option CommandName → String
  | none => "Usage: " ++ programName ++ " [OPTIONS] <COMMAND>\n"
  | some .doctor => "Usage: " ++ programName ++ " doctor [OPTIONS]\n"
  | some name => "Usage: " ++ programName ++ " " ++ name.text ++ " [OPTIONS] <FILE>\n"

def about : CommandName → String
  | .doctor => "Print the resolved configuration"
  | .check => "Validate a template file"
  | .vars => "List the variables declared by a template"
  | .render => "Fill in variables and print the rendered template"

/-- The lines about the options that every subcommand has. -/
def commonOptions : String :=
  "      --config <CONFIG>  Config file (defaults to $XDG_CONFIG_HOME/easy-templates/config.toml)\n" ++
  "      --store <STORE>    Variable store file, overriding the config\n"

/-- The lines about the options of a subcommand. -/
def ownOptions : CommandName → String
  | .vars => "      --json             Print as JSON instead of a table\n"
  | .render =>
    "      --var <NAME=VALUE> Set a variable value (repeatable)\n" ++
    "      --batch            Never prompt; missing values stay empty\n" ++
    "      --json             Print output, variables and error as JSON\n"
  | _ => ""

def help : Option CommandName → String
  | none =>
    "Fill and render \x7b\x7bname|type\x7d\x7d templates\n\n" ++ usage none ++ "\nCommands:\n" ++
    "  doctor  " ++ about .doctor ++ "\n" ++
    "  check   " ++ about .check ++ "\n" ++
    "  vars    " ++ about .vars ++ "\n" ++
    "  render  " ++ about .render ++ "\n" ++
    "  help    Print this message or the help of the given subcommand(s)\n\nOptions:\n" ++ commonOptions ++
    "  -h, --help             Print help\n" ++
    "  -V, --version          Print version\n"
  | some name =>
    about name ++ "\n\n" ++ usage (some name) ++
    (if name.takesFile then "\nArguments:\n  <FILE>  Template file to read\n" else "") ++
    "\nOptions:\n" ++ commonOptions ++ ownOptions name ++
    "  -h, --help             Print help\n"

/-- The line that tells the version. -/
def versionLine : String :=
  programName ++ " " ++ version ++ "\n"

end TypedTemplates.Command
