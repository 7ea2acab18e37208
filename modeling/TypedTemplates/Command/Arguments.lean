import TypedTemplates.Command.Assignment
import TypedTemplates.Disk.Path
import TypedTemplates.Text.Split

/-!
# The command line

Arguments are first sorted into tokens: options with their values, flags, and words. `Request.ofArguments` reads the
tokens from left to right, and the first one that asks for help, asks for the version or is out of place decides.
The options about files may stand before or after the name of the subcommand; those after it count more.
-/

namespace TypedTemplates

/-- The options that take a value. -/
inductive Valued where
  | config
  | store
  | var
  deriving DecidableEq, Repr

/-- The options that take none. -/
inductive Flag where
  | json
  | batch
  | help
  | version
  deriving DecidableEq, Repr

def Valued.text : Valued → String
  | .config => "--config"
  | .store => "--store"
  | .var => "--var"

def Flag.text : Flag → String
  | .json => "--json"
  | .batch => "--batch"
  | .help => "--help"
  | .version => "--version"

inductive Token where
  | valued (option : Valued) (value : String)
  /-- An option that lacks its value. -/
  | bare (option : Valued)
  | flag (f : Flag)
  | word (w : String)
  /-- The mark after which all arguments are words. -/
  | ending
  | unknown (argument : String)
  deriving DecidableEq, Repr

namespace Token

/-- Whether an argument has the look of an option. A single hyphen has not. -/
def looksLikeOption (argument : String) : Bool :=
  match argument.toList with
  | '-' :: _ :: _ => true
  | _ => false

def valued? : String → Option Valued
  | "config" => some .config
  | "store" => some .store
  | "var" => some .var
  | _ => none

def flag? : String → Option Flag
  | "json" => some .json
  | "batch" => some .batch
  | "help" => some .help
  | "version" => some .version
  | _ => none

/-- An argument on its own: a token, or an option that has the next argument for its value. -/
def read (argument : String) : Token ⊕ Valued :=
  match argument.toList with
  | ['-', '-'] => .inl .ending
  | '-' :: '-' :: cs =>
    match Text.splitAt? '=' cs with
    | some (name, value) =>
      match valued? (String.ofList name) with
      | some option => .inl (.valued option (String.ofList value))
      | none => .inl (.unknown argument)
    | none =>
      match valued? (String.ofList cs), flag? (String.ofList cs) with
      | some option, _ => .inr option
      | none, some f => .inl (.flag f)
      | none, none => .inl (.unknown argument)
  | '-' :: 'h' :: _ => .inl (.flag .help)
  | '-' :: 'V' :: _ => .inl (.flag .version)
  | '-' :: _ :: _ => .inl (.unknown argument)
  | _ => .inl (.word argument)

/-- The tokens of the arguments. An option that lacks its value is the last one, since what follows cannot mend it. -/
def ofArguments : List String → List Token
  | [] => []
  | argument :: rest =>
    match read argument with
    | .inl .ending => .ending :: rest.map .word
    | .inl token => token :: ofArguments rest
    | .inr option =>
      match rest with
      | [] => [.bare option]
      | value :: after =>
        if looksLikeOption value then [.bare option]
        else .valued option value :: ofArguments after

end Token

/-- The names of the subcommands. -/
inductive CommandName where
  | doctor
  | check
  | vars
  | render
  deriving DecidableEq, Repr

namespace CommandName

def all : List CommandName := [.doctor, .check, .vars, .render]

def text : CommandName → String
  | .doctor => "doctor"
  | .check => "check"
  | .vars => "vars"
  | .render => "render"

def ofText? (name : String) : Option CommandName :=
  all.find? fun c => c.text == name

def takesFile (c : CommandName) : Bool :=
  c ≠ .doctor

/-- The flags that a subcommand has besides the one for help. -/
def takesFlag : CommandName → Flag → Bool
  | .vars, .json | .render, .json | .render, .batch => true
  | _, _ => false

def takesValued : CommandName → Valued → Bool
  | _, .config | _, .store | .render, .var => true
  | _, .var => false

end CommandName

/-- A subcommand with what it works on. -/
inductive Subcommand where
  | doctor
  | check (file : Path)
  | vars (file : Path) (asJson : Bool)
  | render (file : Path) (assignments : List Assignment) (batch asJson : Bool)
  deriving DecidableEq, Repr

def Subcommand.name : Subcommand → CommandName
  | .doctor => .doctor
  | .check _ => .check
  | .vars _ _ => .vars
  | .render _ _ _ _ => .render

/-- What the program is to do, and the files that it is to use instead of those configured. -/
structure Invocation where
  configPath? : Option Path
  storePath? : Option Path
  command : Subcommand
  deriving DecidableEq, Repr

inductive Request where
  | help (topic : Option CommandName)
  | version
  | run (invocation : Invocation)
  deriving DecidableEq, Repr

/-- Why arguments make no request. -/
inductive Misuse where
  | noCommand
  | unknownCommand (name : String)
  | unexpected (argument : String)
  | noValue
  | repeated
  | noFile
  | badAssignment (argument : String)
  deriving DecidableEq, Repr

def Misuse.message : Misuse → String
  | .noCommand => "a subcommand is required"
  | .unknownCommand name => "unrecognized subcommand '" ++ name ++ "'"
  | .unexpected argument => "unexpected argument '" ++ argument ++ "' found"
  | .noValue => "a value is required for an option or a file"
  | .repeated => "an option cannot be used multiple times"
  | .noFile => "the required argument <FILE> was not provided"
  | .badAssignment argument => Assignment.refusal argument

/-- What the arguments have given so far. -/
structure Given where
  configPath? : Option Path := none
  storePath? : Option Path := none
  file? : Option Path := none
  assignments : List Assignment := []
  batch : Bool := false
  asJson : Bool := false

namespace Given

/-- A path that has not been given before. An empty one is none. -/
def path (before : Option Path) (text : String) : Except Misuse (Option Path) :=
  if before.isSome then .error .repeated
  else if text = "" then .error .noValue
  else .ok (some ⟨text⟩)

def giveValue (g : Given) (option : Valued) (value : String) : Except Misuse Given :=
  match option with
  | .config => (path g.configPath? value).map fun p => { g with configPath? := p }
  | .store => (path g.storePath? value).map fun p => { g with storePath? := p }
  | .var =>
    match Assignment.ofArgument? value with
    | some a => .ok { g with assignments := g.assignments ++ [a] }
    | none => .error (.badAssignment value)

def giveFlag (g : Given) : Flag → Except Misuse Given
  | .json => if g.asJson then .error .repeated else .ok { g with asJson := true }
  | .batch => if g.batch then .error .repeated else .ok { g with batch := true }
  | .help => .ok g
  | .version => .ok g

/-- The subcommand with what has been given to it. -/
def command (g : Given) (name : CommandName) : Except Misuse Subcommand :=
  match name, g.file? with
  | .doctor, _ => .ok .doctor
  | .check, some file => .ok (.check file)
  | .vars, some file => .ok (.vars file g.asJson)
  | .render, some file => .ok (.render file g.assignments g.batch g.asJson)
  | _, none => .error .noFile

end Given

namespace Request

/-- Reads the tokens after the name of a subcommand. -/
def ofCommand (before : Given) (name : CommandName) (g : Given) : List Token → Except Misuse Request
  | [] => (g.command name).map fun command =>
      .run ⟨g.configPath?.or before.configPath?, g.storePath?.or before.storePath?, command⟩
  | .valued option value :: rest =>
    if name.takesValued option then
      match g.giveValue option value with
      | .ok g => ofCommand before name g rest
      | .error e => .error e
    else .error (.unexpected option.text)
  | .flag .help :: _ => .ok (.help (some name))
  | .flag f :: rest =>
    if name.takesFlag f then
      match g.giveFlag f with
      | .ok g => ofCommand before name g rest
      | .error e => .error e
    else .error (.unexpected f.text)
  | .word w :: rest =>
    if name.takesFile && g.file?.isNone then
      if w = "" then .error .noValue else ofCommand before name { g with file? := some ⟨w⟩ } rest
    else .error (.unexpected w)
  | .ending :: rest => ofCommand before name g rest
  | .bare _ :: _ => .error .noValue
  | .unknown argument :: _ => .error (.unexpected argument)

/-- Reads the tokens after the word that asks for help: the name of at most one subcommand. -/
def ofHelp : List Token → Except Misuse Request
  | [] => .ok (.help none)
  | [.word w] =>
    if w = "help" then .ok (.help none)
    else
      match CommandName.ofText? w with
      | some name => .ok (.help (some name))
      | none => .error (.unknownCommand w)
  | _ => .error (.unknownCommand "help")

/-- Reads the tokens up to the name of a subcommand. -/
def ofTokens (g : Given) : List Token → Except Misuse Request
  | [] => .error .noCommand
  | .valued .var _ :: _ => .error (.unexpected Valued.var.text)
  | .valued option value :: rest =>
    match g.giveValue option value with
    | .ok g => ofTokens g rest
    | .error e => .error e
  | .flag .help :: _ => .ok (.help none)
  | .flag .version :: _ => .ok .version
  | .flag f :: _ => .error (.unexpected f.text)
  | .word w :: rest =>
    if w = "help" then ofHelp rest
    else
      match CommandName.ofText? w with
      | some name => ofCommand g name {} rest
      | none => .error (.unknownCommand w)
  | .ending :: _ => .error .noCommand
  | .bare _ :: _ => .error .noValue
  | .unknown argument :: _ => .error (.unexpected argument)

/-- The request that arguments make. -/
def ofArguments (arguments : List String) : Except Misuse Request :=
  ofTokens {} (Token.ofArguments arguments)

end Request

end TypedTemplates
