import TypedTemplates.Settings.Environment
import TypedTemplates.Text.Alphanumeric
import TypedTemplates.Text.Split

/-!
# Variables in paths

`Environment.expand?` puts the values of environment variables into a path that was written down. A dollar sign and
a name, or a name between braces, stand for a variable; between braces the name may be followed by `:-` and what to
use if the variable is not set. Two dollar signs stand for one, and any other dollar sign stands for itself. Values
are used as they are. A tilde at the front of the written path, alone or before a slash, stands for the home
directory.
-/

namespace TypedTemplates.Expansion

def isNameCharacter (c : Char) : Bool :=
  Text.isAlphanumeric c || c = '_'

/-- A part of a path: characters that stand for themselves, or a variable and what to use if it is not set. -/
inductive Part where
  | literal (cs : List Char)
  | variable (name : List Char) (default? : Option (List Char))
  deriving DecidableEq, Repr

/-- What stands before the first `:-` and after it. -/
def splitDefault? : List Char → Option (List Char × List Char)
  | ':' :: '-' :: rest => some ([], rest)
  | c :: rest => (splitDefault? rest).map fun (before, after) => (c :: before, after)
  | [] => none

/-- The variable meant by what stands between braces. A default needs a name before it. -/
def Part.ofBraces (inside : List Char) : Part :=
  match splitDefault? inside with
  | some (c :: name, default) => .variable (c :: name) (some default)
  | _ => .variable inside none

/-- The parts of a written path. -/
def parts (cs : List Char) : List Part :=
  match cs with
  | [] => []
  | '$' :: '{' :: rest =>
    match _h : Text.splitAt? '}' rest with
    | some (inside, after) => Part.ofBraces inside :: parts after
    | none => .literal ['$', '{'] :: parts rest
  | '$' :: '$' :: rest => .literal ['$'] :: parts rest
  | '$' :: c :: rest =>
    if isNameCharacter c then
      .variable (c :: rest.takeWhile isNameCharacter) none :: parts (rest.dropWhile isNameCharacter)
    else .literal ['$'] :: parts (c :: rest)
  | c :: rest => .literal [c] :: parts rest
termination_by cs.length
decreasing_by
  all_goals simp_wf
  all_goals
    first
    | omega
    | have := congrArg List.length (Text.eq_of_splitAt? _h); simp at this; omega
    | have := (List.dropWhile_sublist isNameCharacter (l := rest)).length_le; omega

/-- The names of the variables that a written path refers to. -/
def names (cs : List Char) : List String :=
  (parts cs).filterMap fun
    | .literal _ => none
    | .variable name _ => some (String.ofList name)

/-- What a part stands for. A variable that is not set and has no default stands for nothing. -/
def Part.value? (env : Environment) : Part → Option (List Char)
  | .literal cs => some cs
  | .variable name default? => ((env.get? (String.ofList name)).map String.toList).or default?

/-- The text with the value of every part. -/
def substitute? (env : Environment) : List Part → Option (List Char)
  | [] => some []
  | part :: rest =>
    match part.value? env, substitute? env rest with
    | some value, some values => some (value ++ values)
    | _, _ => none

/-- The text with the home directory in place of a tilde at its front. -/
def expandHome (env : Environment) (cs : List Char) : List Char :=
  match env.home?, cs with
  | some home, ['~'] => home.toList
  | some home, '~' :: '/' :: rest => home.toList ++ '/' :: rest
  | _, _ => cs

end Expansion

/-- The path that a text stands for. A tilde that comes out of a variable is kept. -/
def Environment.expand? (env : Environment) (text : String) : Option Path :=
  (Expansion.substitute? env (Expansion.parts text.toList)).map fun cs =>
    ⟨String.ofList (if text.toList.head? = some '~' then Expansion.expandHome env cs else cs)⟩

end TypedTemplates
