import TypedTemplates.Decimal.Digits
import TypedTemplates.Json.Tree
import TypedTemplates.Text.Hex

/-!
# Reading JSON texts

`Tree.ofText?` accepts exactly one JSON value with blanks around it. Each function below reads something at the
front of a text and gives back the rest.
-/

namespace TypedTemplates.Json

/-- The four characters that may stand between the parts of a text. -/
def isSeparator (c : Char) : Bool :=
  c = ' ' || c = '\n' || c = '\t' || c = '\r'

def skipSeparators (cs : List Char) : List Char :=
  cs.dropWhile isSeparator

/-- The character that an escape of one letter stands for. -/
def escape? (c : Char) : Option Char :=
  match c with
  | '"' => some '"'
  | '\\' => some '\\'
  | '/' => some '/'
  | 'b' => some '\x08'
  | 'f' => some '\x0c'
  | 'n' => some '\n'
  | 'r' => some '\r'
  | 't' => some '\t'
  | _ => none

/-- Reads a string literal up to its closing quote; the opening one has been read. -/
def readString : List Char → Option (List Symbol × List Char)
  | [] => none
  | '"' :: rest => some ([], rest)
  | '\\' :: 'u' :: a :: b :: c :: d :: rest =>
    match Text.hexNumber? [a, b, c, d], readString rest with
    | some code, some (symbols, rest) => some (.unit code :: symbols, rest)
    | _, _ => none
  | '\\' :: c :: rest =>
    match escape? c, readString rest with
    | some c, some (symbols, rest) => some (.char c :: symbols, rest)
    | _, _ => none
  | c :: rest =>
    if c.toNat < 0x20 then none
    else (readString rest).map fun (symbols, rest) => (.char c :: symbols, rest)

/-- Reads digits, of which there must be one at least. -/
def readDigits (cs : List Char) : Option (List Nat × List Char) :=
  match Decimal.scanDigits cs with
  | ([], _) => none
  | (ds, rest) => some (ds, rest)

/-- Reads the digits before the point: a zero alone, or digits that do not begin with one. -/
def readWhole (cs : List Char) : Option (List Nat × List Char) :=
  match readDigits cs with
  | some (0 :: _ :: _, _) => none
  | r => r

/-- Reads the digits after the point, if there is one. -/
def readFraction : List Char → Option (Option (List Nat) × List Char)
  | '.' :: rest => (readDigits rest).map fun (ds, rest) => (some ds, rest)
  | rest => some (none, rest)

/-- Reads the sign and digits of an exponent that follow its letter. -/
def readSignedDigits : List Char → Option ((Bool × List Nat) × List Char)
  | '+' :: rest => (readDigits rest).map fun (ds, rest) => ((false, ds), rest)
  | '-' :: rest => (readDigits rest).map fun (ds, rest) => ((true, ds), rest)
  | rest => (readDigits rest).map fun (ds, rest) => ((false, ds), rest)

/-- Reads an exponent, if there is one. -/
def readExponent (cs : List Char) : Option (Option (Bool × List Nat) × List Char) :=
  match cs with
  | c :: rest =>
    if c = 'e' ∨ c = 'E' then (readSignedDigits rest).map fun (e, rest) => (some e, rest) else some (none, cs)
  | [] => some (none, [])

/-- Reads a number that follows its sign. -/
def readUnsigned (negative : Bool) (cs : List Char) : Option (NumberLiteral × List Char) := do
  let (whole, rest) ← readWhole cs
  let (fraction, rest) ← readFraction rest
  let (exponent, rest) ← readExponent rest
  return (⟨negative, whole, fraction, exponent⟩, rest)

def readNumber : List Char → Option (NumberLiteral × List Char)
  | '-' :: rest => readUnsigned true rest
  | cs => readUnsigned false cs

mutual

/-- Reads a value; every value within it takes from `fuel`. -/
def readTree (fuel : Nat) (cs : List Char) : Option (Tree × List Char) :=
  match fuel with
  | 0 => none
  | fuel + 1 =>
    match skipSeparators cs with
    | 'n' :: 'u' :: 'l' :: 'l' :: rest => some (.null, rest)
    | 't' :: 'r' :: 'u' :: 'e' :: rest => some (.bool true, rest)
    | 'f' :: 'a' :: 'l' :: 's' :: 'e' :: rest => some (.bool false, rest)
    | '"' :: rest => (readString rest).map fun (literal, rest) => (.string literal, rest)
    | '[' :: rest =>
      match skipSeparators rest with
      | ']' :: rest => some (.array [], rest)
      | _ => (readItems fuel rest).map fun (items, rest) => (.array items, rest)
    | '{' :: rest =>
      match skipSeparators rest with
      | '}' :: rest => some (.object [], rest)
      | _ => (readMembers fuel rest).map fun (members, rest) => (.object members, rest)
    | cs => (readNumber cs).map fun (literal, rest) => (.number literal, rest)

/-- Reads the items of an array up to its closing bracket. -/
def readItems (fuel : Nat) (cs : List Char) : Option (List Tree × List Char) :=
  match fuel with
  | 0 => none
  | fuel + 1 =>
    match readTree fuel cs with
    | none => none
    | some (item, rest) =>
      match skipSeparators rest with
      | ']' :: rest => some ([item], rest)
      | ',' :: rest => (readItems fuel rest).map fun (items, rest) => (item :: items, rest)
      | _ => none

/-- Reads the members of an object up to its closing brace. -/
def readMembers (fuel : Nat) (cs : List Char) : Option (List (List Symbol × Tree) × List Char) :=
  match fuel with
  | 0 => none
  | fuel + 1 =>
    match readMember fuel cs with
    | none => none
    | some (member, rest) =>
      match skipSeparators rest with
      | '}' :: rest => some ([member], rest)
      | ',' :: rest => (readMembers fuel rest).map fun (members, rest) => (member :: members, rest)
      | _ => none

/-- Reads one member of an object. -/
def readMember (fuel : Nat) (cs : List Char) : Option ((List Symbol × Tree) × List Char) :=
  match fuel with
  | 0 => none
  | fuel + 1 =>
    match skipSeparators cs with
    | '"' :: rest =>
      match readString rest with
      | none => none
      | some (key, rest) =>
        match skipSeparators rest with
        | ':' :: rest => (readTree fuel rest).map fun (value, rest) => ((key, value), rest)
        | _ => none
    | _ => none

end

/-- The tree of a text that is one JSON value. Every step of reading takes a character at least, or leads to one that
does within three more steps, so the fuel is never short. -/
def Tree.ofText? (text : String) : Option Tree :=
  match readTree (4 * text.length + 4) text.toList with
  | some (tree, rest) => if (skipSeparators rest).isEmpty then some tree else none
  | none => none

end TypedTemplates.Json
