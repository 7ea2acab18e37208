import TypedTemplates.Text.Hex

/-!
# Strings of TOML

A string between double quotes may have escapes, one between single quotes is taken as it is. Three quotes of a kind
enclose a text of several lines, whose first line break is left out. Each function below reads up to the closing
quotes, after the opening ones, and gives back the rest.
-/

namespace TypedTemplates.Toml

/-- Whether a character may stand in a string or a comment as itself. -/
def isPlain (c : Char) : Bool :=
  c = '\t' || (0x20 ≤ c.toNat && c ≠ '\x7f')

def isBlank (c : Char) : Bool :=
  c = ' ' || c = '\t'

/-- What follows a line break. -/
def afterNewline? : List Char → Option (List Char)
  | '\n' :: rest => some rest
  | '\r' :: '\n' :: rest => some rest
  | _ => none

/-- The text without the line break at its front, if there is one. -/
def dropNewline (cs : List Char) : List Char :=
  (afterNewline? cs).getD cs

/-- The character with a number, which must be a Unicode scalar value. -/
def scalar? (n : Nat) : Option Char :=
  if h : n.isValidChar then some (Char.ofNatAux n h) else none

/-- The character written by `count` hexadecimal digits, and what follows them. -/
def readCode (count : Nat) (cs : List Char) : Option (Char × List Char) :=
  if cs.length < count then none
  else ((Text.hexNumber? (cs.take count)).bind scalar?).map fun c => (c, cs.drop count)

/-- The character of an escape, read after its backslash. -/
def readEscape : List Char → Option (Char × List Char)
  | 'b' :: rest => some ('\x08', rest)
  | 't' :: rest => some ('\t', rest)
  | 'n' :: rest => some ('\n', rest)
  | 'f' :: rest => some ('\x0c', rest)
  | 'r' :: rest => some ('\r', rest)
  | 'e' :: rest => some ('\x1b', rest)
  | '"' :: rest => some ('"', rest)
  | '\\' :: rest => some ('\\', rest)
  | 'x' :: rest => readCode 2 rest
  | 'u' :: rest => readCode 4 rest
  | 'U' :: rest => readCode 8 rest
  | _ => none

/-- What follows a backslash at the end of a line and all blanks and line breaks after it. -/
def afterLineEnding? (cs : List Char) : Option (List Char) :=
  (afterNewline? (cs.dropWhile isBlank)).map skip
where
  skip : List Char → List Char
    | '\r' :: '\n' :: rest => skip rest
    | c :: rest => if isBlank c || c = '\n' then skip rest else c :: rest
    | [] => []

/-- A text put before what a reader has found. -/
def prepend (front : List Char) (found : Option (List Char × List Char)) : Option (List Char × List Char) :=
  found.map fun (text, rest) => (front ++ text, rest)

/-- Reads a string between double quotes. Every step takes from `fuel`, and a character at least. -/
def readBasic (fuel : Nat) (cs : List Char) : Option (List Char × List Char) :=
  match fuel, cs with
  | 0, _ | _, [] => none
  | _, '"' :: rest => some ([], rest)
  | fuel + 1, '\\' :: rest =>
    match readEscape rest with
    | some (c, rest) => prepend [c] (readBasic fuel rest)
    | none => none
  | fuel + 1, c :: rest => if isPlain c then prepend [c] (readBasic fuel rest) else none

/-- Reads a string between three double quotes, before which two more may belong to the text. -/
def readBasicLines (fuel : Nat) (cs : List Char) : Option (List Char × List Char) :=
  match fuel, cs with
  | 0, _ | _, [] => none
  | _, '"' :: '"' :: '"' :: '"' :: '"' :: rest => some (['"', '"'], rest)
  | _, '"' :: '"' :: '"' :: '"' :: rest => some (['"'], rest)
  | _, '"' :: '"' :: '"' :: rest => some ([], rest)
  | fuel + 1, '\\' :: rest =>
    match afterLineEnding? rest, readEscape rest with
    | some rest, _ => readBasicLines fuel rest
    | none, some (c, rest) => prepend [c] (readBasicLines fuel rest)
    | none, none => none
  | fuel + 1, '\r' :: '\n' :: rest => prepend ['\r', '\n'] (readBasicLines fuel rest)
  | fuel + 1, c :: rest => if isPlain c || c = '\n' then prepend [c] (readBasicLines fuel rest) else none

/-- Reads a string between single quotes. -/
def readLiteral : List Char → Option (List Char × List Char)
  | [] => none
  | '\'' :: rest => some ([], rest)
  | c :: rest => if isPlain c then prepend [c] (readLiteral rest) else none

/-- Reads a string between three single quotes, before which two more may belong to the text. -/
def readLiteralLines : List Char → Option (List Char × List Char)
  | [] => none
  | '\'' :: '\'' :: '\'' :: '\'' :: '\'' :: rest => some (['\'', '\''], rest)
  | '\'' :: '\'' :: '\'' :: '\'' :: rest => some (['\''], rest)
  | '\'' :: '\'' :: '\'' :: rest => some ([], rest)
  | '\r' :: '\n' :: rest => prepend ['\r', '\n'] (readLiteralLines rest)
  | c :: rest => if isPlain c || c = '\n' then prepend [c] (readLiteralLines rest) else none

/-- Reads a string of one line. -/
def readLine? : List Char → Option (List Char × List Char)
  | '"' :: rest => readBasic (rest.length + 1) rest
  | '\'' :: rest => readLiteral rest
  | _ => none

/-- Reads a string of any kind. -/
def readText? : List Char → Option (List Char × List Char)
  | '"' :: '"' :: '"' :: rest => readBasicLines (rest.length + 1) (dropNewline rest)
  | '\'' :: '\'' :: '\'' :: rest => readLiteralLines (dropNewline rest)
  | cs => readLine? cs

end TypedTemplates.Toml
