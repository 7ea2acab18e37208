import TypedTemplates.Toml.DateTime
import TypedTemplates.Toml.Number
import TypedTemplates.Toml.Table
import TypedTemplates.Toml.Text

/-!
# Reading TOML documents

A document is a sequence of lines, each of which is blank, gives a value to a key, or opens a table. A value may go
over several lines between brackets or braces.
-/

namespace TypedTemplates.Toml

def skipBlanks (cs : List Char) : List Char :=
  cs.dropWhile isBlank

/-- Leaves out blanks, line breaks and comments. -/
def skipGaps (inComment : Bool) : List Char → List Char
  | [] => []
  | '\r' :: '\n' :: rest => skipGaps false rest
  | c :: rest =>
    if c = '\n' then skipGaps false rest
    else if inComment then if isPlain c then skipGaps true rest else c :: rest
    else if isBlank c then skipGaps false rest
    else if c = '#' then skipGaps true rest
    else c :: rest

/-- What follows the line, if only blanks and a comment are left of it. -/
def afterLine? (cs : List Char) : Option (List Char) :=
  match skipBlanks cs with
  | [] => some []
  | '#' :: rest =>
    match rest.dropWhile isPlain with
    | [] => some []
    | rest => afterNewline? rest
  | rest => afterNewline? rest

/-! ### Keys -/

/-- Whether a character may stand in a key without quotes. -/
def isBare (c : Char) : Bool :=
  c.isAlphanum || c = '_' || c = '-'

/-- Reads one key, with quotes or without. -/
def readKey? (cs : List Char) : Option (String × List Char) :=
  match cs.takeWhile isBare with
  | [] => (readLine? cs).map fun (key, rest) => (String.ofList key, rest)
  | key => some (String.ofList key, cs.dropWhile isBare)

/-- The most keys that a dotted key may have, and the deepest that brackets may nest. -/
def maxDepth : Nat := 80

/-- Reads keys with points between them, and the blanks after them. -/
def readKeys (fuel : Nat) (cs : List Char) : Option (DottedKey × List Char) :=
  match fuel with
  | 0 => none
  | fuel + 1 =>
    match readKey? cs with
    | none => none
    | some (key, rest) =>
      match skipBlanks rest with
      | '.' :: rest =>
        (readKeys fuel (skipBlanks rest)).map fun (keys, rest) => (⟨key :: keys.way, keys.last⟩, rest)
      | rest => some (⟨[], key⟩, rest)

/-- Reads a dotted key, and the blanks after it. Each of its keys takes one of the fuel. -/
def readDottedKey? (cs : List Char) : Option (DottedKey × List Char) :=
  readKeys maxDepth cs

/-! ### Values -/

/-- Whether a character may stand in a word: a boolean, a number, a date or a time. -/
def isWordCharacter (c : Char) : Bool :=
  c.isAlphanum || c = '_' || c = '+' || c = '-' || c = '.' || c = ':'

/-- The value of a word. -/
def Value.ofWord? (word : List Char) : Option Value :=
  if word = ['t', 'r', 'u', 'e'] then some (.boolean true)
  else if word = ['f', 'a', 'l', 's', 'e'] then some (.boolean false)
  else
    match integer? word with
    | some n => some (.integer n)
    | none =>
      if isFloat word then some (.float word)
      else if isDateTime word then some (.dateTime word)
      else none

/-- Reads a word. The time after a date may stand after a blank. -/
def readWord? (cs : List Char) : Option (Value × List Char) :=
  let word := cs.takeWhile isWordCharacter
  match cs.dropWhile isWordCharacter with
  | ' ' :: c :: rest =>
    if isDate word && c.isDigit then
      (Value.ofWord? (word ++ ' ' :: (c :: rest).takeWhile isWordCharacter)).map fun value =>
        (value, rest.dropWhile isWordCharacter)
    else (Value.ofWord? word).map fun value => (value, ' ' :: c :: rest)
  | rest => (Value.ofWord? word).map fun value => (value, rest)

mutual

/-- Reads a value; every value within it takes from `fuel`. -/
def readValue (fuel : Nat) (cs : List Char) : Option (Value × List Char) :=
  match fuel with
  | 0 => none
  | fuel + 1 =>
    match cs with
    | '[' :: rest =>
      match skipGaps false rest with
      | ']' :: rest => some (.array [], rest)
      | rest => (readItems fuel rest).map fun (items, rest) => (.array items, rest)
    | '{' :: rest =>
      match skipGaps false rest with
      | '}' :: rest => some (.table .inline [], rest)
      | rest =>
        match readPairs fuel rest with
        | some (pairs, rest) => (Table.ofPairs? pairs).map fun members => (.table .inline members, rest)
        | none => none
    | cs =>
      match readText? cs with
      | some (text, rest) => some (.string (String.ofList text), rest)
      | none => readWord? cs

/-- Reads the items of an array up to its closing bracket. A comma may follow the last one. -/
def readItems (fuel : Nat) (cs : List Char) : Option (List Value × List Char) :=
  match fuel with
  | 0 => none
  | fuel + 1 =>
    match readValue fuel cs with
    | none => none
    | some (item, rest) =>
      match skipGaps false rest with
      | ']' :: rest => some ([item], rest)
      | ',' :: rest =>
        match skipGaps false rest with
        | ']' :: rest => some ([item], rest)
        | rest => (readItems fuel rest).map fun (items, rest) => (item :: items, rest)
      | _ => none

/-- Reads the keys and values of a table up to its closing brace. A comma may follow the last one. -/
def readPairs (fuel : Nat) (cs : List Char) : Option (List (DottedKey × Value) × List Char) :=
  match fuel with
  | 0 => none
  | fuel + 1 =>
    match readInlinePair fuel cs with
    | none => none
    | some (pair, rest) =>
      match skipGaps false rest with
      | '}' :: rest => some ([pair], rest)
      | ',' :: rest =>
        match skipGaps false rest with
        | '}' :: rest => some ([pair], rest)
        | rest => (readPairs fuel rest).map fun (pairs, rest) => (pair :: pairs, rest)
      | _ => none

/-- Reads a key, an equals sign and a value. Lines may end before and after the equals sign. -/
def readInlinePair (fuel : Nat) (cs : List Char) : Option ((DottedKey × Value) × List Char) :=
  match fuel with
  | 0 => none
  | fuel + 1 =>
    match readDottedKey? cs with
    | none => none
    | some (key, rest) =>
      match skipGaps false rest with
      | '=' :: rest => (readValue fuel (skipGaps false rest)).map fun (value, rest) => ((key, value), rest)
      | _ => none

end

mutual

/-- The number of brackets and braces around the innermost part of a value. -/
def Value.depth : Value → Nat
  | .array items => Value.depthOfItems items + 1
  | .table .inline members => Value.depthOfMembers members + 1
  | .table _ members => Value.depthOfMembers members
  | _ => 0

def Value.depthOfItems : List Value → Nat
  | [] => 0
  | v :: vs => max v.depth (Value.depthOfItems vs)

def Value.depthOfMembers : List (String × Value) → Nat
  | [] => 0
  | (_, v) :: ms => max v.depth (Value.depthOfMembers ms)

end

/-! ### Lines -/

/-- What a line that is not blank does. -/
inductive Line where
  | pair (key : DottedKey) (value : Value)
  | header (key : DottedKey)
  /-- A header between double brackets. -/
  | nextHeader (key : DottedKey)

/-- Reads a key, an equals sign and a value, the first two on one line with the front of the value. -/
def readPair? (cs : List Char) : Option ((DottedKey × Value) × List Char) :=
  match readDottedKey? cs with
  | some (key, '=' :: rest) =>
    (readValue (4 * rest.length + 4) (skipBlanks rest)).map fun (value, rest) => ((key, value), rest)
  | _ => none

/-- Reads what a line does. -/
def readLineContent? (cs : List Char) : Option (Line × List Char) :=
  match cs with
  | '[' :: '[' :: rest =>
    match readDottedKey? (skipBlanks rest) with
    | some (key, ']' :: ']' :: rest) => some (.nextHeader key, rest)
    | _ => none
  | '[' :: rest =>
    match readDottedKey? (skipBlanks rest) with
    | some (key, ']' :: rest) => some (.header key, rest)
    | _ => none
  | cs =>
    match readPair? cs with
    | some ((key, value), rest) => if value.depth ≤ maxDepth then some (.pair key value, rest) else none
    | none => none

/-- Reads the lines of a document. Every line takes one of the fuel, and a character at least. -/
def readLines (fuel : Nat) (cs : List Char) : Option (List Line) :=
  match fuel with
  | 0 => none
  | fuel + 1 =>
    match afterLine? cs with
    | some [] => some []
    | some rest => readLines fuel rest
    | none =>
      match readLineContent? (skipBlanks cs) with
      | none => none
      | some (line, rest) =>
        match afterLine? rest with
        | none => none
        | some rest => (readLines fuel rest).map (line :: ·)

/-- The members of the document after one more line, and the header under which the next lines stand. -/
def addLine (members : Keyed Value) (current : List String) : Line → Option (Keyed Value × List String)
  | .pair key value =>
    (Table.within? false (Table.define? · key value) ⟨.header, members⟩ current).map fun members => (members, current)
  | .header key => (Table.openTable? ⟨.header, members⟩ key).map fun members => (members, key.way ++ [key.last])
  | .nextHeader key => (Table.openNext? ⟨.header, members⟩ key).map fun members => (members, key.way ++ [key.last])

/-- The members of a document. A byte order mark may stand at its front. -/
def document? (text : String) : Option (Keyed Value) := do
  let cs := match text.toList with
    | '\ufeff' :: rest => rest
    | cs => cs
  let lines ← readLines (cs.length + 1) cs
  let (members, _) ← lines.foldlM (fun state line => addLine state.1 state.2 line) ([], [])
  return members

end TypedTemplates.Toml
