import TypedTemplates.Decimal.Shortest
import TypedTemplates.Json.Value
import TypedTemplates.Text.Quoted

/-!
# Writing JSON texts

A value is written on one line without blanks (`Layout.compact`), or with every item and member on a line of its
own, indented by two blanks for each bracket around it (`Layout.indented`). Empty arrays and objects are written
`[]` and as two braces in both.
-/

namespace TypedTemplates.Json

inductive Layout where
  | compact
  | indented
  deriving DecidableEq, Repr

/-- What separates the parts of an array or object that stands `depth` deep. -/
def Layout.lineBreak (layout : Layout) (depth : Nat) : List Char :=
  match layout with
  | .compact => []
  | .indented => '\n' :: List.replicate (2 * depth) ' '

/-- What stands between the name and the value of a member. -/
def Layout.colon : Layout → List Char
  | .compact => [':']
  | .indented => [':', ' ']

/-- A character inside a string literal. -/
def escaped (c : Char) : List Char :=
  if c = '"' then ['\\', '"']
  else if c = '\\' then ['\\', '\\']
  else if c = '\x08' then ['\\', 'b']
  else if c = '\x0c' then ['\\', 'f']
  else if c = '\n' then ['\\', 'n']
  else if c = '\r' then ['\\', 'r']
  else if c = '\t' then ['\\', 't']
  else if c.toNat < 0x20 then
    ['\\', 'u', '0', '0', Text.hexDigit (c.toNat / 16), Text.hexDigit (c.toNat % 16)]
  else [c]

/-- A string literal. -/
def literal (s : String) : List Char :=
  '"' :: s.toList.flatMap escaped ++ ['"']

/-- An integer in base ten. -/
def integerText (n : Int) : List Char :=
  (if n < 0 then ['-'] else []) ++ Decimal.text n.natAbs

/-- A positive decimal number: with all its places from 10^-5 on and below 10^16, else with an exponent of ten. -/
def positional (d : Decimal.Scientific) : List Char :=
  let digits := d.figures.map Decimal.digitChar
  let exponent := d.exponent
  if -5 ≤ exponent ∧ exponent < 0 then
    '0' :: '.' :: List.replicate (exponent.natAbs - 1) '0' ++ digits
  else if 0 ≤ exponent ∧ exponent ≤ 15 then
    let places := exponent.toNat + 1
    if digits.length ≤ places then digits ++ List.replicate (places - digits.length) '0' ++ ['.', '0']
    else digits.take places ++ '.' :: digits.drop places
  else
    let mantissa :=
      match digits with
      | first :: rest@(_ :: _) => first :: '.' :: rest
      | _ => digits
    mantissa ++ 'e' :: (if exponent < 0 then '-' else '+') :: Decimal.text exponent.natAbs

/-- A double, as the shortest decimal number that rounds to it. -/
def doubleText (d : Float) : List Char :=
  let bits := d.toBits
  (if Nat.pow 2 63 ≤ bits.toNat then ['-'] else []) ++
    if bits.toNat % Nat.pow 2 63 = 0 then ['0', '.', '0'] else positional (Decimal.Binary.ofBits bits).shortest

def Number.text : Number → List Char
  | .int n => integerText n
  | .double d => doubleText d

mutual

/-- The text of a value that stands `depth` deep. -/
def Value.write (layout : Layout) (depth : Nat) : Value → List Char
  | .null => ['n', 'u', 'l', 'l']
  | .bool true => ['t', 'r', 'u', 'e']
  | .bool false => ['f', 'a', 'l', 's', 'e']
  | .number n => n.text
  | .string s => literal s
  | .array [] => ['[', ']']
  | .array (v :: vs) =>
    '[' :: layout.lineBreak (depth + 1) ++ v.write layout (depth + 1) ++
      Value.writeItems layout (depth + 1) vs ++ layout.lineBreak depth ++ [']']
  | .object [] => ['{', '}']
  | .object ((k, v) :: ms) =>
    '{' :: layout.lineBreak (depth + 1) ++ literal k ++ layout.colon ++ v.write layout (depth + 1) ++
      Value.writeMembers layout (depth + 1) ms ++ layout.lineBreak depth ++ ['}']

/-- Further items of an array, each after a comma. -/
def Value.writeItems (layout : Layout) (depth : Nat) : List Value → List Char
  | [] => []
  | v :: vs =>
    ',' :: layout.lineBreak depth ++ v.write layout depth ++ Value.writeItems layout depth vs

/-- Further members of an object, each after a comma. -/
def Value.writeMembers (layout : Layout) (depth : Nat) : List (String × Value) → List Char
  | [] => []
  | (k, v) :: ms =>
    ',' :: layout.lineBreak depth ++ literal k ++ layout.colon ++ v.write layout depth ++
      Value.writeMembers layout depth ms

end

/-- The text of a value. -/
def Value.text (layout : Layout) (v : Value) : String :=
  String.ofList (v.write layout 0)

end TypedTemplates.Json
