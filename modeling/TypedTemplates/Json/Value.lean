import TypedTemplates.Decimal.Digits
import TypedTemplates.Decimal.Scaled
import TypedTemplates.Json.Tree
import TypedTemplates.Keyed

/-!
# JSON values

A value is what a tree means: strings with their escapes resolved, numbers as integers of 64 bits or as doubles.
Objects keep their members as they were written; `Value.sorted` puts the members of all objects in order and lets
the last of several with one name count.
-/

namespace TypedTemplates.Json

/-- A number: an integer from -2^63 to 2^64 - 1, or a double. -/
inductive Number where
  | int (n : Int)
  | double (d : Float)

inductive Value where
  | null
  | bool (b : Bool)
  | number (n : Number)
  | string (s : String)
  | array (items : List Value)
  | object (members : List (String × Value))

instance : Inhabited Value := ⟨.null⟩

/-- The characters of a string literal; two units that are the halves of one character must follow each other, and
neither may stand alone. -/
def characters? : List Symbol → Option (List Char)
  | [] => some []
  | .char c :: rest => (characters? rest).map (c :: ·)
  | .unit high :: .unit low :: rest =>
    if high < 0xd800 ∨ 0xdfff < high then (characters? (.unit low :: rest)).map (Char.ofNat high :: ·)
    else if high < 0xdc00 ∧ 0xdc00 ≤ low ∧ low ≤ 0xdfff then
      (characters? rest).map (Char.ofNat (0x10000 + (high - 0xd800) * 0x400 + (low - 0xdc00)) :: ·)
    else none
  | .unit code :: rest =>
    if code < 0xd800 ∨ 0xdfff < code then (characters? rest).map (Char.ofNat code :: ·) else none

/-- The string that a literal stands for. -/
def string? (literal : List Symbol) : Option String :=
  (characters? literal).map String.ofList

/-- The sign put on a double. -/
def signed (negative : Bool) (d : Float) : Number :=
  .double (if negative then -d else d)

/-- The number that a literal stands for, if it is not too large. Without point and exponent it is an integer as long
as 64 bits hold it; a negative zero is a double. -/
def NumberLiteral.number? (literal : NumberLiteral) : Option Number :=
  let n := Decimal.ofDigits literal.whole
  if literal.fraction.isNone && literal.exponent.isNone && !literal.negative && n < UInt64.size then
    some (.int n)
  else if literal.fraction.isNone && literal.exponent.isNone && literal.negative && n ≠ 0 && n ≤ UInt64.size / 2 then
    some (.int (-n))
  else
    let (exponentNegative, exponent) := literal.exponent.getD (false, [])
    (Decimal.toDouble? literal.whole (literal.fraction.getD []) exponentNegative
      (Decimal.ofDigits exponent)).map (signed literal.negative)

mutual

/-- The value of a tree, if all its literals have values. -/
def Tree.value? : Tree → Option Value
  | .null => some .null
  | .bool b => some (.bool b)
  | .number literal => literal.number?.map .number
  | .string literal => (string? literal).map .string
  | .array items => (Tree.values? items).map .array
  | .object members => (Tree.members? members).map .object

def Tree.values? : List Tree → Option (List Value)
  | [] => some []
  | t :: ts =>
    match t.value?, Tree.values? ts with
    | some v, some vs => some (v :: vs)
    | _, _ => none

def Tree.members? : List (List Symbol × Tree) → Option (List (String × Value))
  | [] => some []
  | (key, t) :: ms =>
    match string? key, t.value?, Tree.members? ms with
    | some k, some v, some vs => some ((k, v) :: vs)
    | _, _, _ => none

end

mutual

/-- The value with the members of every object in ascending order of names, each name once. -/
def Value.sorted : Value → Value
  | .array items => .array (Value.sortedItems items)
  | .object members => .object (Keyed.ofList (Value.sortedMembers members))
  | v => v

def Value.sortedItems : List Value → List Value
  | [] => []
  | v :: vs => v.sorted :: Value.sortedItems vs

def Value.sortedMembers : List (String × Value) → List (String × Value)
  | [] => []
  | (k, v) :: ms => (k, v.sorted) :: Value.sortedMembers ms

end

end TypedTemplates.Json
