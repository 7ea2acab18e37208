import TypedTemplates.Decimal.Digits
import TypedTemplates.Text.Hex

/-!
# Numbers of TOML

Digits may be parted by single underscores. A decimal integer does not begin with a zero unless it is one; one in
another base has a letter that names the base and no sign.
-/

namespace TypedTemplates.Toml

/-- The digits of a text whose every character is one in the base, single underscores between digits left out. -/
def digitsIn? (base : Nat) : List Char → Option (List Nat)
  | [] => none
  | c :: rest =>
    match (Text.hexValue? c).filter (· < base) with
    | none => none
    | some d =>
      match rest with
      | [] => some [d]
      | '_' :: rest => (digitsIn? base rest).map (d :: ·)
      | rest => (digitsIn? base rest).map (d :: ·)

def ofDigitsIn (base : Nat) (ds : List Nat) : Nat :=
  ds.foldl (fun n d => base * n + d) 0

/-- The sign of a number, true for a minus, and what follows it. -/
def splitSign : List Char → Bool × List Char
  | '-' :: rest => (true, rest)
  | '+' :: rest => (false, rest)
  | cs => (false, cs)

/-- The digits of a decimal integer without its sign. -/
def wholeDigits? (cs : List Char) : Option (List Nat) :=
  match digitsIn? 10 cs with
  | some (0 :: _ :: _) => none
  | found => found

/-- The number that a literal denotes, if it is that of an integer. -/
def integer? (cs : List Char) : Option Int :=
  match cs with
  | '0' :: 'x' :: rest => (digitsIn? 16 rest).map fun ds => (ofDigitsIn 16 ds : Int)
  | '0' :: 'o' :: rest => (digitsIn? 8 rest).map fun ds => (ofDigitsIn 8 ds : Int)
  | '0' :: 'b' :: rest => (digitsIn? 2 rest).map fun ds => (ofDigitsIn 2 ds : Int)
  | cs =>
    let (negative, unsigned) := splitSign cs
    (wholeDigits? unsigned).map fun ds =>
      if negative then -(ofDigitsIn 10 ds : Int) else (ofDigitsIn 10 ds : Int)

/-- A float as written: the digits before the point and after it, and the exponent. -/
structure FloatLiteral where
  whole : List Nat
  fraction : List Nat
  exponent : Int
  deriving DecidableEq, Repr

/-- The exponent written after its letter. -/
def exponent? (cs : List Char) : Option Int :=
  let (negative, unsigned) := splitSign cs
  (digitsIn? 10 unsigned).map fun ds =>
    if negative then -(ofDigitsIn 10 ds : Int) else (ofDigitsIn 10 ds : Int)

/-- The parts of a float that has digits; a point or an exponent must be there. -/
def floatLiteral? (cs : List Char) : Option FloatLiteral :=
  let unsigned := (splitSign cs).2
  let mantissa := unsigned.takeWhile fun c => c ≠ 'e' && c ≠ 'E'
  let whole := mantissa.takeWhile (· ≠ '.')
  match wholeDigits? whole, mantissa.dropWhile (· ≠ '.'), unsigned.drop mantissa.length with
  | some whole, '.' :: fraction, [] => (digitsIn? 10 fraction).map fun fraction => ⟨whole, fraction, 0⟩
  | some whole, [], _ :: exponent => (exponent? exponent).map fun e => ⟨whole, [], e⟩
  | some whole, '.' :: fraction, _ :: exponent =>
    match digitsIn? 10 fraction, exponent? exponent with
    | some fraction, some e => some ⟨whole, fraction, e⟩
    | _, _ => none
  | _, _, _ => none

/-- Whether the literal is one of the words for numbers without digits. -/
def isSpecialFloat (cs : List Char) : Bool :=
  let word := (splitSign cs).2
  word = ['i', 'n', 'f'] || word = ['n', 'a', 'n']

def isFloat (cs : List Char) : Bool :=
  isSpecialFloat cs || (floatLiteral? cs).isSome

namespace FloatLiteral

/-- The first number that a double no longer rounds to a finite value: half a step beyond the largest double. -/
def overflow : Nat := Nat.pow 2 1024 - Nat.pow 2 970

/-- Whether the nearest double is finite. A number with `n` digits before the point is at least `10 ^ (n - 1)`
and less than `10 ^ n`, so only those with 309 digits need to be compared. -/
def isFinite (l : FloatLiteral) : Bool :=
  let ds := (l.whole ++ l.fraction).dropWhile (· = 0)
  let magnitude : Int := (ds.length : Int) - l.fraction.length + l.exponent
  if ds = [] || magnitude < 309 then true
  else if 309 < magnitude then false
  else if ds.length ≤ 309 then Decimal.ofDigits ds * Nat.pow 10 (309 - ds.length) < overflow
  else Decimal.ofDigits ds < overflow * Nat.pow 10 (ds.length - 309)

end FloatLiteral

end TypedTemplates.Toml
