import TypedTemplates.Decimal.Digits

/-!
# Shortest decimals

The shortest decimal number that rounds to a given double: of all decimals with the fewest digits in the interval
of reals that round to it, the one nearest to it. A double is taken as `m * 2 ^ q`, and all is exact arithmetic on
natural numbers.
-/

namespace TypedTemplates.Decimal

/-- A decimal number: the figures `d₁d₂…dₙ` stand for `d₁.d₂…dₙ` times ten to the power `exponent`. -/
structure Scientific where
  figures : List Nat
  exponent : Int
  deriving DecidableEq, Repr

/-- A positive double as `mantissa * 2 ^ power`; `tight` says that the double below is only half as far as the one
above. -/
structure Binary where
  mantissa : Nat
  power : Int
  tight : Bool
  deriving DecidableEq, Repr

/-- The magnitude of the double with these bits. -/
def Binary.ofBits (bits : UInt64) : Binary :=
  let fraction := bits.toNat % Nat.pow 2 52
  let biased := bits.toNat / Nat.pow 2 52 % Nat.pow 2 11
  if biased = 0 then ⟨fraction, -1074, false⟩
  else ⟨fraction + Nat.pow 2 52, Int.ofNat biased - 1075, fraction == 0 && biased != 1⟩

/-- Four times the magnitude, as a fraction: numerator of `m * 2 ^ q` with weight `m`, and denominator. -/
def Binary.quarter (b : Binary) (weight : Nat) : Nat × Nat :=
  (weight * Nat.pow 2 b.power.toNat, 4 * Nat.pow 2 (-b.power).toNat)

/-- The greatest `k` with `10 ^ k ≤ num / den`. -/
def decimalExponent (num den : Nat) : Int :=
  if den ≤ num then ((digits (num / den)).length : Int) - 1
  else -((digits ((den - 1) / num)).length : Int)

/-- The multiple `c * 10 ^ k` of a power of ten, as a fraction. -/
def gridPoint (c : Nat) (k : Int) : Nat × Nat :=
  (c * Nat.pow 10 k.toNat, Nat.pow 10 (-k).toNat)

/-- Whether a fraction lies among the reals that round to the double. -/
def Binary.roundsTo (b : Binary) (x : Nat × Nat) : Bool :=
  let low := b.quarter (4 * b.mantissa - (if b.tight then 1 else 2))
  let high := b.quarter (4 * b.mantissa + 2)
  if b.mantissa % 2 = 0 then low.1 * x.2 ≤ x.1 * low.2 && x.1 * high.2 ≤ high.1 * x.2
  else low.1 * x.2 < x.1 * low.2 && x.1 * high.2 < high.1 * x.2

/-- The multiples of `10 ^ k` just below and above the double that round to it, the nearer one first; of two equally
near the even one is first. -/
def Binary.neighbours (b : Binary) (k : Int) : List Nat :=
  let (num, den) := b.quarter (4 * b.mantissa)
  let below := num * Nat.pow 10 (-k).toNat / (den * Nat.pow 10 k.toNat)
  let remainder := num * Nat.pow 10 (-k).toNat % (den * Nat.pow 10 k.toNat)
  let half := den * Nat.pow 10 k.toNat
  let ordered :=
    if 2 * remainder < half then [below, below + 1]
    else if half < 2 * remainder then [below + 1, below]
    else if below % 2 = 0 then [below, below + 1] else [below + 1, below]
  ordered.filter fun c => c ≠ 0 && b.roundsTo (gridPoint c k)

/-- The digits without trailing zeros. -/
def dropZeros (ds : List Nat) : List Nat :=
  (ds.reverse.dropWhile (· = 0)).reverse

/-- `c * 10 ^ k` with its digits after the first. -/
def Scientific.ofMultiple (c : Nat) (k : Int) : Scientific :=
  ⟨dropZeros (digits c), k + ((digits c).length : Int) - 1⟩

/-- The shortest decimal of a positive double, with at least `17 - fuel` digits. -/
def Binary.shortestFrom (b : Binary) (top : Int) : Nat → Scientific
  | 0 =>
    let (num, den) := b.quarter (4 * b.mantissa)
    .ofMultiple (num * Nat.pow 10 (16 - top).toNat / (den * Nat.pow 10 (top - 16).toNat)) (top - 16)
  | fuel + 1 =>
    let k := top - (16 - fuel : Nat)
    match b.neighbours k with
    | c :: _ => .ofMultiple c k
    | [] => b.shortestFrom top fuel

/-- The shortest decimal that rounds to a positive double. -/
def Binary.shortest (b : Binary) : Scientific :=
  let (num, den) := b.quarter (4 * b.mantissa)
  b.shortestFrom (decimalExponent num den) 17

end TypedTemplates.Decimal
