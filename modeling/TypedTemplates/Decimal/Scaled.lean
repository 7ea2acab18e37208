/-!
# Doubles from decimal numbers

A decimal number is read as a double from a significand of at most 64 bits and a power of ten. Digits that no
longer fit the significand are dropped. The significand is rounded to a double, then multiplied or divided by one
power of ten; for exponents below -308 it is first divided by 10^308 as often as needed. A number beyond the
largest double is refused.
-/

namespace TypedTemplates.Decimal

/-- The largest significand. -/
def maxSignificand : Nat := UInt64.size - 1

/-- Appends digits to a significand as long as it fits, and gives back the digits that did not. -/
def extend (significand : Nat) : List Nat → Nat × List Nat
  | [] => (significand, [])
  | d :: ds =>
    if 10 * significand + d ≤ maxSignificand then extend (10 * significand + d) ds
    else (significand, d :: ds)

/-- The double nearest to a power of ten, which has one for exponents up to 308. -/
def powerOfTen (k : Nat) : Float :=
  Float.ofScientific 1 false k

/-- `f` times ten to the power `exponent`, scaled in steps that a double can hold. -/
def scale (f : Float) (exponent : Int) : Option Float :=
  if exponent.natAbs ≤ 308 then
    if 0 ≤ exponent then
      let product := f * powerOfTen exponent.natAbs
      if product.isInf then none else some product
    else some (f / powerOfTen exponent.natAbs)
  else if f == 0 then some f
  else if h : 0 ≤ exponent then none
  else scale (f / powerOfTen 308) (exponent + 308)
termination_by exponent.natAbs
decreasing_by omega

/-- The double of a decimal number given by its digits before and after the point and its exponent. An exponent
beyond 31 bits stands for a number too large, or for zero. -/
def toDouble? (whole fraction : List Nat) (exponentNegative : Bool) (exponent : Nat) : Option Float :=
  let (significand, wholeRest) := extend 0 whole
  let (significand, fractionRest) := extend significand fraction
  let shift : Int := (wholeRest.length : Int) - ((fraction.length - fractionRest.length : Nat) : Int)
  if exponent < Nat.pow 2 31 then
    scale (UInt64.ofNat significand).toFloat (if exponentNegative then shift - exponent else shift + exponent)
  else if significand ≠ 0 && !exponentNegative then none
  else some 0.0

end TypedTemplates.Decimal
