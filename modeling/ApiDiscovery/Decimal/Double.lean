/-!
Finite binary floating point numbers of double precision, kept as exact positions on the line of
representable values. Rounding a ratio of natural numbers is exact integer arithmetic: the nearest
representable value wins, and of two equally near ones the even position.
-/

namespace ApiDiscovery

def Double.stretch : Nat := 0x10000000000000

def Double.infinity : Nat := 0x7FF0000000000000

/-- A finite double: its sign, and how many smaller magnitudes there are. Position zero is the zero
of either sign; the first stretch of positions is spaced like the second, and from then on the
spacing doubles with every stretch. -/
structure Double where
  negative : Bool
  position : Nat
  finite : position < Double.infinity := by decide
  deriving DecidableEq, Repr

namespace Double

def significand (position : Nat) : Nat :=
  if position < stretch then position else stretch + position % stretch

def scale (position : Nat) : Int :=
  if position < stretch then -1074 else (position / stretch : Nat) - 1075

def roundEven (numerator denominator : Nat) : Nat :=
  let quotient := numerator / denominator
  let twiceRest := 2 * (numerator % denominator)
  if twiceRest < denominator then quotient
  else if denominator < twiceRest then quotient + 1
  else quotient + quotient % 2

def shifted (numerator denominator : Nat) (exponent : Int) : Nat × Nat :=
  (numerator <<< (-exponent).toNat, denominator <<< exponent.toNat)

/-- The position of the double nearest to `numerator / denominator`; at least `infinity` if that
ratio rounds past every finite double. -/
def nearest (numerator denominator : Nat) : Nat :=
  if numerator = 0 then 0
  else
    let estimate : Int := max ((numerator.log2 : Int) - denominator.log2 - 53) (-1074)
    let rough := shifted numerator denominator estimate
    let exponent := if rough.1 / rough.2 < 2 * stretch then estimate else estimate + 1
    let ratio := shifted numerator denominator exponent
    (exponent + 1074).toNat * stretch + roundEven ratio.1 ratio.2

def ratio (position : Nat) : Nat × Nat :=
  (significand position <<< (scale position).toNat, 1 <<< (-scale position).toNat)

def product (left right : Nat) : Nat :=
  nearest ((ratio left).1 * (ratio right).1) ((ratio left).2 * (ratio right).2)

def quotient (left right : Nat) : Nat :=
  nearest ((ratio left).1 * (ratio right).2) ((ratio left).2 * (ratio right).1)

def powerOfTen (exponent : Nat) : Nat := nearest (Nat.pow 10 exponent) 1

/-- The position reached from `significand * 10 ^ exponent` in separate roundings: the significand
first, then its product with, or quotient by, the rounded power of ten. Powers beyond the
largest finite one are taken in steps of `10 ^ 308`. -/
def scaledByTen (significand : Nat) (exponent : Int) : Nat :=
  let whole := nearest significand 1
  if whole = 0 then 0
  else if 308 < exponent then infinity
  else if 0 ≤ exponent then product whole (powerOfTen exponent.toNat)
  else if -308 ≤ exponent then quotient whole (powerOfTen (-exponent).toNat)
  else if -616 ≤ exponent then
    quotient (quotient whole (powerOfTen 308)) (powerOfTen (-exponent - 308).toNat)
  else 0

def ofDecimal? (negative : Bool) (significand : Nat) (exponent : Int) : Option Double :=
  let position := scaledByTen significand exponent
  if finite : position < infinity then some { negative, position, finite } else none

end Double

end ApiDiscovery
