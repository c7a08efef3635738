import ApiDiscovery.Decimal.Double

/-!
The shortest decimal that reads back as a given double. The candidates are the multiples of a power
of ten; the largest power that has a multiple among the reals rounding to the double gives the
fewest digits, and of two such multiples the nearer is taken.
-/

namespace ApiDiscovery

structure Decimal where
  digits : Nat
  exponent : Int
  deriving DecidableEq, Repr

namespace Decimal

/-- The reals that round to a double, in units of a quarter of its spacing: the ends of the interval,
the double itself, and whether the ends belong to the interval. -/
structure Rounding where
  low : Nat
  middle : Nat
  high : Nat
  closed : Bool
  unit : Int
  deriving Repr

def Rounding.ofPosition (position : Nat) : Rounding :=
  let significand := Double.significand position
  let narrowBelow := significand == Double.stretch && -1074 < Double.scale position
  { low := if narrowBelow then 4 * significand - 1 else 4 * significand - 2
    middle := 4 * significand
    high := 4 * significand + 2
    closed := significand % 2 == 0
    unit := Double.scale position - 2 }

namespace Rounding

def inUnits (interval : Rounding) (amount : Nat) (exponent : Int) : Nat × Nat :=
  (amount <<< interval.unit.toNat * Nat.pow 10 (-exponent).toNat,
    Nat.pow 10 exponent.toNat <<< (-interval.unit).toNat)

def contains (interval : Rounding) (digits : Nat) (exponent : Int) : Bool :=
  let low := interval.inUnits interval.low exponent
  let high := interval.inUnits interval.high exponent
  if interval.closed then low.1 ≤ digits * low.2 && digits * high.2 ≤ high.1
  else low.1 < digits * low.2 && digits * high.2 < high.1

def pick (interval : Rounding) (exponent : Int) : Option Nat :=
  let middle := interval.inUnits interval.middle exponent
  let below := middle.1 / middle.2
  match interval.contains below exponent, interval.contains (below + 1) exponent with
  | false, false => none
  | true, false => some below
  | false, true => some (below + 1)
  | true, true =>
      let twice := 2 * middle.1
      let halfway := (2 * below + 1) * middle.2
      if twice < halfway then some below
      else if halfway < twice then some (below + 1)
      else some (below + below % 2)

def search (interval : Rounding) : Nat → Int → Decimal
  | 0, exponent =>
      let middle := interval.inUnits interval.middle exponent
      { digits := middle.1 / middle.2, exponent }
  | steps + 1, exponent =>
      match interval.pick exponent with
      | some digits => { digits, exponent }
      | none => interval.search steps (exponent - 1)

end Rounding

/-- The shortest decimal that reads back as the magnitude at `position`. The search begins at a power
of ten above the magnitude; seventeen digits always suffice. -/
def shortest (position : Nat) : Decimal :=
  if position = 0 then { digits := 0, exponent := 0 }
  else
    let interval := Rounding.ofPosition position
    let binary : Int := interval.middle.log2 + interval.unit
    interval.search 24 ((binary + 1) * 30103 / 100000 + 1)

structure Style where
  least : Int
  greatest : Int
  deriving DecidableEq, Repr

def numerals (value : Nat) : List Char := Nat.toDigits 10 value

def Style.render (style : Style) (negative : Bool) (value : Decimal) : List Char :=
  let digits := numerals value.digits
  let point : Int := digits.length + value.exponent
  let magnitude :=
    if value.digits = 0 then ['0', '.', '0']
    else if style.least ≤ point && point ≤ style.greatest then
      if point ≤ 0 then '0' :: '.' :: List.replicate (-point).toNat '0' ++ digits
      else if value.exponent < 0 then
        digits.take point.toNat ++ '.' :: digits.drop point.toNat
      else digits ++ List.replicate value.exponent.toNat '0' ++ ['.', '0']
    else
      let fraction := if digits.length = 1 then [] else '.' :: digits.drop 1
      let power := point - 1
      let sign := if power < 0 then '-' else '+'
      digits.take 1 ++ fraction ++ 'e' :: sign :: numerals power.natAbs
  if negative then '-' :: magnitude else magnitude

end Decimal

end ApiDiscovery
