import ApiDiscovery.Json.Source

/-!
Numerals. One without a point and an exponent is an exact integer as long as it fits 64 bits; every
other numeral is a double, read from as many of its leading digits as fit an unsigned word.
-/

namespace ApiDiscovery

/-- A stretch of text that was recognised: what it is, and the text after it unless it breaks off. -/
structure Scan where
  source : Source
  rest : Option (List Char)
  deriving Inhabited

namespace Scan

def whole (source : Source) (rest : List Char) : Scan := { source, rest := some rest }

def broken (reading skipping : Fault) : Scan :=
  { source := .broken { reading, skipping }, rest := none }

end Scan

namespace Numeral

def digitValue (digit : Char) : Nat := digit.toNat - '0'.toNat

def digitsValue (leading : Nat) (digits : List Char) : Nat :=
  digits.foldl (fun value digit => value * 10 + digitValue digit) leading

/-- Appends digits to `significand` while it fits an unsigned word of 64 bits; the digits from the
first one on that does not fit are left over. -/
def keep (significand : Nat) : List Char → Nat × List Char
  | [] => (significand, [])
  | digit :: rest =>
      let longer := significand * 10 + digitValue digit
      if longer < UInt64.size then keep longer rest else (significand, digit :: rest)

/-- The value of a numeral by its parts; none if it is beyond the finite doubles. Whole digits left
over count in the power of ten, decimals left over are dropped. -/
def number? (negative : Bool) (whole : List Char) (decimals : Option (List Char))
    (exponent : Option Int) : Option Number :=
  let (significand, dropped) := keep 0 whole
  if decimals.isNone && exponent.isNone && dropped.isEmpty then
    if !negative then some (.integer significand)
    else if significand ≠ 0 && significand ≤ UInt64.size / 2 then some (.integer (-significand))
    else .double <$> Double.ofDecimal? true significand 0
  else
    let (significand, unused) := keep significand (decimals.getD [])
    let used : Nat := (decimals.getD []).length - unused.length
    .double <$> Double.ofDecimal? negative significand (exponent.getD 0 + dropped.length - used)

def scanExponent (negative : Bool) (whole : List Char) (decimals : Option (List Char))
    (text : List Char) : Scan :=
  let (downward, digits) :=
    match text with
    | '+' :: rest => (false, rest)
    | '-' :: rest => (true, rest)
    | rest => (false, rest)
  match digits.takeWhile Char.isDigit with
  | [] => .broken (if digits.isEmpty then .ended else .malformed) .malformed
  | power =>
      let magnitude : Int := digitsValue 0 power
      .whole (.number (number? negative whole decimals (some (if downward then -magnitude else magnitude))))
        (digits.dropWhile Char.isDigit)

def scanTail (negative : Bool) (whole : List Char) : List Char → Scan
  | '.' :: text =>
      match text.takeWhile Char.isDigit, text.dropWhile Char.isDigit with
      | [], rest => .broken (if rest.isEmpty then .ended else .malformed) .malformed
      | decimals, 'e' :: rest => scanExponent negative whole (some decimals) rest
      | decimals, 'E' :: rest => scanExponent negative whole (some decimals) rest
      | decimals, rest => .whole (.number (number? negative whole (some decimals) none)) rest
  | 'e' :: text => scanExponent negative whole none text
  | 'E' :: text => scanExponent negative whole none text
  | text => .whole (.number (number? negative whole none none)) text

def scanUnsigned (negative : Bool) : List Char → Scan
  | [] => .broken .ended .malformed
  | '0' :: text =>
      if (text.takeWhile Char.isDigit).isEmpty then scanTail negative ['0'] text
      else .broken .malformed .malformed
  | text =>
      match text.takeWhile Char.isDigit with
      | [] => .broken .malformed .malformed
      | whole => scanTail negative whole (text.dropWhile Char.isDigit)

def scan : List Char → Scan
  | '-' :: text => scanUnsigned true text
  | text => scanUnsigned false text

end Numeral

end ApiDiscovery
