import ApiDiscovery.Text.Blank
import ApiDiscovery.Decimal.Shortest

/-!
Moments in universal time, to the second. The written form is that of internet timestamps; reading
accepts blanks between the parts, single digits, a blank between date and time, years with a sign, and
any offset below a day.
-/

namespace ApiDiscovery

structure Date where
  year : Int
  month : Nat
  day : Nat
  deriving DecidableEq, Repr

namespace Date

def isLeap (year : Int) : Bool := year % 4 == 0 && (year % 100 != 0 || year % 400 == 0)

def daysIn (year : Int) (month : Nat) : Nat :=
  if month = 2 then if isLeap year then 29 else 28
  else if month = 4 ∨ month = 6 ∨ month = 9 ∨ month = 11 then 30
  else 31

def isKept (year : Int) : Bool := -262143 ≤ year && year ≤ 262142

def isValid (date : Date) : Bool :=
  isKept date.year && 1 ≤ date.month && date.month ≤ 12 && 1 ≤ date.day &&
    date.day ≤ daysIn date.year date.month

def next (date : Date) : Date :=
  if date.day < daysIn date.year date.month then { date with day := date.day + 1 }
  else if date.month < 12 then { date with month := date.month + 1, day := 1 }
  else { year := date.year + 1, month := 1, day := 1 }

def previous (date : Date) : Date :=
  if 1 < date.day then { date with day := date.day - 1 }
  else if 1 < date.month then
    { date with month := date.month - 1, day := daysIn date.year (date.month - 1) }
  else { year := date.year - 1, month := 12, day := 31 }

end Date

structure Timestamp where
  date : Date
  minuteOfDay : Nat
  second : Nat
  deriving DecidableEq, Repr

namespace Timestamp

def ofLocal? (date : Date) (minuteOfDay second : Nat) (offset : Int) : Option Timestamp :=
  let minute : Int := minuteOfDay - offset
  let moment : Timestamp :=
    if minute < 0 then { date := date.previous, minuteOfDay := (minute + 1440).toNat, second }
    else if 1440 ≤ minute then { date := date.next, minuteOfDay := (minute - 1440).toNat, second }
    else { date, minuteOfDay := minute.toNat, second }
  if date.isValid && moment.date.isValid then some moment else none

def scanNumber (most : Nat) (text : List Char) : Option (Nat × List Char) :=
  let text := Text.trimStart text
  match (text.take most).takeWhile Char.isDigit with
  | [] => none
  | digits =>
      some (digits.foldl (fun value digit => value * 10 + (digit.toNat - '0'.toNat)) 0,
        text.drop digits.length)

def scanYear (text : List Char) : Option (Int × List Char) :=
  match Text.trimStart text with
  | '-' :: first :: rest =>
      if first.isDigit then (scanNumber rest.length.succ (first :: rest)).map fun (year, rest) => (-year, rest)
      else none
  | '+' :: first :: rest =>
      if first.isDigit then (scanNumber rest.length.succ (first :: rest)).map fun (year, rest) => (year, rest)
      else none
  | text => (scanNumber 4 text).map fun (year, rest) => (year, rest)

def scanMark (mark : Char) (text : List Char) : Option (List Char) :=
  match Text.trimStart text with
  | first :: rest => if first = mark then some rest else none
  | [] => none

def skipFraction : List Char → Option (List Char)
  | '.' :: first :: rest => if first.isDigit then some (rest.dropWhile Char.isDigit) else none
  | ['.'] => none
  | text => some text

def afterUtc? : List Char → Option (List Char)
  | first :: second :: third :: rest =>
      if first.toUpper = 'U' ∧ second.toUpper = 'T' ∧ third.toUpper = 'C' then some rest else none
  | _ => none

def scanPair : List Char → Option (Nat × List Char)
  | first :: second :: rest =>
      if first.isDigit && second.isDigit then
        some ((first.toNat - '0'.toNat) * 10 + (second.toNat - '0'.toNat), rest)
      else none
  | _ => none

def scanOffsetDigits (text : List Char) : Option (Nat × List Char) := do
  let (hours, rest) ← scanPair text
  let (minutes, rest) ← scanPair (rest.dropWhile fun character =>
    character == ':' || Text.isBlank character)
  if minutes < 60 then some (hours * 60 + minutes, rest) else none

def scanOffset (text : List Char) : Option (Int × List Char) :=
  match afterUtc? text with
  | some rest => some (0, rest)
  | none =>
      match text with
      | 'Z' :: rest | 'z' :: rest => some (0, rest)
      | '+' :: rest => (scanOffsetDigits rest).map fun (minutes, rest) => (minutes, rest)
      | '-' :: rest | '\u2212' :: rest =>
          (scanOffsetDigits rest).map fun (minutes, rest) => (-minutes, rest)
      | _ => none

def parse (text : String) : Option Timestamp := do
  let (year, rest) ← scanYear text.toList
  let rest ← scanMark '-' rest
  let (month, rest) ← scanNumber 2 rest
  let rest ← scanMark '-' rest
  let (day, rest) ← scanNumber 2 rest
  let rest ← match rest with
    | 'T' :: rest | 't' :: rest | ' ' :: rest => some rest
    | _ => none
  let (hour, rest) ← scanNumber 2 rest
  let rest ← scanMark ':' rest
  let (minute, rest) ← scanNumber 2 rest
  let rest ← scanMark ':' rest
  let (second, rest) ← scanNumber 2 rest
  let rest ← skipFraction rest
  let (offset, rest) ← scanOffset (Text.trimStart rest)
  if (Text.trimStart rest).isEmpty && hour < 24 && minute < 60 && second ≤ 60 && offset.natAbs < 1440 then
    ofLocal? { year, month, day } (hour * 60 + minute) second offset
  else none

def padded (width value : Nat) : List Char :=
  let digits := Decimal.numerals value
  List.replicate (width - digits.length) '0' ++ digits

def yearText (year : Int) : List Char :=
  if 0 ≤ year && year ≤ 9999 then padded 4 year.toNat
  else (if year < 0 then '-' else '+') :: padded 4 year.natAbs

def print (moment : Timestamp) : String :=
  String.ofList (yearText moment.date.year ++ '-' :: padded 2 moment.date.month ++ '-' ::
    padded 2 moment.date.day ++ 'T' :: padded 2 (moment.minuteOfDay / 60) ++ ':' ::
    padded 2 (moment.minuteOfDay % 60) ++ ':' :: padded 2 moment.second ++ ['Z'])

end Timestamp

end ApiDiscovery
