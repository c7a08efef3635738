import ApiDiscovery.Json.Numeral
import ApiDiscovery.Text.Utf8

/-!
Texts between quotes. The grammar is checked escape by escape; whether escaped halves of surrogate
pairs stand together is a second question, which only a reader asks.
-/

namespace ApiDiscovery.Quotation

inductive Piece where
  | character (value : Char)
  | code (value : Nat)
  deriving DecidableEq, Repr

def hexValue? (digit : Char) : Option Nat :=
  if '0' ≤ digit && digit ≤ '9' then some (digit.toNat - '0'.toNat)
  else if 'a' ≤ digit && digit ≤ 'f' then some (digit.toNat - 'a'.toNat + 10)
  else if 'A' ≤ digit && digit ≤ 'F' then some (digit.toNat - 'A'.toNat + 10)
  else none

def code? (first second third fourth : Char) : Option Nat :=
  match hexValue? first, hexValue? second, hexValue? third, hexValue? fourth with
  | some first, some second, some third, some fourth =>
      some (((first * 16 + second) * 16 + third) * 16 + fourth)
  | _, _, _, _ => none

def escaped? : Char → Option Char
  | '"' => some '"'
  | '\\' => some '\\'
  | '/' => some '/'
  | 'b' => some '\x08'
  | 'f' => some '\x0c'
  | 'n' => some '\n'
  | 'r' => some '\r'
  | 't' => some '\t'
  | _ => none

def shortCodeFault (text : List Char) : Fault :=
  if Text.byteLength (text.take 4) < 4 then .ended else .malformed

structure Quoted where
  pieces : List Piece
  rest : Except Fault (List Char)

def scanFrom (pieces : List Piece) : List Char → Quoted
  | [] => { pieces, rest := .error .ended }
  | '"' :: rest => { pieces, rest := .ok rest }
  | '\\' :: [] => { pieces, rest := .error .ended }
  | '\\' :: 'u' :: first :: second :: third :: fourth :: rest =>
      match code? first second third fourth with
      | some code => scanFrom (.code code :: pieces) rest
      | none =>
          { pieces, rest := .error (shortCodeFault [first, second, third, fourth]) }
  | '\\' :: 'u' :: rest => { pieces, rest := .error (shortCodeFault rest) }
  | '\\' :: letter :: rest =>
      match escaped? letter with
      | some character => scanFrom (.character character :: pieces) rest
      | none => { pieces, rest := .error .malformed }
  | character :: rest =>
      if character.toNat < 0x20 then { pieces, rest := .error .malformed }
      else scanFrom (.character character :: pieces) rest

inductive Reading where
  | whole (text : List Char)
  | half
  | lone
  deriving DecidableEq, Repr

def isFirstHalf (code : Nat) : Bool := 0xD800 ≤ code && code < 0xDC00

def isSecondHalf (code : Nat) : Bool := 0xDC00 ≤ code && code < 0xE000

def readFrom (text : List Char) : List Piece → Reading
  | [] => .whole text.reverse
  | .character value :: rest => readFrom (value :: text) rest
  | .code first :: rest =>
      if isSecondHalf first then .lone
      else if isFirstHalf first then
        match rest with
        | [] => .half
        | .code second :: rest =>
            if isSecondHalf second then
              readFrom (Char.ofNat (0x10000 + (first - 0xD800) * 0x400 + (second - 0xDC00)) :: text) rest
            else .lone
        | .character _ :: _ => .lone
      else readFrom (Char.ofNat first :: text) rest

def scan (text : List Char) : Except Break (Option String × List Char) :=
  let quoted := scanFrom [] text
  let reading := readFrom [] quoted.pieces.reverse
  match quoted.rest, reading with
  | .ok rest, .whole text => .ok (some (String.ofList text), rest)
  | .ok rest, _ => .ok (none, rest)
  | .error fault, .lone => .error { reading := .malformed, skipping := fault }
  | .error fault, _ => .error (.plain fault)

end ApiDiscovery.Quotation
