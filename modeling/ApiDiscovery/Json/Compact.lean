import ApiDiscovery.Decimal.Shortest
import ApiDiscovery.Json.Basic

/-!
The compact text of a document: no blanks, members in the order they stand in, and escapes only where
the grammar asks for them.
-/

namespace ApiDiscovery.Json

def doubleStyle : Decimal.Style := { least := -4, greatest := 16 }

def numberText : Number → List Char
  | .integer value =>
      if value < 0 then '-' :: Decimal.numerals value.natAbs else Decimal.numerals value.natAbs
  | .double value => doubleStyle.render value.negative (Decimal.shortest value.position)

def hexDigit (value : Nat) : Char := Nat.digitChar value

def textCharacter (character : Char) : List Char :=
  match character with
  | '"' => ['\\', '"']
  | '\\' => ['\\', '\\']
  | '\x08' => ['\\', 'b']
  | '\x0c' => ['\\', 'f']
  | '\n' => ['\\', 'n']
  | '\r' => ['\\', 'r']
  | '\t' => ['\\', 't']
  | other =>
      if other.toNat < 0x20 then
        ['\\', 'u', '0', '0', hexDigit (other.toNat / 16), hexDigit (other.toNat % 16)]
      else [other]

def textCharacters (text : String) : List Char :=
  '"' :: text.toList.flatMap textCharacter ++ ['"']

mutual

def compactBefore (rest : List Char) : Json → List Char
  | .null => "null".toList ++ rest
  | .bool true => "true".toList ++ rest
  | .bool false => "false".toList ++ rest
  | .number value => numberText value ++ rest
  | .text value => textCharacters value ++ rest
  | .list [] => '[' :: ']' :: rest
  | .list (first :: others) => '[' :: compactBefore (itemsBefore (']' :: rest) others) first
  | .record [] => '\x7b' :: '\x7d' :: rest
  | .record ((name, first) :: others) =>
      '\x7b' :: (textCharacters name ++
        ':' :: compactBefore (membersBefore ('\x7d' :: rest) others) first)

def itemsBefore (rest : List Char) : List Json → List Char
  | [] => rest
  | item :: others => ',' :: compactBefore (itemsBefore rest others) item

def membersBefore (rest : List Char) : List (String × Json) → List Char
  | [] => rest
  | (name, value) :: others =>
      ',' :: (textCharacters name ++ ':' :: compactBefore (membersBefore rest others) value)

end

def compact (document : Json) : String := String.ofList (compactBefore [] document)

end ApiDiscovery.Json
