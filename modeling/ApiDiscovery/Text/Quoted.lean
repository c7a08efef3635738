import ApiDiscovery.Text.Unprintable

/-!
Text between double quotes for a reader's eye: every character that could be mistaken or would not
be seen is written as an escape.
-/

namespace ApiDiscovery.Text

def hexadecimal (value : Nat) : List Char := Nat.toDigits 16 value

def quotedCharacter (character : Char) : List Char :=
  match character with
  | '"' => ['\\', '"']
  | '\\' => ['\\', '\\']
  | '\n' => ['\\', 'n']
  | '\r' => ['\\', 'r']
  | '\t' => ['\\', 't']
  | '\x00' => ['\\', '0']
  | other =>
      if isUnprintable other then
        ['\\', 'u', '\x7b'] ++ hexadecimal other.toNat ++ ['\x7d']
      else [other]

def quoted (text : String) : String :=
  String.ofList ('"' :: text.toList.flatMap quotedCharacter ++ ['"'])

end ApiDiscovery.Text
