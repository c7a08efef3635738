/-!
UTF-8 as a list of bytes. Decoding either returns every character or says where the bytes stop being
UTF-8, and whether they are wrong there or only cut short.
-/

namespace ApiDiscovery.Text

inductive Utf8Fault where
  /-- `width` bytes from `start` on begin no character, whatever follows them. -/
  | invalid (start width : Nat)
  | truncated (start : Nat)
  deriving DecidableEq, Repr

def Utf8Fault.message : Utf8Fault → String
  | .invalid start width =>
      "invalid utf-8 sequence of " ++ toString width ++ " bytes from index " ++ toString start
  | .truncated start => "incomplete utf-8 byte sequence from index " ++ toString start

def byteLength (characters : List Char) : Nat :=
  characters.foldl (fun length character => length + character.utf8Size) 0

theorem foldl_utf8Size (characters : List Char) (length : Nat) :
    characters.foldl (fun length character => length + character.utf8Size) length =
      length + byteLength characters := by
  induction characters generalizing length with
  | nil => rfl
  | cons first rest ih =>
      rw [byteLength, List.foldl_cons, List.foldl_cons, ih, ih]
      omega

theorem byteLength_append (front back : List Char) :
    byteLength (front ++ back) = byteLength front + byteLength back := by
  rw [byteLength, List.foldl_append, foldl_utf8Size back]
  rfl

namespace Utf8

/-- The bytes that may follow the lead byte of a longer character, with its first six bits spoken for
by the lead: an overlong form, a surrogate, and a value past the last character are excluded. -/
def followsLead (lead second : UInt8) : Bool :=
  if lead == 0xE0 then 0xA0 ≤ second && second ≤ 0xBF
  else if lead == 0xED then 0x80 ≤ second && second ≤ 0x9F
  else if lead == 0xF0 then 0x90 ≤ second && second ≤ 0xBF
  else if lead == 0xF4 then 0x80 ≤ second && second ≤ 0x8F
  else 0x80 ≤ second && second ≤ 0xBF

def continues (byte : UInt8) : Bool := 0x80 ≤ byte && byte ≤ 0xBF

def payload (byte : UInt8) : Nat := byte.toNat % 64

def decodeFrom (start : Nat) : List UInt8 → Except Utf8Fault (List Char)
  | [] => .ok []
  | lead :: afterLead =>
      if lead < 0x80 then
        (Char.ofNat lead.toNat :: ·) <$> decodeFrom (start + 1) afterLead
      else if lead < 0xC2 || 0xF4 < lead then .error (.invalid start 1)
      else
        match afterLead with
        | [] => .error (.truncated start)
        | second :: afterSecond =>
            if !followsLead lead second then .error (.invalid start 1)
            else if lead < 0xE0 then
              (Char.ofNat (lead.toNat % 32 * 64 + payload second) :: ·) <$>
                decodeFrom (start + 2) afterSecond
            else
              match afterSecond with
              | [] => .error (.truncated start)
              | third :: afterThird =>
                  if !continues third then .error (.invalid start 2)
                  else if lead < 0xF0 then
                    (Char.ofNat ((lead.toNat % 16 * 64 + payload second) * 64 + payload third) :: ·) <$>
                      decodeFrom (start + 3) afterThird
                  else
                    match afterThird with
                    | [] => .error (.truncated start)
                    | fourth :: afterFourth =>
                        if !continues fourth then .error (.invalid start 3)
                        else
                          (Char.ofNat (((lead.toNat % 8 * 64 + payload second) * 64 + payload third) * 64
                            + payload fourth) :: ·) <$> decodeFrom (start + 4) afterFourth

def decode (bytes : List UInt8) : Except Utf8Fault String :=
  String.ofList <$> decodeFrom 0 bytes

def encode (text : String) : List UInt8 := text.toByteArray.data.toList

end Utf8

end ApiDiscovery.Text
