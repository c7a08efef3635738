import ApiDiscovery.Text.Utf8
import ApiDiscovery.Uri.Basic

/-!
Reading addresses. A text that begins with a slash is a path, a text with a scheme is a full address,
and every other text has to be an authority from end to end.
-/

namespace ApiDiscovery

inductive UriError where
  | empty
  | tooLong
  | invalidCharacter
  | invalidFormat
  | invalidAuthority
  | schemeTooLong
  | missingSlash
  deriving DecidableEq, Repr

def UriError.message : UriError → String
  | .empty => "empty string"
  | .tooLong => "uri too long"
  | .invalidCharacter => "invalid uri character"
  | .invalidFormat => "invalid format"
  | .invalidAuthority => "invalid authority"
  | .schemeTooLong => "scheme too long"
  | .missingSlash => "path does not start with slash"

def Uri.maximalLength : Nat := 65534

namespace Target

def isPathCharacter (character : Char) : Bool :=
  let code := character.toNat
  code == 0x21 || code == 0x22 || (0x24 ≤ code && code ≤ 0x3B) || code == 0x3D ||
    (0x40 ≤ code && code ≤ 0x5F) || (0x61 ≤ code && code ≤ 0x7E) || 0x80 ≤ code

def isQueryCharacter (character : Char) : Bool :=
  let code := character.toNat
  code == 0x21 || (0x24 ≤ code && code ≤ 0x3B) || code == 0x3D || (0x3F ≤ code && code ≤ 0x7E) ||
    0x80 ≤ code

def endsPath (character : Char) : Bool := character == '?' || character == '#'

/-- Whether a target may begin so: with a path from the root, with a query or a fragment, or not at all.
The target that stands for the whole server is a star alone. -/
def beginsWell : List Char → Bool
  | [] => true
  | ['*'] => true
  | first :: _ => first == '/' || endsPath first

def parse (characters : List Char) : Except UriError Target :=
  let path := characters.takeWhile (!endsPath ·)
  if Uri.maximalLength < Text.byteLength characters then .error .tooLong
  else if !beginsWell characters then .error .missingSlash
  else if !path.all isPathCharacter then .error .invalidCharacter
  else
    match characters.dropWhile (!endsPath ·) with
    | '?' :: rest =>
        let query := rest.takeWhile (· != '#')
        if query.all isQueryCharacter then
          .ok { path := String.ofList path, query := some (String.ofList query) }
        else .error .invalidCharacter
    | _ => .ok { path := String.ofList path, query := none }

end Target

namespace Authority

def isCharacter (character : Char) : Bool :=
  character.isAlphanum || "!$&'()*+,-.:;=@[]_~%".toList.contains character

def isEnd (character : Char) : Bool := character == '/' || character == '?' || character == '#'

structure State where
  colons : Nat := 0
  opened : Bool := false
  closed : Bool := false
  percent : Bool := false
  afterAt : Bool := false
  deriving DecidableEq, Repr

def State.next (state : State) (character : Char) : Except UriError State :=
  let moved := { state with afterAt := false }
  if !isCharacter character then .error .invalidCharacter
  else if character = ':' then
    if 8 ≤ state.colons then .error .invalidAuthority
    else .ok { moved with colons := state.colons + 1 }
  else if character = '[' then
    if state.percent || state.opened then .error .invalidAuthority else .ok { moved with opened := true }
  else if character = ']' then
    if !state.opened || state.closed then .error .invalidAuthority
    else .ok { moved with closed := true, colons := 0, percent := false }
  else if character = '@' then .ok { state with colons := 0, percent := false, afterAt := true }
  else if character = '%' then .ok { moved with percent := true }
  else .ok moved

/-- Whether an authority may end here: brackets are closed, a host stands after the user, and what
stands after them has at most one colon and no percent sign. -/
def State.mayEnd (state : State) : Bool :=
  state.opened == state.closed && state.colons ≤ 1 && !state.afterAt && !state.percent

def check (state : State) : List Char → Except UriError Unit
  | [] => if state.mayEnd then .ok () else .error .invalidAuthority
  | character :: rest => do
      let state ← state.next character
      check state rest

end Authority

namespace Uri

def isSchemeCharacter (character : Char) : Bool :=
  character.isAlphanum || character == '+' || character == '-' || character == '.' || character == '~'

def afterIgnoringCase? : List Char → List Char → Option (List Char)
  | [], text => some text
  | _ :: _, [] => none
  | expected :: head, found :: text =>
      if found.toLower = expected then afterIgnoringCase? head text else none

/-- The scheme in front of a text and the text after its mark. The two common schemes are taken in lower
case, any other as it stands; the mark alone is no scheme. -/
def splitScheme (characters : List Char) : Except UriError (Option (String × List Char)) :=
  match afterIgnoringCase? "http://".toList characters with
  | some rest => .ok (some ("http", rest))
  | none =>
      match afterIgnoringCase? "https://".toList characters with
      | some rest => .ok (some ("https", rest))
      | none =>
          let scheme := characters.takeWhile isSchemeCharacter
          match characters.dropWhile isSchemeCharacter with
          | ':' :: '/' :: '/' :: rest =>
              if scheme.isEmpty && rest.isEmpty then .ok none
              else if 64 < scheme.length then .error .schemeTooLong
              else .ok (some (String.ofList scheme, rest))
          | _ => .ok none

def parseFull (characters : List Char) : Except UriError Uri := do
  match ← splitScheme characters with
  | none =>
      let name := characters.takeWhile (!Authority.isEnd ·)
      Authority.check {} name
      if name.length < characters.length then .error .invalidFormat
      else .ok (.authority (String.ofList name))
  | some (scheme, rest) =>
      if rest.isEmpty then .error .empty
      else do
        let name := rest.takeWhile (!Authority.isEnd ·)
        Authority.check {} name
        if name.isEmpty then .error .invalidFormat
        else do
          let target ← Target.parse (rest.dropWhile (!Authority.isEnd ·))
          return .absolute scheme (String.ofList name) target

def parse (text : String) : Except UriError Uri :=
  let characters := text.toList
  if maximalLength < Text.byteLength characters then .error .tooLong
  else
    match characters with
    | [] => .error .empty
    | ['*'] => .ok (.path { path := "*", query := none })
    | '?' :: [] | '#' :: [] => .error .invalidCharacter
    | '/' :: _ => .path <$> Target.parse characters
    | _ => parseFull characters

end Uri

end ApiDiscovery
