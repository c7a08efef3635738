import ApiDiscovery.Json.Quotation

/-!
The text of a whole document: one value between blanks. Containers may be nested a hundred and
twenty-seven deep to be read; what is nested deeper is only checked for its grammar.
-/

namespace ApiDiscovery

namespace Scan

def isSpace (character : Char) : Bool :=
  character == ' ' || character == '\n' || character == '\t' || character == '\r'

def skipSpace (text : List Char) : List Char := text.dropWhile isSpace

def afterWord : List Char → List Char → Except Fault (List Char)
  | [], text => .ok text
  | _ :: _, [] => .error .ended
  | expected :: word, found :: text =>
      if expected = found then afterWord word text else .error .malformed

def word (meaning : Source) (letters text : List Char) : Scan :=
  match afterWord letters text with
  | .ok rest => .whole meaning rest
  | .error fault => .broken fault fault

def quotation (text : List Char) : Scan :=
  match Quotation.scan text with
  | .ok (value, rest) => .whole (.text value) rest
  | .error place => { source := .broken place, rest := none }

def leaf : List Char → Scan
  | [] => .broken .ended .ended
  | 'n' :: text => word .null ['u', 'l', 'l'] text
  | 't' :: text => word (.bool true) ['r', 'u', 'e'] text
  | 'f' :: text => word (.bool false) ['a', 'l', 's', 'e'] text
  | '"' :: text => quotation text
  | first :: text =>
      if first == '-' || first.isDigit then Numeral.scan (first :: text)
      else .broken .malformed .malformed

inductive Container where
  | list
  | record
  deriving DecidableEq, Repr

inductive Expected where
  | value
  | first
  | name
  | more
  deriving DecidableEq, Repr

def skipOpen : Nat → Expected → List Container → List Char → Except Fault (List Char)
  | 0, _, _, _ => .error .malformed
  | steps + 1, expected, containers, text =>
      let text := skipSpace text
      match expected, containers, text with
      | .more, [], text => .ok text
      | .value, _, '[' :: text => skipOpen steps .first (.list :: containers) text
      | .value, _, '\x7b' :: text => skipOpen steps .first (.record :: containers) text
      | .value, _, text =>
          let scanned := leaf text
          match scanned.source.skip, scanned.rest with
          | .error fault, _ => .error fault
          | .ok (), none => .error .malformed
          | .ok (), some rest => skipOpen steps .more containers rest
      | _, _, [] => .error .ended
      | .first, .list :: outer, ']' :: text => skipOpen steps .more outer text
      | .first, .record :: outer, '\x7d' :: text => skipOpen steps .more outer text
      | .first, .list :: _, text => skipOpen steps .value containers text
      | .first, _, text => skipOpen steps .name containers text
      | .name, _, '"' :: text =>
          match (Quotation.scanFrom [] text).rest with
          | .error fault => .error fault
          | .ok rest =>
              match skipSpace rest with
              | [] => .error .ended
              | ':' :: rest => skipOpen steps .value containers rest
              | _ :: _ => .error .malformed
      | .name, _, _ :: _ => .error .malformed
      | .more, _, ',' :: text =>
          match containers with
          | .record :: _ => skipOpen steps .name containers text
          | _ => skipOpen steps .value containers text
      | .more, .list :: outer, ']' :: text => skipOpen steps .more outer text
      | .more, .record :: outer, '\x7d' :: text => skipOpen steps .more outer text
      | .more, _, _ => .error .malformed

def deep (text : List Char) : Scan :=
  match skipOpen (3 * text.length + 3) .value [] text with
  | .ok rest => .whole (.deep none) rest
  | .error fault => { source := .deep (some fault), rest := none }

mutual

def value : Nat → Nat → List Char → Scan
  | 0, _, _ => .broken .malformed .malformed
  | steps + 1, depth, text =>
      match depth, skipSpace text with
      | 0, '[' :: text => deep ('[' :: text)
      | 0, '\x7b' :: text => deep ('\x7b' :: text)
      | depth + 1, '[' :: text =>
          match skipSpace text with
          | ']' :: rest => .whole (.list [] none) rest
          | [] => { source := .list [] (some (.plain .ended)), rest := none }
          | text => items steps depth [] text
      | depth + 1, '\x7b' :: text =>
          match skipSpace text with
          | '\x7d' :: rest => .whole (.record [] none) rest
          | [] => { source := .record [] (some (.plain .ended)), rest := none }
          | text => members steps depth [] text
      | _, text => leaf text

/-- The items of a list from the beginning of one on; `found` are those before it, last item first. -/
def items : Nat → Nat → List Source → List Char → Scan
  | 0, _, found, _ => { source := .list found.reverse (some (.plain .malformed)), rest := none }
  | steps + 1, depth, found, text =>
      let item := value steps depth text
      let found := item.source :: found
      match item.rest with
      | none => { source := .list found.reverse (some (.plain .malformed)), rest := none }
      | some rest =>
          match skipSpace rest with
          | ']' :: rest => .whole (.list found.reverse none) rest
          | [] => { source := .list found.reverse (some (.plain .ended)), rest := none }
          | ',' :: rest =>
              match skipSpace rest with
              | ']' :: _ => { source := .list found.reverse (some (.plain .malformed)), rest := none }
              | rest => items steps depth found rest
          | _ :: _ => { source := .list found.reverse (some (.plain .malformed)), rest := none }

def members : Nat → Nat → List (Option String × Source) → List Char → Scan
  | 0, _, found, _ => { source := .record found.reverse (some (.plain .malformed)), rest := none }
  | steps + 1, depth, found, text =>
      match skipSpace text with
      | [] => { source := .record found.reverse (some (.plain .ended)), rest := none }
      | '"' :: text =>
          match Quotation.scan text with
          | .error place => { source := .record found.reverse (some place), rest := none }
          | .ok (name, rest) =>
              let member :=
                match skipSpace rest with
                | [] => Scan.broken .ended .ended
                | ':' :: rest => value steps depth rest
                | _ :: _ => Scan.broken .malformed .malformed
              let found := (name, member.source) :: found
              match member.rest with
              | none => { source := .record found.reverse (some (.plain .malformed)), rest := none }
              | some rest =>
                  match skipSpace rest with
                  | '\x7d' :: rest => .whole (.record found.reverse none) rest
                  | ',' :: rest => members steps depth found rest
                  | [] => { source := .record found.reverse (some (.plain .ended)), rest := none }
                  | _ :: _ =>
                      { source := .record found.reverse (some (.plain .malformed)), rest := none }
      | _ :: _ => { source := .record found.reverse (some (.plain .malformed)), rest := none }

end

end Scan

structure Document where
  root : Source
  trailing : Bool
  deriving Repr, Inhabited

namespace Document

def maximalDepth : Nat := 127

def ofText (text : String) : Document :=
  let characters := text.toList
  let scanned := Scan.value (2 * characters.length + 2) maximalDepth characters
  { root := scanned.source
    trailing := match scanned.rest with
      | some rest => !(Scan.skipSpace rest).isEmpty
      | none => false }

def readWith {α : Type} (document : Document) (read : Source → Except Fault α) : Except Fault α := do
  let value ← read document.root
  if document.trailing then .error .malformed else .ok value

end Document

def Json.ofText (text : String) : Except Fault Json := (Document.ofText text).readWith Source.value

end ApiDiscovery
