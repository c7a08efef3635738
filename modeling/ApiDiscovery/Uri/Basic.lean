/-!
Addresses of requests. An address is a path on a server known otherwise, a full address with scheme and
authority, or a bare authority.
-/

namespace ApiDiscovery

/-- A path with an optional query. The path of a full address may be empty; it is printed as the root
then. -/
structure Target where
  path : String
  query : Option String
  deriving DecidableEq, Repr, Inhabited

namespace Target

/-- The text the target was read from, without a fragment. -/
def text (target : Target) : String :=
  match target.query with
  | none => target.path
  | some query => target.path ++ "?" ++ query

def printedPath (target : Target) : String := if target.path = "" then "/" else target.path

def print (target : Target) : String :=
  match target.query with
  | none => target.printedPath
  | some query => target.printedPath ++ "?" ++ query

end Target

inductive Uri where
  | path (target : Target)
  | absolute (scheme authority : String) (target : Target)
  | authority (authority : String)
  deriving DecidableEq, Repr

namespace Uri

def scheme? : Uri → Option String
  | .absolute scheme _ _ => some scheme
  | .path _ | .authority _ => none

def authority? : Uri → Option String
  | .absolute _ name _ | .authority name => some name
  | .path _ => none

def target? : Uri → Option Target
  | .path target | .absolute _ _ target => some target
  | .authority _ => none

def printedPath (uri : Uri) : String := (uri.target?.map Target.printedPath).getD ""

def query? (uri : Uri) : Option String := uri.target?.bind Target.query

def print : Uri → String
  | .path target => target.print
  | .absolute scheme name target => scheme ++ "://" ++ name ++ target.print
  | .authority name => name

/-- A decimal numeral below `65536`; a plus in front and leading zeros are accepted. -/
def portNumber? (numeral : List Char) : Option Nat :=
  let digits := match numeral with
    | '+' :: digits => digits
    | digits => digits
  if digits.isEmpty || !digits.all Char.isDigit then none
  else
    let value := digits.foldl (fun value digit => value * 10 + (digit.toNat - '0'.toNat)) 0
    if value < 65536 then some value else none

def authorityPort? (authority : String) : Option Nat :=
  if authority.toList.contains ':' then
    portNumber? (authority.toList.reverse.takeWhile (· != ':')).reverse
  else none

def port? (uri : Uri) : Option Nat := uri.authority?.bind authorityPort?

/-- The host of an authority, behind a user and in front of a port; a literal keeps its brackets. -/
def authorityHost (authority : String) : String :=
  match (authority.toList.reverse.takeWhile (· != '@')).reverse with
  | '[' :: rest => String.ofList ('[' :: rest.takeWhile (· != ']') ++ [']'])
  | host => String.ofList (host.takeWhile (· != ':'))

def host? (uri : Uri) : Option String := uri.authority?.map authorityHost

end Uri

end ApiDiscovery
