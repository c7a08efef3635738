import ApiDiscovery.Uri.Grammar

/-!
Requests relative to a base address. The base keeps its scheme and its authority; the path of the
request goes behind the path of the base, and the query is the request's.
-/

namespace ApiDiscovery.Uri

def trimSlashes (path : List Char) : List Char := (path.reverse.dropWhile (· == '/')).reverse

/-- The text of the target that a request has behind a base, by the targets of the two. Where one of them
has no target the other's stays, and without a text it is the root. -/
def joined : Option Target → Option Target → List Char
  | some base, some request => trimSlashes base.printedPath.toList ++ request.print.toList
  | some target, none | none, some target => if target.text = "" then ['/'] else target.text.toList
  | none, none => ['/']

/-- The target of a request behind a base; where the joined text makes no target, the base's stays. -/
def joinedTarget? (base request : Option Target) : Option Target :=
  match Target.parse (joined base request) with
  | .ok target => some target
  | .error _ => base

/-- The address of the given parts. A scheme needs an authority and a target, and an authority in front of
a target needs a scheme. -/
def ofParts? : Option String → Option String → Option Target → Option Uri
  | some scheme, some name, some target => some (.absolute scheme name target)
  | none, some name, none => some (.authority name)
  | none, none, target? => some (.path (target?.getD { path := "", query := none }))
  | _, _, _ => none

/-- The address that a request to `request` has behind `base`; where the parts make no address, `base`
stays. -/
def behind (base request : Uri) : Uri :=
  (ofParts? base.scheme? base.authority? (joinedTarget? base.target? request.target?)).getD base

end ApiDiscovery.Uri
