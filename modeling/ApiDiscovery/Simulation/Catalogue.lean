import ApiDiscovery.Discovery

/-!
An origin of answers kept in memory, which counts the questions it is asked and can be told to fail.
-/

namespace ApiDiscovery

structure Calls where
  groups : Nat := 0
  resources : Nat := 0
  version : Nat := 0
  declaration : Nat := 0
  schema : Nat := 0
  deriving DecidableEq, Repr, Inhabited

def Calls.count (calls : Calls) : Query → Calls
  | .groups => { calls with groups := calls.groups + 1 }
  | .resources _ => { calls with resources := calls.resources + 1 }
  | .version => { calls with version := calls.version + 1 }
  | .declaration _ => { calls with declaration := calls.declaration + 1 }
  | .schema => { calls with schema := calls.schema + 1 }

structure Catalogue where
  groups : List Group := []
  resources : List (String × List ListedResource) := []
  failures : Nat := 0
  calls : Calls := {}
  deriving Inhabited

namespace Catalogue

def group (name : String) (versions : List String) (preferred : Option String) : Group :=
  let served := fun version =>
    { groupVersion := GroupVersion.apiVersion { group := name, version }, version : ServedVersion }
  { name, versions := versions.map served, preferred := preferred.map served }

def singular (name : String) : String :=
  let first := name.toList.takeWhile (!isSlash ·)
  String.ofList (first.reverse.dropWhile (· == 's')).reverse

def resource (name kind : String) (namespaced : Bool) : ListedResource :=
  { name, singularName := singular name, kind, namespaced, verbs := ["get", "list"] }

def unavailable : Failure :=
  .api
    { status := "Failure"
      message := "the server is currently unable to handle the request"
      reason := "ServiceUnavailable"
      code := 503 }

def notFound (groupVersion : String) : Failure :=
  .api
    { status := "Failure"
      message := "the server could not find the requested resource " ++ groupVersion
      reason := "NotFound"
      code := 404 }

def lookup (catalogue : Catalogue) : (query : Query) → Except Failure query.Answer
  | .groups => .ok ({ groups := catalogue.groups } : GroupList)
  | .resources apiVersion =>
      match catalogue.resources.lookup apiVersion with
      | some resources => .ok ({ groupVersion := apiVersion, resources } : ResourceList)
      | none => .error (notFound apiVersion)
  | .version => .ok ({ major := "1", minor := "33", gitVersion := "v1.33.1" } : BuildInfo)
  | .declaration groupVersion =>
      .ok ({ swaggerVersion := "1.2", apiVersion := groupVersion.apiVersion } : SwaggerDeclaration)
  | .schema =>
      .ok ({ swagger := "2.0", info := { title := "Kubernetes", version := "v1.33.1" } } :
        OpenApiDocument)

def origin : Origin Catalogue where
  answer query := fun catalogue =>
    let asked := { catalogue with calls := catalogue.calls.count query }
    match catalogue.failures with
    | 0 => (asked.lookup query, asked)
    | failures + 1 => (.error unavailable, { asked with failures })

end Catalogue

end ApiDiscovery
