import ApiDiscovery.Listing

/-!
Resources with all that is needed to address them: group, version, kind, the name that collections have
in paths, and whether objects live in a namespace.
-/

namespace ApiDiscovery

structure Resource where
  group : String
  version : String
  apiVersion : String
  kind : String
  plural : String
  namespaced : Bool
  deriving DecidableEq, Repr, Inhabited

namespace Resource

def ofKind (kind : GroupVersionKind) (plural : String) (namespaced : Bool) : Resource :=
  { group := kind.group, version := kind.version, apiVersion := kind.apiVersion, kind := kind.kind,
    plural, namespaced }

def ofListed (listed : ListedResource) (groupVersion : String) :
    Except GroupVersionError Resource := do
  let underlying ← GroupVersion.parse groupVersion
  let own : GroupVersion :=
    { group := listed.group.getD underlying.group
      version := listed.version.getD underlying.version }
  return ofKind (.ofGroupVersion own listed.kind) listed.name listed.namespaced

def groupVersionKind (resource : Resource) : GroupVersionKind :=
  { group := resource.group, version := resource.version, kind := resource.kind }

/-- The namespace that paths of the resource name: none for a cluster-wide resource, and none if no
namespace is given or its name is empty. -/
def effectiveNamespace (resource : Resource) (selected : Option String) : Option String :=
  if resource.namespaced then selected.filter (· ≠ "") else none

theorem effectiveNamespace_eq_some {resource : Resource} {selected : Option String} {name : String} :
    resource.effectiveNamespace selected = some name ↔
      resource.namespaced = true ∧ selected = some name ∧ name ≠ "" := by
  cases located : resource.namespaced with
  | false => simp [effectiveNamespace, located]
  | true => simp [effectiveNamespace, located, Option.filter_eq_some_iff]

def collectionPath (resource : Resource) (selected : Option String) : String :=
  let root := if resource.group = "" then "api" else "apis"
  let scope :=
    match resource.effectiveNamespace selected with
    | some name => "namespaces/" ++ name ++ "/"
    | none => ""
  "/" ++ root ++ "/" ++ resource.apiVersion ++ "/" ++ scope ++ resource.plural

def objectPath (resource : Resource) (selected : Option String) (name : String) : String :=
  resource.collectionPath selected ++ "/" ++ name

def format : Format Resource :=
  .record .strict
    (.field (.required "group" .text) <|
      .field (.required "version" .text) <|
      .field (.required "api_version" .text) <|
      .field (.required "kind" .text) <|
      .field (.required "plural" .text) <|
      .field (.required "namespaced" .flag) .done)
    (fun (group, version, apiVersion, kind, plural, namespaced, ()) =>
      { group, version, apiVersion, kind, plural, namespaced })
    fun resource =>
      (resource.group, resource.version, resource.apiVersion, resource.kind, resource.plural,
        resource.namespaced, ())

end Resource

end ApiDiscovery
