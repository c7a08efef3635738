import ApiDiscovery.Format.Record

/-!
Names of API groups, versions, kinds and resources, and their written forms. The core group has the
empty name and is left out in writing: `v1` is a version of the core group, `apps/v1` one of `apps`.
-/

namespace ApiDiscovery

structure GroupVersion where
  group : String
  version : String
  deriving DecidableEq, Repr, Inhabited

structure GroupVersionError where
  text : String
  deriving DecidableEq, Repr

def GroupVersionError.message (error : GroupVersionError) : String :=
  "failed to parse group version: " ++ error.text

def isSlash (character : Char) : Bool := character == '/'

namespace GroupVersion

/-- The group version that a text names: a version alone is one of the core group, and a version holds
no slash and is not empty. -/
def parse (text : String) : Except GroupVersionError GroupVersion :=
  let characters := text.toList
  match characters.dropWhile (!isSlash ·) with
  | [] => if characters.isEmpty then .error { text } else .ok { group := "", version := text }
  | _ :: version =>
      if version.isEmpty || version.any isSlash then .error { text }
      else
        .ok
          { group := String.ofList (characters.takeWhile (!isSlash ·))
            version := String.ofList version }

def apiVersion (groupVersion : GroupVersion) : String :=
  if groupVersion.group = "" then groupVersion.version
  else groupVersion.group ++ "/" ++ groupVersion.version

def notAfter (left right : GroupVersion) : Bool :=
  left.group < right.group || left.group == right.group && left.version ≤ right.version

def format : Format GroupVersion :=
  .record .strict (.field (.required "group" .text) <| .field (.required "version" .text) .done)
    (fun (group, version, ()) => { group, version })
    fun groupVersion => (groupVersion.group, groupVersion.version, ())

end GroupVersion

structure GroupVersionKind where
  group : String
  version : String
  kind : String
  deriving DecidableEq, Repr, Inhabited

namespace GroupVersionKind

def groupVersion (kind : GroupVersionKind) : GroupVersion :=
  { group := kind.group, version := kind.version }

def apiVersion (kind : GroupVersionKind) : String := kind.groupVersion.apiVersion

def ofGroupVersion (groupVersion : GroupVersion) (kind : String) : GroupVersionKind :=
  { group := groupVersion.group, version := groupVersion.version, kind }

def ofApiVersion (apiVersion kind : String) : Except GroupVersionError GroupVersionKind :=
  (ofGroupVersion · kind) <$> GroupVersion.parse apiVersion

def describe (kind : GroupVersionKind) : String := kind.apiVersion ++ ", Kind=" ++ kind.kind

def format : Format GroupVersionKind :=
  .record .strict
    (.field (.required "group" .text) <| .field (.required "version" .text) <|
      .field (.required "kind" .text) .done)
    (fun (group, version, kind, ()) => { group, version, kind })
    fun kind => (kind.group, kind.version, kind.kind, ())

end GroupVersionKind

structure GroupResource where
  group : String
  resource : String
  deriving DecidableEq, Repr, Inhabited

namespace GroupResource

def describe (resource : GroupResource) : String :=
  if resource.group = "" then resource.resource else resource.resource ++ "." ++ resource.group

def notAfter (left right : GroupResource) : Bool :=
  left.group < right.group || left.group == right.group && left.resource ≤ right.resource

def format : Format GroupResource :=
  .record .strict (.field (.required "group" .text) <| .field (.required "resource" .text) .done)
    (fun (group, resource, ()) => { group, resource })
    fun resource => (resource.group, resource.resource, ())

end GroupResource

def namesSubresource (name : String) : Bool := name.toList.any isSlash

end ApiDiscovery
