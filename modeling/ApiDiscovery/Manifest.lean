import ApiDiscovery.Metadata
import ApiDiscovery.Resource

/-!
Objects of kinds that are not known beforehand. A manifest has a type block if the object names its own
API version and kind, metadata, and everything else as it stands in the record.
-/

namespace ApiDiscovery

structure TypeBlock where
  apiVersion : String
  kind : String
  deriving DecidableEq, Repr, Inhabited

namespace TypeBlock

def groupVersionKind (block : TypeBlock) : Except GroupVersionError GroupVersionKind :=
  GroupVersionKind.ofApiVersion block.apiVersion block.kind

def format : Format TypeBlock :=
  .record .strict
    (.field (.required "apiVersion" .text) <| .field (.required "kind" .text) .done)
    (fun (apiVersion, kind, ()) => { apiVersion, kind })
    fun block => (block.apiVersion, block.kind, ())

end TypeBlock

inductive TypeError where
  | missing
  | invalidApiVersion (error : GroupVersionError)
  deriving DecidableEq, Repr

def TypeError.message : TypeError → String
  | .missing => "object is missing apiVersion and kind"
  | .invalidApiVersion error => "invalid apiVersion: " ++ error.message

structure Subject where
  kind : Except TypeError GroupVersionKind
  «namespace» : Option String

def Subject.ofKind (kind : GroupVersionKind) («namespace» : Option String) : Subject :=
  { kind := .ok kind, «namespace» }

structure Manifest where
  types : Option TypeBlock
  metadata : ObjectMeta
  data : Value
  deriving DecidableEq

namespace Manifest

def ofResource (name : String) (resource : Resource) : Manifest :=
  { types := some { apiVersion := resource.apiVersion, kind := resource.kind }
    metadata := { name := some name }
    data := Value.null }

def withData (manifest : Manifest) (data : Value) : Manifest := { manifest with data }

def within (manifest : Manifest) («namespace» : String) : Manifest :=
  { manifest with metadata := { manifest.metadata with «namespace» := some «namespace» } }

def groupVersionKind (manifest : Manifest) : Except TypeError GroupVersionKind :=
  match manifest.types with
  | none => .error .missing
  | some block => block.groupVersionKind.mapError .invalidApiVersion

def subject (manifest : Manifest) : Subject :=
  { kind := manifest.groupVersionKind, «namespace» := manifest.metadata.namespace }

/-- Takes the type block out of the members of an object, in order. At a member of the block that is no
text or has been there before, the search ends without a block; that member and the ones taken out
before it are lost, the ones after it stay. -/
def takeTypes (apiVersion kind : Option String) :
    List (String × Json) → Option TypeBlock × List (String × Json)
  | [] =>
      match apiVersion, kind with
      | some apiVersion, some kind => (some { apiVersion, kind }, [])
      | _, _ => (none, [])
  | (name, value) :: rest =>
      if name = "apiVersion" then
        match apiVersion, value with
        | none, .text found => takeTypes (some found) kind rest
        | _, _ => (none, rest)
      else if name = "kind" then
        match kind, value with
        | none, .text found => takeTypes apiVersion (some found) rest
        | _, _ => (none, rest)
      else
        let (types, others) := takeTypes apiVersion kind rest
        (types, (name, value) :: others)

def readMembers (metadata : Option ObjectMeta) :
    List (Option String × Source) → Except Fault (Option ObjectMeta × List (String × Json))
  | [] => .ok (metadata, [])
  | (name, source) :: rest => do
      let name ← Source.memberName name
      if name = "metadata" then
        if metadata.isSome then .error .mismatch
        else do
          let found ← ObjectMeta.format.read source
          readMembers (some found) rest
      else do
        let value ← source.value
        let (metadata, others) ← readMembers metadata rest
        return (metadata, (name, value) :: others)

def read : Source → Except Fault Manifest
  | .record members close => do
      let (metadata, others) ← readMembers none members
      Source.readClose close
      let (types, others) := takeTypes none none others
      return { types, metadata := metadata.getD default, data := Value.ofJson (.record others) }
  | source => .error source.unexpected

def typeMembers : Option TypeBlock → List (String × Json)
  | none => []
  | some block => [("apiVersion", .text block.apiVersion), ("kind", .text block.kind)]

/-- The members that data stand for: a record's own ones, and none for null. Other data have no place
in an object. -/
def dataMembers (data : Value) : Except Fault (List (String × Json)) :=
  match data.json with
  | .record members => .ok members
  | .null => .ok []
  | _ => .error .mismatch

def write (manifest : Manifest) : Except Fault Json := do
  let metadata ← ObjectMeta.format.write manifest.metadata
  let data ← dataMembers manifest.data
  return .record (typeMembers manifest.types ++ ("metadata", metadata) :: data)

def format : Format Manifest := { read, write }

end Manifest

structure ManifestList where
  metadata : ListMeta
  items : List Manifest
  deriving DecidableEq

def ManifestList.format : Format ManifestList :=
  .record .strict
    (.field (.defaulted "metadata" ListMeta.format {}) <|
      .field (.required "items" (.list Manifest.format)) .done)
    (fun (metadata, items, ()) => { metadata, items })
    fun list => (list.metadata, list.items, ())

end ApiDiscovery
