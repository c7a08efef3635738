import ApiDiscovery.Discovery
import ApiDiscovery.Json.Compact

/-!
Working with the objects of one resource. A handle names a resource and the namespace it is used in;
routing finds the handle for an object by asking discovery which resource serves its kind.
-/

namespace ApiDiscovery

namespace Provider

variable {σ : Type}

def serving (kind : GroupVersionKind) (list : ResourceList) : Except Failure ListedResource :=
  match list.resources.find? fun listed => listed.kind == kind.kind with
  | some listed => .ok listed
  | none => .error (.missingKind kind.describe)

def resourceFor (provider : Provider σ) (kind : GroupVersionKind) : Exchange σ Resource := do
  let list ← (provider.resources kind.apiVersion).mapFailure (.unableToFetch kind.apiVersion)
  let listed ← .lift id (serving kind list.value)
  .lift (fun error => .invalidGroupVersion error.text) (Resource.ofListed listed kind.apiVersion)

end Provider

structure Handle where
  resource : Resource
  «namespace» : Option String
  deriving DecidableEq, Repr

namespace Handle

variable {σ : Type}

def all (resource : Resource) : Handle := { resource, «namespace» := none }

def inNamespace (resource : Resource) (name : String) : Handle := { resource, «namespace» := some name }

def forNamespace (resource : Resource) (name : String) : Handle :=
  if resource.namespaced then inNamespace resource name else all resource

def collectionPath (handle : Handle) : String := handle.resource.collectionPath handle.namespace

def objectPath (handle : Handle) (name : String) : String :=
  handle.resource.objectPath handle.namespace name

def namespaceFor (subject : Subject) (otherwise : String) : String :=
  match subject.namespace with
  | some name => if name = "" then otherwise else name
  | none => otherwise

def forSubject (provider : Provider σ) (subject : Subject) (defaultNamespace : String) :
    Exchange σ Handle := do
  let kind ← .lift .untyped subject.kind
  let resource ← provider.resourceFor kind
  return forNamespace resource (namespaceFor subject defaultNamespace)

def plainRequest (method uri : String) : Except Failure Request :=
  (Request.build method uri [Request.acceptJson] []).mapError .request

def objectRequest (method uri : String) (object : Manifest) : Except Failure Request := do
  let document ← (Manifest.write object).mapError .format
  (Request.build method uri [Request.acceptJson, Request.contentJson]
    (Text.Utf8.encode document.compact)).mapError .request

def getRequest (handle : Handle) (name : String) : Except Failure Request :=
  plainRequest "GET" (handle.objectPath name)

def listRequest (handle : Handle) : Except Failure Request := plainRequest "GET" handle.collectionPath

def createRequest (handle : Handle) (object : Manifest) : Except Failure Request :=
  objectRequest "POST" handle.collectionPath object

def replaceRequest (handle : Handle) (name : String) (object : Manifest) : Except Failure Request :=
  objectRequest "PUT" (handle.objectPath name) object

def deleteRequest (handle : Handle) (name : String) : Except Failure Request :=
  plainRequest "DELETE" (handle.objectPath name)

def get (handle : Handle) (client : Client σ) (name : String) : Exchange σ Manifest := do
  let request ← .lift id (handle.getRequest name)
  client.sendForJson Manifest.read request

def list (handle : Handle) (client : Client σ) : Exchange σ ManifestList := do
  let request ← .lift id handle.listRequest
  client.sendForJson ManifestList.format.read request

def create (handle : Handle) (client : Client σ) (object : Manifest) : Exchange σ Manifest := do
  let request ← .lift id (handle.createRequest object)
  client.sendForJson Manifest.read request

def replace (handle : Handle) (client : Client σ) (name : String) (object : Manifest) :
    Exchange σ Manifest := do
  let request ← .lift id (handle.replaceRequest name object)
  client.sendForJson Manifest.read request

def delete (handle : Handle) (client : Client σ) (name : String) : Exchange σ Unit := do
  let request ← .lift id (handle.deleteRequest name)
  let _ ← client.sendForText request
  return ()

end Handle

end ApiDiscovery
