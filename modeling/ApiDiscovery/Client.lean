import ApiDiscovery.Failure
import ApiDiscovery.Schema
import ApiDiscovery.Uri.Base

/-!
Asking a server over HTTP. A service takes requests to responses; a client asks a service for the
documents at known addresses.
-/

namespace ApiDiscovery

/-- Whatever answers requests, on a state of its own. A call first waits until the service is ready, so one
that fails may not have sent its request. -/
structure Service (σ : Type) where
  call : Request → Exchange σ Response

def Service.behind {σ : Type} (base : Uri) (service : Service σ) : Service σ where
  call request := service.call { request with uri := Uri.behind base request.uri }

structure Client (σ : Type) where
  service : Service σ
  defaultNamespace : String

namespace Client

variable {σ α : Type}

def send (client : Client σ) (request : Request) : Exchange σ Response := client.service.call request

def sendForText (client : Client σ) (request : Request) : Exchange σ String := do
  let response ← client.send request
  .lift .ofRefusal response.content

def readText (read : Source → Except Fault α) (text : String) : Except Fault α :=
  (Document.ofText text).readWith read

def sendForJson (client : Client σ) (read : Source → Except Fault α) (request : Request) :
    Exchange σ α := do
  let text ← client.sendForText request
  .lift .format (readText read text)

def get (client : Client σ) (format : Format α) (uri : String) : Exchange σ α := do
  let request ← .lift .request (Request.get uri)
  client.sendForJson format.read request

def buildInfo (client : Client σ) : Exchange σ BuildInfo := client.get BuildInfo.format "/version"

def namedGroups (client : Client σ) : Exchange σ GroupList := client.get GroupList.format "/apis"

def namedGroupResources (client : Client σ) (apiVersion : String) : Exchange σ ResourceList :=
  client.get ResourceList.format ("/apis/" ++ apiVersion)

def coreVersions (client : Client σ) : Exchange σ CoreVersions :=
  client.get CoreVersions.format "/api"

def coreResources (client : Client σ) (version : String) : Exchange σ ResourceList :=
  client.get ResourceList.format ("/api/" ++ version)

def declarationPath (groupVersion : GroupVersion) : String :=
  if groupVersion.group = "" then "/swaggerapi/api/" ++ groupVersion.version
  else "/swaggerapi/apis/" ++ groupVersion.group ++ "/" ++ groupVersion.version

def declaration (client : Client σ) (groupVersion : GroupVersion) : Exchange σ SwaggerDeclaration :=
  client.get SwaggerDeclaration.format (declarationPath groupVersion)

def schemaDocument (client : Client σ) : Exchange σ OpenApiDocument :=
  client.get OpenApiDocument.format "/openapi/v2"

/-- The same exchange, with no value instead of a failure if the server answers that there is no such
thing or that access to it is forbidden. -/
def tolerant (exchange : Exchange σ α) : Exchange σ (Option α) := fun state =>
  match exchange state with
  | (.ok value, state) => (.ok (some value), state)
  | (.error failure, state) =>
      if failure.isNotFound || failure.isForbidden then (.ok none, state) else (.error failure, state)

def coreGroup (core : CoreVersions) : Group :=
  let versions := core.versions.map fun version => { groupVersion := version, version }
  { name := "", preferred := versions.head?, versions }

def allGroups (core : Option CoreVersions) (named : Option GroupList) : GroupList :=
  let others := (named.getD {}).groups
  match core with
  | none => { groups := others }
  | some core =>
      if core.versions.isEmpty then { groups := others } else { groups := coreGroup core :: others }

def groups (client : Client σ) : Exchange σ GroupList := do
  let core ← tolerant client.coreVersions
  let named ← tolerant client.namedGroups
  return allGroups core named

def labelled (groupVersion : GroupVersion) (list : ResourceList) : ResourceList :=
  if list.groupVersion = "" then { list with groupVersion := groupVersion.apiVersion } else list

def resources (client : Client σ) (apiVersion : String) : Exchange σ ResourceList := do
  let groupVersion ← .lift (fun error => .invalidGroupVersion error.text) (GroupVersion.parse apiVersion)
  let list ←
    if groupVersion.group = "" then client.coreResources groupVersion.version
    else client.namedGroupResources groupVersion.apiVersion
  return labelled groupVersion list

end Client

end ApiDiscovery
