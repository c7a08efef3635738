import ApiDiscovery.Handle

/-!
What is sent when something is done through a handle. A recorded service writes down every request made
to it; each thing that can be done sends one request, if that can be put together.
-/

namespace ApiDiscovery

/-- The service with a record of the requests that it was called with, sent or not. -/
def Service.recorded {σ : Type} (service : Service σ) : Service (σ × List Request) where
  call request := fun (state, sent) =>
    let (outcome, later) := service.call request state
    (outcome, (later, sent ++ [request]))

namespace Client

variable {σ α : Type}

def recorded (client : Client σ) : Client (σ × List Request) where
  service := client.service.recorded
  defaultNamespace := client.defaultNamespace

theorem sendForText_recorded (client : Client σ) (request : Request) (state : σ) (sent : List Request) :
    (client.recorded.sendForText request (state, sent)).2.2 = sent ++ [request] := by
  rw [sendForText, Exchange.bind_lift_state]
  rfl

theorem sendForJson_recorded (client : Client σ) (read : Source → Except Fault α) (request : Request)
    (state : σ) (sent : List Request) :
    (client.recorded.sendForJson read request (state, sent)).2.2 = sent ++ [request] := by
  rw [sendForJson, Exchange.bind_lift_state, sendForText_recorded]

theorem sent_of_built {ε : Type} {describe : ε → Failure} (built : Except ε Request)
    {send : Request → Exchange (σ × List Request) α} (state : σ)
    (logs : ∀ request, (send request (state, [])).2.2 = [request]) :
    (((Exchange.lift describe built : Exchange (σ × List Request) Request) >>= send) (state, [])).2.2 =
      built.toOption.toList := by
  cases built with
  | error error => rfl
  | ok request => exact logs request

end Client

inductive Act where
  | get (name : String)
  | list
  | create (object : Manifest)
  | replace (name : String) (object : Manifest)
  | delete (name : String)

def Act.name? : Act → Option String
  | .get name | .replace name _ | .delete name => some name
  | .list | .create _ => none

namespace Handle

variable {σ : Type}

def run (handle : Handle) (client : Client σ) : Act → Exchange σ Unit
  | .get name => (fun _ => ()) <$> handle.get client name
  | .list => (fun _ => ()) <$> handle.list client
  | .create object => (fun _ => ()) <$> handle.create client object
  | .replace name object => (fun _ => ()) <$> handle.replace client name object
  | .delete name => handle.delete client name

def sent (handle : Handle) (client : Client σ) (act : Act) (state : σ) : List Request :=
  (handle.run client.recorded act (state, [])).2.2

def requestFor (handle : Handle) : Act → Except Failure Request
  | .get name => handle.getRequest name
  | .list => handle.listRequest
  | .create object => handle.createRequest object
  | .replace name object => handle.replaceRequest name object
  | .delete name => handle.deleteRequest name

def address (handle : Handle) (act : Act) : String :=
  match act.name? with
  | some name => handle.resource.collectionPath handle.namespace ++ "/" ++ name
  | none => handle.resource.collectionPath handle.namespace

theorem sent_eq (handle : Handle) (client : Client σ) (act : Act) (state : σ) :
    handle.sent client act state = (handle.requestFor act).toOption.toList := by
  have logs : ∀ (read : Source → Except Fault Manifest) (request : Request),
      (client.recorded.sendForJson read request (state, [])).2.2 = [request] :=
    fun read request => client.sendForJson_recorded read request state []
  cases act with
  | get name =>
      rw [sent, run, Exchange.map_state, Handle.get, requestFor]
      exact Client.sent_of_built _ state (logs Manifest.read)
  | list =>
      rw [sent, run, Exchange.map_state, Handle.list, requestFor]
      exact Client.sent_of_built _ state
        fun request => client.sendForJson_recorded ManifestList.format.read request state []
  | create object =>
      rw [sent, run, Exchange.map_state, Handle.create, requestFor]
      exact Client.sent_of_built _ state (logs Manifest.read)
  | replace name object =>
      rw [sent, run, Exchange.map_state, Handle.replace, requestFor]
      exact Client.sent_of_built _ state (logs Manifest.read)
  | delete name =>
      rw [sent, run, Handle.delete, requestFor]
      refine Client.sent_of_built _ state fun request => ?_
      rw [bind_pure_comp, Exchange.map_state]
      exact client.sendForText_recorded request state []

end Handle

theorem Request.method_of_build {method uri : String} {headers : List (String × String)}
    {body : List UInt8} {request : Request} (built : Request.build method uri headers body = .ok request) :
    request.method = method := by
  unfold Request.build at built
  split at built
  · cases built
  · split at built
    · cases built
      rfl
    · cases built

theorem Request.uri_of_build {method uri : String} {headers : List (String × String)} {body : List UInt8}
    {request : Request} (built : Request.build method uri headers body = .ok request) :
    Uri.parse uri = .ok request.uri := by
  unfold Request.build at built
  split at built
  · cases built
  · split at built
    · rename_i parsed
      cases built
      exact parsed
    · cases built

namespace Handle

theorem uri_of_plainRequest {method uri : String} {request : Request}
    (built : plainRequest method uri = .ok request) : Uri.parse uri = .ok request.uri :=
  Request.uri_of_build (Except.mapError_eq_ok.mp built)

theorem uri_of_objectRequest {method uri : String} {object : Manifest} {request : Request}
    (built : objectRequest method uri object = .ok request) : Uri.parse uri = .ok request.uri := by
  obtain ⟨document, _, made⟩ := Except.bind_eq_ok.mp built
  exact Request.uri_of_build (Except.mapError_eq_ok.mp made)

theorem uri_of_requestFor {handle : Handle} {act : Act} {request : Request}
    (built : handle.requestFor act = .ok request) : Uri.parse (handle.address act) = .ok request.uri := by
  have object : ∀ name, act.name? = some name → handle.address act = handle.objectPath name := by
    intro name named
    rw [address, named]
    rfl
  cases act with
  | get name =>
      rw [requestFor, getRequest] at built
      rw [object name rfl]
      exact uri_of_plainRequest built
  | list => exact uri_of_plainRequest built
  | create object => exact uri_of_objectRequest built
  | replace name _ =>
      rw [requestFor, replaceRequest] at built
      rw [object name rfl]
      exact uri_of_objectRequest built
  | delete name =>
      rw [requestFor, deleteRequest] at built
      rw [object name rfl]
      exact uri_of_plainRequest built

theorem mem_sent {σ : Type} {handle : Handle} {client : Client σ} {act : Act} {state : σ}
    {request : Request} (sent : request ∈ handle.sent client act state) :
    Uri.parse (handle.address act) = .ok request.uri := by
  rw [sent_eq] at sent
  cases built : handle.requestFor act with
  | error failure => simp [built, Except.toOption] at sent
  | ok own =>
      have same : request = own := by
        simpa [built, Except.toOption] using sent
      rw [same]
      exact uri_of_requestFor built

end Handle

end ApiDiscovery
