import ApiDiscovery.Client
import ApiDiscovery.Simulation.Server
import Mathlib.Data.List.Basic

/-!
What comes of a response. A refusal has a code from 400 to 599 and a body that is a text; every other
response is taken for an answer, or is no text.
-/

namespace ApiDiscovery

namespace Response

/-- The status that the response states: what its text says, or what is put together where the text says
no status. A body that is no text states nothing. -/
inductive States (response : Response) : ApiStatus → Prop
  | said {text : String} {status : ApiStatus} (decoded : Text.Utf8.decode response.body = .ok text)
      (read : Client.readText ApiStatus.format.read text = .ok status) : States response status
  | unsaid {text : String} (decoded : Text.Utf8.decode response.body = .ok text)
      (unread : ∀ status, Client.readText ApiStatus.format.read text ≠ .ok status) :
      States response
        { status := describeStatus response.status
          message := Text.quoted text
          reason := "Failed to parse error data"
          code := response.status }

variable {response : Response}

theorem refuses_iff : response.refuses = true ↔ 400 ≤ response.status ∧ response.status ≤ 599 := by
  simp [refuses]

theorem statedStatus_of_read {code : UInt16} {text : String} {status : ApiStatus}
    (read : Client.readText ApiStatus.format.read text = .ok status) : statedStatus code text = status := by
  rw [Client.readText] at read
  rw [statedStatus, read]

theorem statedStatus_of_unread {code : UInt16} {text : String} {fault : Fault}
    (unread : Client.readText ApiStatus.format.read text = .error fault) :
    statedStatus code text =
      { status := describeStatus code
        message := Text.quoted text
        reason := "Failed to parse error data"
        code } := by
  rw [Client.readText] at unread
  rw [statedStatus, unread]

theorem states_iff {status : ApiStatus} :
    response.States status ↔
      ∃ text, Text.Utf8.decode response.body = .ok text ∧ statedStatus response.status text = status := by
  constructor
  · intro states
    cases states with
    | said decoded read => exact ⟨_, decoded, statedStatus_of_read read⟩
    | @unsaid text decoded unread =>
        refine ⟨text, decoded, ?_⟩
        cases read : Client.readText ApiStatus.format.read text with
        | ok status => exact absurd read (unread status)
        | error fault => exact statedStatus_of_unread read
  · rintro ⟨text, decoded, rfl⟩
    cases read : Client.readText ApiStatus.format.read text with
    | ok status =>
        rw [statedStatus_of_read read]
        exact .said decoded read
    | error fault =>
        rw [statedStatus_of_unread read]
        refine .unsaid decoded fun status => ?_
        rw [read]
        nofun

theorem exists_states_iff :
    (∃ status, response.States status) ↔ ∃ text, Text.Utf8.decode response.body = .ok text := by
  simp only [states_iff]
  exact ⟨fun ⟨_, text, decoded, _⟩ => ⟨text, decoded⟩, fun ⟨text, decoded⟩ => ⟨_, text, decoded, rfl⟩⟩

theorem content_eq_ok {text : String} :
    response.content = .ok text ↔
      response.refuses = false ∧ Text.Utf8.decode response.body = .ok text := by
  unfold content
  cases Text.Utf8.decode response.body with
  | error fault => simp
  | ok decoded => cases response.refuses <;> simp

theorem content_eq_status {status : ApiStatus} :
    response.content = .error (.status status) ↔ response.refuses = true ∧ response.States status := by
  rw [states_iff]
  unfold content
  cases Text.Utf8.decode response.body with
  | error fault => simp
  | ok decoded => cases response.refuses <;> simp

theorem content_eq_notUtf8 {fault : Text.Utf8Fault} :
    response.content = .error (.notUtf8 fault) ↔ Text.Utf8.decode response.body = .error fault := by
  unfold content
  cases Text.Utf8.decode response.body with
  | error fault => simp
  | ok decoded => cases response.refuses <;> simp

end Response

def Request.forPath (path : String) : Request :=
  { method := "GET", uri := .path { path, query := none }, headers := [acceptJson], body := [] }

namespace Client

variable {σ α : Type}

def textOf (outcome : Except Failure Response) : Except Failure String := do
  let response ← outcome
  response.content.mapError .ofRefusal

def documentOf (read : Source → Except Fault α) (outcome : Except Failure Response) :
    Except Failure α := do
  let text ← textOf outcome
  (readText read text).mapError .format

theorem sendForText_eq (client : Client σ) (request : Request) (state : σ) :
    client.sendForText request state =
      (textOf (client.send request state).1, (client.send request state).2) := by
  rw [sendForText, Exchange.bind_apply]
  rcases client.send request state with ⟨failure | response, later⟩
  · rfl
  · exact Exchange.lift_apply Failure.ofRefusal response.content later

theorem sendForJson_eq (client : Client σ) (read : Source → Except Fault α) (request : Request)
    (state : σ) :
    client.sendForJson read request state =
      (documentOf read (client.send request state).1, (client.send request state).2) := by
  rw [sendForJson, Exchange.bind_apply, sendForText_eq, documentOf]
  cases textOf (client.send request state).1 with
  | error failure => rfl
  | ok text => exact Exchange.lift_apply Failure.format (readText read text) _

theorem get_eq (client : Client σ) (format : Format α) {uri : String} {request : Request}
    (built : Request.get uri = .ok request) (state : σ) :
    client.get format uri state =
      (documentOf format.read (client.send request state).1, (client.send request state).2) := by
  rw [get, built, Exchange.lift_ok, pure_bind, sendForJson_eq]

end Client

inductive Refused : Except Failure Response → ApiStatus → Prop
  | stated {response : Response} {status : ApiStatus} (lower : 400 ≤ response.status)
      (upper : response.status ≤ 599) (states : response.States status) : Refused (.ok response) status
  | failed (status : ApiStatus) : Refused (.error (.api status)) status

theorem refused_ok_iff {response : Response} {status : ApiStatus} :
    Refused (.ok response) status ↔
      400 ≤ response.status ∧ response.status ≤ 599 ∧ response.States status := by
  constructor
  · intro refused
    cases refused with
    | stated lower upper states => exact ⟨lower, upper, states⟩
  · rintro ⟨lower, upper, states⟩
    exact .stated lower upper states

inductive Conveys : Except Failure Response → String → Prop
  | text {response : Response} {text : String} (code : ¬(400 ≤ response.status ∧ response.status ≤ 599))
      (decoded : Text.Utf8.decode response.body = .ok text) : Conveys (.ok response) text

theorem conveys_ok_iff {response : Response} {text : String} :
    Conveys (.ok response) text ↔
      ¬(400 ≤ response.status ∧ response.status ≤ 599) ∧ Text.Utf8.decode response.body = .ok text := by
  constructor
  · intro conveys
    cases conveys with
    | text code decoded => exact ⟨code, decoded⟩
  · rintro ⟨code, decoded⟩
    exact .text code decoded

namespace Client

variable {σ α : Type} {outcome : Except Failure Response} {status : ApiStatus}

theorem textOf_ok (response : Response) : textOf (.ok response) = response.content.mapError .ofRefusal :=
  rfl

theorem textOf_eq_api : textOf outcome = .error (.api status) ↔ Refused outcome status := by
  cases outcome with
  | error failure =>
      constructor
      · intro same
        cases same
        exact .failed status
      · intro refused
        cases refused
        rfl
  | ok response =>
      rw [refused_ok_iff, ← and_assoc, ← Response.refuses_iff, ← Response.content_eq_status, textOf_ok]
      rcases response.content with (fault | other) | text <;> simp [Except.mapError, Failure.ofRefusal]

theorem textOf_eq_ok {text : String} : textOf outcome = .ok text ↔ Conveys outcome text := by
  cases outcome with
  | error failure =>
      constructor
      · intro same
        cases same
      · intro conveys
        cases conveys
  | ok response =>
      rw [conveys_ok_iff, ← Response.refuses_iff, Bool.not_eq_true, ← Response.content_eq_ok, textOf_ok]
      rcases response.content with refusal | text <;> simp [Except.mapError]

theorem textOf_eq_notUtf8 {response : Response} {fault : Text.Utf8Fault} :
    textOf (.ok response) = .error (.notUtf8 fault) ↔ Text.Utf8.decode response.body = .error fault := by
  rw [← Response.content_eq_notUtf8, textOf_ok]
  rcases response.content with (other | status) | text <;> simp [Except.mapError, Failure.ofRefusal]

theorem documentOf_eq_error {read : Source → Except Fault α} {failure : Failure}
    (earlier : ∀ fault, failure ≠ .format fault) :
    documentOf read outcome = .error failure ↔ textOf outcome = .error failure := by
  rw [documentOf]
  cases textOf outcome with
  | error other =>
      show Except.error other = Except.error failure ↔ _
      simp
  | ok text =>
      show (readText read text).mapError Failure.format = _ ↔ _
      rcases readText read text with fault | value
      · simpa [Except.mapError] using (earlier fault).symm
      · simp [Except.mapError]

theorem documentOf_eq_api {read : Source → Except Fault α} :
    documentOf read outcome = .error (.api status) ↔ Refused outcome status := by
  refine (documentOf_eq_error ?_).trans textOf_eq_api
  nofun

theorem documentOf_eq_ok {read : Source → Except Fault α} {value : α} :
    documentOf read outcome = .ok value ↔
      ∃ text, Conveys outcome text ∧ readText read text = .ok value := by
  simp only [documentOf, Except.bind_eq_ok, textOf_eq_ok, Except.mapError_eq_ok]

/-- A response comes out as an API failure exactly if its code is from 400 to 599 and its body is a text,
and then with the status that it states; so none with a code from 200 to 299 does. A body that is no text
is reported as such whatever the code. With any other code a text is taken for an answer. -/
theorem api_failure_iff_refused {client : Client σ} {request : Request} {state later : σ}
    {response : Response} (sent : client.send request state = (.ok response, later)) :
    (∀ status, (client.sendForText request state).1 = .error (.api status) ↔
      400 ≤ response.status ∧ response.status ≤ 599 ∧ response.States status) ∧
    (∀ {α : Type} (read : Source → Except Fault α) (status : ApiStatus),
      (client.sendForJson read request state).1 = .error (.api status) ↔
        400 ≤ response.status ∧ response.status ≤ 599 ∧ response.States status) ∧
    ((∃ status, response.States status) ↔ ∃ text, Text.Utf8.decode response.body = .ok text) ∧
    (∀ fault, (client.sendForText request state).1 = .error (.notUtf8 fault) ↔
      Text.Utf8.decode response.body = .error fault) ∧
    (∀ {α : Type} (read : Source → Except Fault α) (fault : Text.Utf8Fault),
      (client.sendForJson read request state).1 = .error (.notUtf8 fault) ↔
        Text.Utf8.decode response.body = .error fault) ∧
    (∀ text, (client.sendForText request state).1 = .ok text ↔
      ¬(400 ≤ response.status ∧ response.status ≤ 599) ∧
        Text.Utf8.decode response.body = .ok text) ∧
    (∀ {α : Type} (read : Source → Except Fault α) (value : α),
      (client.sendForJson read request state).1 = .ok value ↔
        ∃ text, (¬(400 ≤ response.status ∧ response.status ≤ 599) ∧
          Text.Utf8.decode response.body = .ok text) ∧ readText read text = .ok value) := by
  rw [sendForText_eq]
  simp only [sendForJson_eq, sent]
  refine ⟨?_, ?_, Response.exists_states_iff, ?_, ?_, ?_, ?_⟩
  · intro status
    rw [textOf_eq_api, refused_ok_iff]
  · intro α read status
    rw [documentOf_eq_api, refused_ok_iff]
  · intro fault
    rw [textOf_eq_notUtf8]
  · intro α read fault
    refine (documentOf_eq_error ?_).trans textOf_eq_notUtf8
    nofun
  · intro text
    rw [textOf_eq_ok, conveys_ok_iff]
  · intro α read value
    simp only [documentOf_eq_ok, conveys_ok_iff]

end Client

namespace Server

def client : Client Server := { service, defaultNamespace := "default" }

def moved : ApiStatus := { status := "Failure", message := "moved", reason := "Found", code := 302 }

def movedText : String :=
  "\x7b\"status\":\"Failure\",\"message\":\"moved\",\"reason\":\"Found\",\"code\":302\x7d"

/-- A server that is overloaded, refuses in bytes that are no text, or has moved and says so in a status or
in a text. -/
def ofMishaps : Server :=
  { routes :=
      [("GET /overloaded", [.respond { status := 503, body := Text.Utf8.encode "connect error" }]),
        ("GET /binary", [.respond { status := 404, body := [0x6E, 0xFF] }]),
        ("GET /moved", [.respond { status := 302, body := Text.Utf8.encode movedText }]),
        ("GET /elsewhere", [.respond { status := 302, body := Text.Utf8.encode "\"elsewhere\"" }])] }

theorem overloaded_api_failure :
    ∃ later, client.send (.forPath "/overloaded") ofMishaps =
        (.ok { status := 503, body := Text.Utf8.encode "connect error" }, later) ∧
      (client.sendForText (.forPath "/overloaded") ofMishaps).1 =
        .error (.api
          { status := "503 Service Unavailable"
            message := "\"connect error\""
            reason := "Failed to parse error data"
            code := 503 }) := by
  let response : Response := { status := 503, body := Text.Utf8.encode "connect error" }
  have sent : (client.send (.forPath "/overloaded") ofMishaps).1 = .ok response := by decide +kernel
  have whole := Prod.ext_iff.mpr ⟨sent, Eq.refl (Prod.snd _)⟩
  have decoded : Text.Utf8.decode response.body = .ok "connect error" := by decide +kernel
  have unread : ∀ status, Client.readText ApiStatus.format.read "connect error" ≠ .ok status := by
    have malformed : Client.readText ApiStatus.format.read "connect error" = .error .malformed := by
      decide +kernel
    intro status
    rw [malformed]
    nofun
  have states := Response.States.unsaid decoded unread
  have wording : describeStatus response.status = "503 Service Unavailable" ∧
      Text.quoted "connect error" = "\"connect error\"" := by
    decide +kernel
  rw [wording.1, wording.2] at states
  exact ⟨_, whole, ((Client.api_failure_iff_refused whole).1 _).mpr ⟨by decide, by decide, states⟩⟩

/-- A refusal whose body is no text, and redirections, are no API failures, even if they state a status. -/
theorem binary_and_moved_no_api_failure :
    (client.send (.forPath "/binary") ofMishaps).1 = .ok { status := 404, body := [0x6E, 0xFF] } ∧
      (client.sendForText (.forPath "/binary") ofMishaps).1 = .error (.notUtf8 (.invalid 1 1)) ∧
      (client.send (.forPath "/moved") ofMishaps).1 =
        .ok { status := 302, body := Text.Utf8.encode movedText } ∧
      Response.States { status := 302, body := Text.Utf8.encode movedText } moved ∧
      (client.sendForText (.forPath "/moved") ofMishaps).1 = .ok movedText ∧
      (client.sendForJson ApiStatus.format.read (.forPath "/moved") ofMishaps).1 = .ok moved ∧
      (client.send (.forPath "/elsewhere") ofMishaps).1 =
        .ok { status := 302, body := Text.Utf8.encode "\"elsewhere\"" } ∧
      (client.sendForText (.forPath "/elsewhere") ofMishaps).1 = .ok "\"elsewhere\"" ∧
      (client.sendForJson Format.text.read (.forPath "/elsewhere") ofMishaps).1 = .ok "elsewhere" := by
  have decoded : Text.Utf8.decode (Text.Utf8.encode movedText) = .ok movedText := by decide +kernel
  have read : Client.readText ApiStatus.format.read movedText = .ok moved := by decide +kernel
  refine ⟨?_, ?_, ?_, .said decoded read, ?_, ?_, ?_, ?_, ?_⟩
  all_goals decide +kernel

end Server

end ApiDiscovery
