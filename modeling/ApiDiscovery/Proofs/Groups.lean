import ApiDiscovery.Json.Compact
import ApiDiscovery.Proofs.Requests
import ApiDiscovery.Proofs.Responses

/-!
The groups of a server, put together from its two endpoints. An endpoint that is not there, or must not be
read, adds nothing; with any other failure there are no groups.
-/

namespace ApiDiscovery

namespace Client

variable {σ α : Type}

/-- What an endpoint settles for: the document it conveys, or none if it is not there or forbidden. -/
inductive Settles (read : Source → Except Fault α) (outcome : Except Failure Response) :
    Option α → Prop
  | document {text : String} {value : α} (conveys : Conveys outcome text)
      (readable : readText read text = .ok value) : Settles read outcome (some value)
  | withheld {status : ApiStatus} (refused : Refused outcome status)
      (code : status.code = 404 ∨ status.code = 403) : Settles read outcome none

def tolerated : Except Failure α → Except Failure (Option α)
  | .ok value => .ok (some value)
  | .error failure =>
      if failure.isNotFound || failure.isForbidden then .ok none else .error failure

theorem tolerant_apply (exchange : Exchange σ α) (state : σ) :
    tolerant exchange state = (tolerated (exchange state).1, (exchange state).2) := by
  rw [tolerant]
  rcases exchange state with ⟨failure | value, later⟩
  · by_cases missing : (failure.isNotFound || failure.isForbidden) = true
    · simp [tolerated, missing]
    · simp [tolerated, missing]
  · rfl

theorem tolerable_iff {failure : Failure} :
    (failure.isNotFound || failure.isForbidden) = true ↔
      ∃ status, failure = .api status ∧ (status.code = 404 ∨ status.code = 403) := by
  cases failure <;> simp [Failure.isNotFound, Failure.isForbidden]

theorem settles_iff {read : Source → Except Fault α} {outcome : Except Failure Response}
    {document : Option α} :
    Settles read outcome document ↔ tolerated (documentOf read outcome) = .ok document := by
  constructor
  · intro settles
    cases settles with
    | document conveys readable =>
        rw [documentOf_eq_ok.mpr ⟨_, conveys, readable⟩]
        rfl
    | withheld refused code =>
        rw [documentOf_eq_api.mpr refused, tolerated, if_pos (tolerable_iff.mpr ⟨_, rfl, code⟩)]
  · intro taken
    cases outcomeEq : documentOf read outcome with
    | ok value =>
        rw [outcomeEq] at taken
        cases taken
        obtain ⟨text, conveys, readable⟩ := documentOf_eq_ok.mp outcomeEq
        exact .document conveys readable
    | error failure =>
        rw [outcomeEq, tolerated] at taken
        split at taken
        · rename_i tolerable
          cases taken
          obtain ⟨status, rfl, code⟩ := tolerable_iff.mp tolerable
          exact .withheld (documentOf_eq_api.mp outcomeEq) code
        · cases taken

theorem tolerated_of_unsettled {read : Source → Except Fault α} {outcome : Except Failure Response}
    (unsettled : ∀ document, ¬Settles read outcome document) :
    ∃ failure, documentOf read outcome = .error failure ∧
      tolerated (documentOf read outcome) = .error failure := by
  have stays : ∀ document, tolerated (documentOf read outcome) ≠ .ok document :=
    fun document settled => unsettled document (settles_iff.mpr settled)
  cases came : documentOf read outcome with
  | ok value =>
      rw [came] at stays
      exact absurd rfl (stays (some value))
  | error failure =>
      rw [came, tolerated] at stays
      refine ⟨failure, rfl, ?_⟩
      rw [tolerated]
      split
      · rename_i tolerable
        rw [if_pos tolerable] at stays
        exact absurd rfl (stays none)
      · rfl

theorem recorded_send (client : Client σ) (request : Request) (state : σ) (sent : List Request) :
    client.recorded.send request (state, sent) =
      ((client.send request state).1, ((client.send request state).2, sent ++ [request])) :=
  rfl

def coreRequest : Request := .forPath "/api"

def namedRequest : Request := .forPath "/apis"

theorem coreVersions_eq (client : Client σ) (state : σ) :
    client.coreVersions state =
      (documentOf CoreVersions.format.read (client.send coreRequest state).1,
        (client.send coreRequest state).2) := by
  have built : Request.get "/api" = .ok coreRequest := by decide +kernel
  rw [coreVersions, get_eq client _ built]

theorem namedGroups_eq (client : Client σ) (state : σ) :
    client.namedGroups state =
      (documentOf GroupList.format.read (client.send namedRequest state).1,
        (client.send namedRequest state).2) := by
  have built : Request.get "/apis" = .ok namedRequest := by decide +kernel
  rw [namedGroups, get_eq client _ built]

theorem groups_eq (client : Client σ) (state : σ) :
    client.groups state =
      let core := client.send coreRequest state
      match tolerated (documentOf CoreVersions.format.read core.1) with
      | .error failure => (.error failure, core.2)
      | .ok versions =>
          let named := client.send namedRequest core.2
          (allGroups versions <$> tolerated (documentOf GroupList.format.read named.1), named.2) := by
  simp only [groups, Exchange.bind_apply, tolerant_apply, coreVersions_eq, namedGroups_eq]
  cases tolerated (documentOf CoreVersions.format.read (client.send coreRequest state).1) with
  | error failure => rfl
  | ok versions =>
      dsimp only
      cases tolerated (documentOf GroupList.format.read
        (client.send namedRequest (client.send coreRequest state).2).1) <;> rfl

theorem groups_of_error {client : Client σ} {state between : σ} {outcome : Except Failure Response}
    {failure : Failure} (sent : client.send coreRequest state = (outcome, between))
    (failed : tolerated (documentOf CoreVersions.format.read outcome) = .error failure) :
    client.groups state = (.error failure, between) := by
  simp only [groups_eq, sent, failed]

theorem groups_of_ok {client : Client σ} {state between last : σ} {core named : Except Failure Response}
    {versions : Option CoreVersions} (sent : client.send coreRequest state = (core, between))
    (settled : tolerated (documentOf CoreVersions.format.read core) = .ok versions)
    (next : client.send namedRequest between = (named, last)) :
    client.groups state =
      (allGroups versions <$> tolerated (documentOf GroupList.format.read named), last) := by
  simp only [groups_eq, sent, settled, next]

def coreGroups : List String → List Group
  | [] => []
  | first :: rest =>
      [{ name := ""
         preferred := some { groupVersion := first, version := first }
         addresses := none
         versions := (first :: rest).map fun version => { groupVersion := version, version } }]

theorem groups_allGroups (core : Option CoreVersions) (named : Option GroupList) :
    (allGroups core named).groups =
      coreGroups ((core.map CoreVersions.versions).getD []) ++ (named.map GroupList.groups).getD [] := by
  have others : ∀ named : Option GroupList,
      (named.getD {}).groups = (named.map GroupList.groups).getD [] := fun named => by cases named <;> rfl
  cases core with
  | none => exact others named
  | some core =>
      obtain ⟨addresses, versions⟩ := core
      cases versions with
      | nil => exact others named
      | cons first rest => exact congrArg (_ :: ·) (others named)

/-- There are groups exactly if both endpoints settle for something. They are the core group, if there
is a version of it, and then the groups of the other endpoint as they are. Otherwise the failure is that
of the first endpoint that settles for nothing, and nothing is requested after it. -/
theorem groups_of_endpoints (client : Client σ) (state : σ) :
    let core := client.send coreRequest state
    let named := client.send namedRequest core.2
    ((∃ list, (client.groups state).1 = .ok list) ↔
      (∃ versions, Settles CoreVersions.format.read core.1 versions) ∧
        ∃ groups, Settles GroupList.format.read named.1 groups) ∧
    (∀ versions groups, Settles CoreVersions.format.read core.1 versions →
      Settles GroupList.format.read named.1 groups →
      ∃ list, client.groups state = (.ok list, named.2) ∧
        list.groups = coreGroups ((versions.map CoreVersions.versions).getD []) ++
          (groups.map GroupList.groups).getD []) ∧
    ((∀ versions, ¬Settles CoreVersions.format.read core.1 versions) →
      (client.recorded.groups (state, [])).2.2 = [coreRequest] ∧
        ∃ failure, client.coreVersions state = (.error failure, core.2) ∧
          client.groups state = (.error failure, core.2)) ∧
    (∀ versions, Settles CoreVersions.format.read core.1 versions →
      (client.recorded.groups (state, [])).2.2 = [coreRequest, namedRequest] ∧
        ((∀ groups, ¬Settles GroupList.format.read named.1 groups) →
          ∃ failure, client.namedGroups core.2 = (.error failure, named.2) ∧
            client.groups state = (.error failure, named.2))) := by
  intro core named
  have coreSent : client.send coreRequest state = (core.1, core.2) := rfl
  have namedSent : client.send namedRequest core.2 = (named.1, named.2) := rfl
  have coreRecorded : client.recorded.send coreRequest (state, []) = (core.1, (core.2, [coreRequest])) :=
    rfl
  have merged : ∀ versions groups, Settles CoreVersions.format.read core.1 versions →
      Settles GroupList.format.read named.1 groups →
      client.groups state = (.ok (allGroups versions groups), named.2) := by
    intro versions groups first second
    rw [groups_of_ok coreSent (settles_iff.mp first) namedSent, settles_iff.mp second]
    rfl
  have coreFails : (∀ versions, ¬Settles CoreVersions.format.read core.1 versions) →
      (client.recorded.groups (state, [])).2.2 = [coreRequest] ∧
        ∃ failure, client.coreVersions state = (.error failure, core.2) ∧
          client.groups state = (.error failure, core.2) := by
    intro unsettled
    obtain ⟨failure, came, stays⟩ := tolerated_of_unsettled unsettled
    refine ⟨?_, failure, by rw [coreVersions_eq, came], groups_of_error coreSent stays⟩
    rw [groups_of_error coreRecorded stays]
  have namedFails : ∀ versions, Settles CoreVersions.format.read core.1 versions →
      (∀ groups, ¬Settles GroupList.format.read named.1 groups) →
      ∃ failure, client.namedGroups core.2 = (.error failure, named.2) ∧
        client.groups state = (.error failure, named.2) := by
    intro versions first unsettled
    obtain ⟨failure, came, stays⟩ := tolerated_of_unsettled unsettled
    refine ⟨failure, by rw [namedGroups_eq, came], ?_⟩
    rw [groups_of_ok coreSent (settles_iff.mp first) namedSent, stays]
    rfl
  refine ⟨⟨?_, ?_⟩, ?_, coreFails, ?_⟩
  · rintro ⟨list, listed⟩
    have first : ∃ versions, Settles CoreVersions.format.read core.1 versions := by
      by_contra none
      obtain ⟨_, failure, _, failed⟩ := coreFails (not_exists.mp none)
      rw [failed] at listed
      cases listed
    obtain ⟨versions, settled⟩ := first
    refine ⟨⟨versions, settled⟩, ?_⟩
    by_contra none
    obtain ⟨failure, _, failed⟩ := namedFails versions settled (not_exists.mp none)
    rw [failed] at listed
    cases listed
  · rintro ⟨⟨versions, first⟩, groups, second⟩
    exact ⟨_, by rw [merged versions groups first second]⟩
  · intro versions groups first second
    exact ⟨_, merged versions groups first second, groups_allGroups versions groups⟩
  · intro versions first
    refine ⟨?_, namedFails versions first⟩
    rw [groups_of_ok coreRecorded (settles_iff.mp first) rfl]
    rfl

end Client

namespace Server

def responds (status : UInt16) (document : Json) : Response :=
  { status, body := Text.Utf8.encode document.compact }

def twoVersions : Json := .record [("versions", .list [.text "v1", .text "v2"])]

def statedMissing : Json :=
  .record [("status", .text "Failure"), ("code", .number (.integer 404))]

def coreAlone : Server :=
  { routes :=
      [("GET /api", [.respond (responds 200 twoVersions)]),
        ("GET /apis", [.respond (responds 500 statedMissing)])] }

theorem coreAlone_groups :
    ∃ list last, client.groups coreAlone = (.ok list, last) ∧
      list.groups =
        [{ name := ""
           preferred := some { groupVersion := "v1", version := "v1" }
           versions :=
             [{ groupVersion := "v1", version := "v1" }, { groupVersion := "v2", version := "v2" }] }] := by
  have core : (client.send Client.coreRequest coreAlone).1 = .ok (responds 200 twoVersions) := by
    decide +kernel
  have named : (client.send Client.namedRequest (client.send Client.coreRequest coreAlone).2).1 =
      .ok (responds 500 statedMissing) := by
    decide +kernel
  have answered : Client.Settles CoreVersions.format.read (client.send Client.coreRequest coreAlone).1
      (some { versions := ["v1", "v2"] }) := by
    have decoded : Text.Utf8.decode (responds 200 twoVersions).body = .ok twoVersions.compact := by
      decide +kernel
    rw [core]
    exact .document (.text (by decide) decoded) (by decide +kernel)
  have withheld : Client.Settles GroupList.format.read
      (client.send Client.namedRequest (client.send Client.coreRequest coreAlone).2).1 none := by
    let status : ApiStatus := { status := "Failure", message := "", reason := "", code := 404 }
    have decoded : Text.Utf8.decode (responds 500 statedMissing).body = .ok statedMissing.compact := by
      decide +kernel
    have read : Client.readText ApiStatus.format.read statedMissing.compact = .ok status := by
      decide +kernel
    rw [named]
    exact .withheld (.stated (by decide) (by decide) (.said decoded read)) (Or.inl rfl)
  obtain ⟨list, listed, groups⟩ :=
    (Client.groups_of_endpoints client coreAlone).2.1 _ _ answered withheld
  exact ⟨list, _, listed, groups⟩

end Server

end ApiDiscovery
