import ApiDiscovery.Proofs.Addressing
import ApiDiscovery.Proofs.Agenda
import ApiDiscovery.Proofs.Groups
import ApiDiscovery.Proofs.Tour
import ApiDiscovery.Proofs.WrittenVersion

/-!
The requests that discovery sends to a server. A listing sends one request for each endpoint of the groups
and one for each declared version, in this order, and none after the first that fails.
-/

namespace ApiDiscovery

inductive Errand where
  | core
  | named
  | page (home : GroupVersion)
  deriving DecidableEq, Repr

namespace Errand

def path : Errand → String
  | .core => "/api"
  | .named => "/apis"
  | .page home =>
      if home.group = "" then "/api/" ++ home.version else "/apis/" ++ home.group ++ "/" ++ home.version

def request (errand : Errand) : Request := .forPath errand.path

def folder (home : GroupVersion) : String := if home.group = "" then "/api/" else "/apis/"

theorem path_page (home : GroupVersion) : (page home).path = folder home ++ home.apiVersion := by
  rw [path, folder, GroupVersion.apiVersion]
  split
  · rfl
  · simp [String.append_assoc]

theorem folder_rooted (home : GroupVersion) : ∃ rest, (folder home).toList = '/' :: rest := by
  rw [folder]
  split <;> exact ⟨_, rfl⟩

theorem path_page_rooted (home : GroupVersion) : ∃ rest, (page home).path.toList = '/' :: rest := by
  obtain ⟨rest, rooted⟩ := folder_rooted home
  rw [path_page, String.toList_append, rooted]
  exact ⟨_, rfl⟩

end Errand

structure Letter where
  errand : Errand
  outcome : Except Failure Response

namespace Letter

def request (letter : Letter) : Request := letter.errand.request

def pageOf (outcome : Except Failure Response) : Except Failure ResourceList :=
  Client.documentOf ResourceList.format.read outcome

def failure? : Letter → Option Failure
  | { errand := .core, outcome } =>
      ApiDiscovery.failure? (Client.tolerated (Client.documentOf CoreVersions.format.read outcome))
  | { errand := .named, outcome } =>
      ApiDiscovery.failure? (Client.tolerated (Client.documentOf GroupList.format.read outcome))
  | { errand := .page _, outcome } => ApiDiscovery.failure? (pageOf outcome)

end Letter

/-- The declared version is the one that its group and its version make up, and its page has an address. -/
structure Stop.Addressable (stop : Stop) : Prop where
  written : stop.served.groupVersion = stop.home.apiVersion
  separable : stop.home.Separable
  groupPlain : Plain stop.home.group
  versionPlain : Plain stop.home.version
  short : Text.byteLength (Errand.page stop.home).path.toList ≤ Uri.maximalLength

theorem Request.get_of_parse {path : String} (read : Uri.parse path = .ok (.path { path, query := none })) :
    Request.get path = .ok (.forPath path) := by
  have method : ¬(("GET" : String) = "" || !"GET".toList.all isMethodCharacter) = true := by decide +kernel
  rw [get, build, if_neg method, read]
  rfl

theorem Stop.Addressable.get_page {stop : Stop} (addressable : stop.Addressable) :
    Request.get (Errand.page stop.home).path = .ok (Errand.page stop.home).request := by
  obtain ⟨rest, rooted⟩ := Errand.path_page_rooted stop.home
  refine Request.get_of_parse (Uri.parse_of_plain rooted ?_ addressable.short)
  have core : Plain "/api/" := by decide
  have named : Plain "/apis/" := by decide
  have slash : Plain "/" := by decide
  rw [Errand.path]
  split
  · exact plain_append.mpr ⟨core, addressable.versionPlain⟩
  · simp only [plain_append]
    exact ⟨⟨⟨named, addressable.groupPlain⟩, slash⟩, addressable.versionPlain⟩

namespace Client

variable {σ α : Type}

theorem resources_of_invalid (client : Client σ) {text : String} {error : GroupVersionError}
    (invalid : GroupVersion.parse text = .error error) (state : σ) :
    client.resources text state = (.error (.invalidGroupVersion error.text), state) := by
  rw [resources, invalid, Exchange.lift_error, Exchange.fail_bind]
  rfl

theorem resources_of_parse (client : Client σ) {text : String} {groupVersion : GroupVersion}
    (valid : GroupVersion.parse text = .ok groupVersion) :
    client.resources text =
      labelled groupVersion <$> client.get ResourceList.format (Errand.page groupVersion).path := by
  rw [resources, valid, Exchange.lift_ok, pure_bind, Errand.path_page, Errand.folder]
  by_cases core : groupVersion.group = ""
  · simp only [core, ↓reduceIte, bind_pure_comp, coreResources, GroupVersion.apiVersion]
  · simp only [core, ↓reduceIte, bind_pure_comp, namedGroupResources]

theorem resources_of_addressable (client : Client σ) {stop : Stop} (addressable : stop.Addressable)
    (state : σ) :
    client.resources stop.served.groupVersion state =
      (labelled stop.home <$> Letter.pageOf (client.send (Errand.page stop.home).request state).1,
        (client.send (Errand.page stop.home).request state).2) := by
  have valid := GroupVersion.parse_apiVersion addressable.separable
  rw [addressable.written, resources_of_parse client valid, Exchange.map_apply,
    get_eq client _ addressable.get_page, Letter.pageOf]
  cases documentOf ResourceList.format.read (client.send (Errand.page stop.home).request state).1 <;> rfl

inductive Correspondence (client : Client σ) : σ → List Letter → σ → Prop
  | done (state : σ) : Correspondence client state [] state
  | letter {letter : Letter} {letters : List Letter} {state next last : σ}
      (sent : client.send letter.request state = (letter.outcome, next))
      (rest : Correspondence client next letters last) :
      Correspondence client state (letter :: letters) last

theorem Correspondence.append {client : Client σ} {state middle last : σ} {first second : List Letter}
    (earlier : client.Correspondence state first middle)
    (later : client.Correspondence middle second last) :
    client.Correspondence state (first ++ second) last := by
  induction earlier with
  | done _ => exact later
  | letter sent _ ih => exact .letter sent (ih later)

end Client

def Labelled.filing {σ : Type} (labelled : Labelled σ) (sent : List Request) :
    Labelled (σ × List Request) where
  state := (labelled.state, sent)
  next := labelled.next

namespace Client

variable {σ α : Type}

/-- What is asked through the client has this outcome, whether or not the requests are written down; these
are the letters, and their requests are all that is written down. -/
structure Sends (client : Client σ) (ask : (τ : Type) → Provider τ → Exchange τ α) (start : Labelled σ)
    (letters : List Letter) (outcome : Except Failure α) (last : Labelled σ) : Prop where
  asked : ask _ client.origin.provider start = (outcome, last)
  recorded : ∀ earlier, ask _ client.recorded.origin.provider (start.filing earlier) =
    (outcome, last.filing (earlier ++ letters.map Letter.request))
  answered : client.Correspondence start.state letters last.state

theorem sends_of_answer {client : Client σ} (query : Query) {start : Labelled σ} {later : σ}
    {letters : List Letter} {value : Except Failure query.Answer}
    (plain : client.origin.answer query start.state = (value, later))
    (recorded : ∀ earlier, client.recorded.origin.answer query (start.state, earlier) =
      (value, (later, earlier ++ letters.map Letter.request)))
    (answered : client.Correspondence start.state letters later) :
    ∃ outcome last, client.Sends (fun _ provider => provider.ask query) start letters outcome last ∧
      Shared.value <$> outcome = value := by
  cases value with
  | ok answer =>
      refine ⟨.ok { label := start.next, value := answer }, { state := later, next := start.next + 1 }, ?_, rfl⟩
      exact
        { asked := by simp only [Origin.provider, plain]
          recorded := fun earlier => by simp only [Origin.provider, Labelled.filing, recorded earlier]
          answered }
  | error failure =>
      refine ⟨.error failure, { start with state := later }, ?_, rfl⟩
      exact
        { asked := by simp only [Origin.provider, plain]
          recorded := fun earlier => by simp only [Origin.provider, Labelled.filing, recorded earlier]
          answered }

theorem resources_send (client : Client σ) {stop : Stop} (addressable : stop.Addressable)
    (start : Labelled σ) :
    ∃ letter found last,
      client.Sends (fun _ provider => provider.resources stop.served.groupVersion) start [letter] found last ∧
      letter.errand = .page stop.home ∧ letter.failure? = failure? found := by
  let letter : Letter :=
    { errand := .page stop.home
      outcome := (client.send (Errand.page stop.home).request start.state).1 }
  have plain := resources_of_addressable client addressable start.state
  have recorded : ∀ earlier, client.recorded.resources stop.served.groupVersion (start.state, earlier) =
      (labelled stop.home <$> Letter.pageOf letter.outcome,
        ((client.send (Errand.page stop.home).request start.state).2,
          earlier ++ [letter].map Letter.request)) :=
    fun earlier => resources_of_addressable client.recorded addressable (start.state, earlier)
  have answered : client.Correspondence start.state [letter] _ := .letter rfl (.done _)
  obtain ⟨found, last, sends, valueEq⟩ :=
    sends_of_answer (.resources stop.served.groupVersion) plain recorded answered
  refine ⟨letter, found, last, sends, rfl, ?_⟩
  calc
    letter.failure? = failure? (labelled stop.home <$> Letter.pageOf letter.outcome) :=
      (failure?_map _ _).symm
    _ = failure? (Shared.value <$> found) := congrArg failure? valueEq.symm
    _ = failure? found := failure?_map _ _

theorem tour_sends (client : Client σ) {stops : List Stop}
    (addressable : ∀ stop ∈ stops, stop.Addressable) (start : Labelled σ) :
    ∃ letters visits last,
      client.Sends (fun _ provider => provider.tour stops) start letters visits last ∧
      Follows Letter.errand Letter.failure? (stops.map fun stop => .page stop.home) letters
        (failure? visits) := by
  induction stops generalizing start with
  | nil =>
      refine ⟨[], .ok [], start, ?_, .done⟩
      exact
        { asked := rfl
          recorded := fun earlier => by
            rw [List.map_nil, List.append_nil]
            rfl
          answered := .done _ }
  | cons stop stops ih =>
      obtain ⟨letter, found, middle, reads, errand, fails⟩ :=
        resources_send client (addressable stop List.mem_cons_self) start
      rw [List.map_cons, ← errand]
      cases found with
      | error failure =>
          refine ⟨[letter], .error failure, middle, ?_, .stop fails _⟩
          exact
            { asked := Provider.tour_cons_of_error reads.asked stops
              recorded := fun earlier => Provider.tour_cons_of_error (reads.recorded earlier) stops
              answered := reads.answered }
      | ok list =>
          obtain ⟨letters, visits, last, goesOn, follows⟩ :=
            ih (fun other member => addressable other (List.mem_cons_of_mem stop member)) middle
          refine ⟨letter :: letters, ({ stop, found := list } :: ·) <$> visits, last, ?_, ?_⟩
          · exact
              { asked := Provider.tour_cons_of_ok reads.asked goesOn.asked
                recorded := fun earlier => by
                  have rest := goesOn.recorded (earlier ++ [letter.request])
                  rw [List.append_assoc] at rest
                  exact Provider.tour_cons_of_ok (reads.recorded earlier) rest
                answered := reads.answered.append goesOn.answered }
          · rw [failure?_map]
            exact .next fails follows

def declares (client : Client σ) (state : σ) : List Stop :=
  match (client.groups state).1 with
  | .ok list => list.stops
  | .error _ => []

theorem groups_correspond (client : Client σ) (state : σ) :
    ∃ letters value last, client.groups state = (value, last) ∧
      (∀ earlier, client.recorded.groups (state, earlier) =
        (value, (last, earlier ++ letters.map Letter.request))) ∧
      client.Correspondence state letters last ∧
      Follows Letter.errand Letter.failure? [Errand.core, Errand.named] letters (failure? value) := by
  let core : Letter := { errand := .core, outcome := (client.send coreRequest state).1 }
  let between := (client.send coreRequest state).2
  let named : Letter := { errand := .named, outcome := (client.send namedRequest between).1 }
  let later := (client.send namedRequest between).2
  have coreRecorded : ∀ earlier, client.recorded.send coreRequest (state, earlier) =
      (core.outcome, (between, earlier ++ [coreRequest])) := fun _ => rfl
  cases settled : tolerated (documentOf CoreVersions.format.read core.outcome) with
  | error failure =>
      have failed : core.failure? = some failure := congrArg failure? settled
      exact ⟨[core], .error failure, between, groups_of_error rfl settled,
        fun earlier => groups_of_error (coreRecorded earlier) settled, .letter rfl (.done _),
        .stop failed [Errand.named]⟩
  | ok versions =>
      have fine : core.failure? = none := congrArg failure? settled
      have namedRecorded : ∀ earlier, client.recorded.send namedRequest (between, earlier ++ [coreRequest]) =
          (named.outcome, (later, earlier ++ [core, named].map Letter.request)) := by
        intro earlier
        rw [recorded_send, List.append_assoc]
        rfl
      refine ⟨[core, named], _, later, groups_of_ok rfl settled rfl,
        fun earlier => groups_of_ok (coreRecorded earlier) settled (namedRecorded earlier),
        .letter rfl (.letter rfl (.done _)), .next fine ?_⟩
      rw [failure?_map]
      show Follows Letter.errand Letter.failure? [named.errand] [named] named.failure?
      cases outcome : named.failure? with
      | none => exact .next outcome .done
      | some failure => exact .stop outcome []

theorem groups_send (client : Client σ) (start : Labelled σ) :
    ∃ letters groups last,
      client.Sends (fun _ provider => provider.groups) start letters groups last ∧
      Follows Letter.errand Letter.failure? [.core, .named] letters (failure? groups) ∧
      ∀ list, groups = .ok list → client.declares start.state = list.value.stops := by
  obtain ⟨letters, value, later, plain, recorded, answered, follows⟩ := client.groups_correspond start.state
  obtain ⟨groups, last, sends, valueEq⟩ := sends_of_answer .groups plain recorded answered
  have declared : ∀ list, groups = .ok list → client.declares start.state = list.value.stops := by
    rintro list rfl
    have answer : value = .ok list.value := valueEq.symm
    rw [declares, plain, answer]
  have same : failure? value = failure? groups :=
    (congrArg failure? valueEq.symm).trans (failure?_map Shared.value groups)
  exact ⟨letters, groups, last, sends, same ▸ follows, declared⟩

def itinerary (client : Client σ) (state : σ) : List Errand :=
  .core :: .named :: (client.declares state).map fun stop => .page stop.home

theorem list_sends (client : Client σ) {start : Labelled σ}
    (addressable : ∀ stop ∈ client.declares start.state, stop.Addressable) (listing : Listing) :
    ∃ letters outcome last,
      client.Sends (fun _ provider => provider.list listing) start letters outcome last ∧
      Follows Letter.errand Letter.failure? (client.itinerary start.state) letters (failure? outcome) := by
  obtain ⟨letters, groups, middle, asks, follows, declared⟩ := groups_send client start
  cases groups with
  | error failure =>
      refine ⟨letters, .error failure, middle, ?_, follows.extend _⟩
      exact
        { asked := Provider.list_of_error listing asks.asked
          recorded := fun earlier => Provider.list_of_error listing (asks.recorded earlier)
          answered := asks.answered }
  | ok list =>
      rw [declared list rfl] at addressable
      obtain ⟨others, visits, last, goesOn, rest⟩ := tour_sends client addressable middle
      refine ⟨letters ++ others, listing.ofVisits <$> visits, last, ?_, ?_⟩
      · exact
          { asked := Provider.list_of_ok listing asks.asked goesOn.asked
            recorded := fun earlier => by
              have toured := goesOn.recorded (earlier ++ letters.map Letter.request)
              rw [List.append_assoc, ← List.map_append] at toured
              exact Provider.list_of_ok listing (asks.recorded earlier) toured
            answered := asks.answered.append goesOn.answered }
      · rw [failure?_map, itinerary, declared list rfl]
        exact follows.append rest

def sentForResources (client : Client σ) (apiVersion : String) (state : σ) : List Request :=
  (client.recorded.resources apiVersion (state, [])).2.2

theorem sentForResources_of_parse (client : Client σ) {text : String} {groupVersion : GroupVersion}
    (valid : GroupVersion.parse text = .ok groupVersion) (state : σ) :
    client.sentForResources text state = (Request.get (Errand.page groupVersion).path).toOption.toList := by
  rw [sentForResources, resources_of_parse _ valid, Exchange.map_state, get]
  exact sent_of_built _ state
    fun request => client.sendForJson_recorded ResourceList.format.read request state []

theorem request_under_folder {groupVersion : GroupVersion} {request : Request}
    (built : Request.get (Errand.page groupVersion).path = .ok request) :
    request.method = "GET" ∧ (Errand.folder groupVersion).toList <+: request.uri.printedPath.toList := by
  refine ⟨Request.method_of_build built, ?_⟩
  obtain ⟨rest, rooted⟩ := Errand.path_page_rooted groupVersion
  have unbroken : Unbroken (Errand.folder groupVersion) := by
    rw [Errand.folder]
    split <;> decide
  have goesOn : ∀ character ∈ (Errand.folder groupVersion).toList,
      (!Target.endsPath character) = true := by
    intro character member
    rw [unbroken character member]
    rfl
  rw [(Uri.path_of_parse rooted (Request.uri_of_build built)).1, Errand.path_page, String.toList_ofList,
    String.toList_append, List.takeWhile_append_of_pos goesOn]
  exact List.prefix_append _ _

/-- The requests of a listing, written down in order, are those of its itinerary up to the first one that
fails, and the failure of the listing is that of this request. A text that is no group version makes no
request; any other makes at most one, for a page of the group version that it is. -/
theorem discovery_requests (client : Client σ) :
    (∀ (listing : Listing) (start : Labelled σ),
      (∀ stop ∈ client.declares start.state, stop.Addressable) →
      ∃ letters outcome last,
        client.Sends (fun _ provider => provider.list listing) start letters outcome last ∧
        Follows Letter.errand Letter.failure? (client.itinerary start.state) letters
          (failure? outcome)) ∧
    ∀ (text : String) (state : σ),
      (∀ error, GroupVersion.parse text = .error error →
        client.resources text state = (.error (.invalidGroupVersion text), state) ∧
          client.sentForResources text state = []) ∧
      ∀ groupVersion, GroupVersion.parse text = .ok groupVersion →
        client.sentForResources text state =
            (Request.get (Errand.page groupVersion).path).toOption.toList ∧
          (client.sentForResources text state).length ≤ 1 ∧
          ∀ request ∈ client.sentForResources text state,
            request.method = "GET" ∧
              (Errand.folder groupVersion).toList <+: request.uri.printedPath.toList := by
  constructor
  · intro listing start addressable
    exact list_sends client addressable listing
  · intro text state
    constructor
    · intro error invalid
      have quoted : error.text = text := GroupVersion.text_of_parse_error invalid
      constructor
      · rw [resources_of_invalid client invalid, quoted]
      · rw [sentForResources, resources_of_invalid client.recorded invalid]
    · intro groupVersion valid
      rw [sentForResources_of_parse client valid]
      refine ⟨rfl, ?_⟩
      cases built : Request.get (Errand.page groupVersion).path with
      | error error => simp [Except.toOption]
      | ok request => simpa [Except.toOption] using request_under_folder built

end Client

namespace Server

def coreV1 : Json := .record [("versions", .list [.text "v1"])]

def appsV1 : Json :=
  .record
    [("groups",
      .list
        [.record
          [("name", .text "apps"),
            ("versions",
              .list [.record [("groupVersion", .text "apps/v1"), ("version", .text "v1")]])]])]

def pageless : Server :=
  { routes :=
      [("GET /api", [.respond (responds 200 coreV1)]), ("GET /apis", [.respond (responds 200 appsV1)])] }

theorem pageless_requests :
    client.itinerary pageless =
      [.core, .named, .page { group := "", version := "v1" }, .page { group := "apps", version := "v1" }] ∧
    ∃ letters outcome last,
      client.Sends (fun _ provider => provider.list .preferred) { state := pageless, next := 0 }
        letters outcome last ∧
      Follows Letter.errand Letter.failure? (client.itinerary pageless) letters (failure? outcome) ∧
      letters.map Letter.request = [.forPath "/api", .forPath "/apis", .forPath "/api/v1"] := by
  let core : Stop :=
    { group := Client.coreGroup { versions := ["v1"] }
      served := { groupVersion := "v1", version := "v1" } }
  let apps : Stop :=
    { group :=
        { name := "apps"
          preferred := none
          versions := [{ groupVersion := "apps/v1", version := "v1" }] }
      served := { groupVersion := "apps/v1", version := "v1" } }
  have declared : client.declares pageless = [core, apps] := by
    have listed : (client.groups pageless).1 = .ok { groups := [core.group, apps.group] } := by
      decide +kernel
    rw [Client.declares, listed]
    rfl
  have addressable : ∀ stop ∈ client.declares pageless, stop.Addressable := by
    rw [declared]
    intro stop member
    simp only [List.mem_cons, List.not_mem_nil, or_false] at member
    rcases member with rfl | rfl <;>
      exact
        { written := by decide +kernel
          separable := ⟨by decide +kernel, by decide +kernel, by decide +kernel⟩
          groupPlain := by decide +kernel
          versionPlain := by decide +kernel
          short := by decide +kernel }
  have logged : (client.recorded.origin.provider.list .preferred
      (Labelled.filing { state := pageless, next := 0 } [])).2.state.2 =
        [.forPath "/api", .forPath "/apis", .forPath "/api/v1"] := by
    decide +kernel
  obtain ⟨letters, outcome, last, sends, follows⟩ :=
    (Client.discovery_requests client).1 .preferred { state := pageless, next := 0 } addressable
  refine ⟨?_, letters, outcome, last, sends, follows, ?_⟩
  · rw [Client.itinerary, declared]
    rfl
  · rw [sends.recorded []] at logged
    exact logged

end Server

end ApiDiscovery
