import ApiDiscovery.Proofs.Memoization
import ApiDiscovery.Proofs.Responses
import ApiDiscovery.Proofs.WrittenVersion

/-!
Which group version a cached declaration was fetched for. Declarations are kept under written group versions,
so that group versions which are written alike have one declaration between them. Those whose version is one
segment have their own.
-/

namespace ApiDiscovery

/-- The declaration was fetched for the group version, and the cache was not told to forget since then. -/
def Declared (history : List Event) (asked : GroupVersion) (answer : Shared SwaggerDeclaration) : Prop :=
  ∃ before event since, history = before ++ event :: since ∧ Event.forget ∉ since ∧
    ({ query := .declaration asked, outcome := .ok answer } : Call) ∈ event.calls

namespace Call

theorem answered_declaration_iff {call : Call} {written : String}
    {answer : Shared (Key.declaration written).Answer} :
    call.Answered (.declaration written) answer ↔
      ∃ asked : GroupVersion, asked.apiVersion = written ∧
        call = { query := .declaration asked, outcome := .ok answer } := by
  constructor
  · intro answered
    have key := answered.key_eq
    obtain ⟨query, outcome⟩ := call
    cases query with
    | groups | resources | version | schema => cases key
    | declaration asked =>
        cases key
        cases outcome with
        | error failure => exact absurd answered not_answered_error
        | ok fetched =>
            have same := answered_ok_iff.mp answered
            exact ⟨asked, rfl, by rw [same]⟩
  · rintro ⟨asked, rfl, rfl⟩
    exact .intro (.declaration asked) answer

end Call

theorem remembered_declaration_iff {history : List Event} {written : String}
    {answer : Shared (Key.declaration written).Answer} :
    Remembered history (.declaration written) answer ↔
      ∃ asked : GroupVersion, asked.apiVersion = written ∧ Declared history asked answer := by
  constructor
  · rintro ⟨before, event, since, split, unforgotten, call, member, answered⟩
    obtain ⟨asked, alike, rfl⟩ := Call.answered_declaration_iff.mp answered
    exact ⟨asked, alike, before, event, since, split, unforgotten, member⟩
  · rintro ⟨asked, alike, before, event, since, split, unforgotten, member⟩
    exact ⟨before, event, since, split, unforgotten, _, member,
      Call.answered_declaration_iff.mpr ⟨asked, alike, rfl⟩⟩

theorem Settled.declaration_iff {history : List Event} {groupVersion : GroupVersion} {calls : List Call}
    {reply : Except Failure (Shared SwaggerDeclaration)}
    (settled : Settled history (.read (.declaration groupVersion) calls reply)) :
    (calls = [] ↔ ∃ asked answer, asked.apiVersion = groupVersion.apiVersion ∧
      Declared history asked answer ∧ reply = .ok answer) ∧
    (calls ≠ [] → calls = [{ query := .declaration groupVersion, outcome := reply }]) := by
  obtain ⟨fromMemory, asked⟩ := settled
  by_cases known : ∃ answer, Remembered history (Query.declaration groupVersion).key answer
  · obtain ⟨answer, remembered⟩ := known
    obtain ⟨silent, replied⟩ := fromMemory answer remembered
    obtain ⟨owner, alike, declared⟩ := remembered_declaration_iff.mp remembered
    exact ⟨⟨fun _ => ⟨owner, answer, alike, declared, replied⟩, fun _ => silent⟩, absurd silent⟩
  · have called := asked fun answer remembered => known ⟨answer, remembered⟩
    refine ⟨⟨?_, ?_⟩, fun _ => called⟩
    · intro silent
      rw [called] at silent
      cases silent
    · rintro ⟨owner, answer, alike, declared, _⟩
      exact absurd ⟨answer, remembered_declaration_iff.mpr ⟨owner, alike, declared⟩⟩ known

/-- Over every run, a declaration is read without a call exactly if one has been fetched, and not forgotten,
for a group version that is written alike, and that one is the reply. Group versions that are written alike
are the same, or one of them has a part of the other one's group in its version. -/
theorem declarations_by_written_version {σ : Type} (provider : Provider σ) (start : σ)
    (operations : List Operation) :
    let run := provider.performAll operations (Cache.empty, start)
    provider.Conversation start (run.1.flatMap Event.calls) run.2.2 ∧
    (∀ earlier groupVersion calls reply later,
      run.1 = earlier ++ .read (.declaration groupVersion) calls reply :: later →
        (calls = [] ↔ ∃ asked answer, asked.apiVersion = groupVersion.apiVersion ∧
          Declared earlier asked answer ∧ reply = .ok answer) ∧
        (calls ≠ [] → calls = [{ query := .declaration groupVersion, outcome := reply }])) ∧
    (∀ left right : GroupVersion, (Query.declaration left).key = (Query.declaration right).key ↔
      left = right ∨ left.Absorbs right ∨ right.Absorbs left) ∧
    ∀ left right : GroupVersion, '/' ∉ left.version.toList → '/' ∉ right.version.toList →
      ((Query.declaration left).key = (Query.declaration right).key ↔ left = right) := by
  obtain ⟨settled, _, conversation⟩ :=
    performAll_tracks provider operations Cache.Tracks.empty start
  have keys : ∀ left right : GroupVersion,
      (Query.declaration left).key = (Query.declaration right).key ↔
        left = right ∨ left.Absorbs right ∨ right.Absorbs left := by
    intro left right
    rw [← GroupVersion.apiVersion_eq_iff]
    simp [Query.key]
  refine ⟨conversation, ?_, keys, ?_⟩
  · intro earlier groupVersion calls reply later split
    rw [split, allSettled_append] at settled
    exact settled.2.1.declaration_iff
  · intro left right leftSegment rightSegment
    rw [keys]
    constructor
    · rintro (same | absorbs | absorbs)
      · exact same
      · exact absurd absorbs.slash leftSegment
      · exact absurd absorbs.slash rightSegment
    · exact Or.inl

namespace Server

def declaring : Labelled Server :=
  { state :=
      { routes :=
          [("GET /swaggerapi/apis/apps/v1",
            [.respond { status := 200, body := Text.Utf8.encode "\x7b\"apiVersion\":\"apps/v1\"\x7d" }])] }
    next := 0 }

/-- The declaration of `apps/v1` is handed out for a core version that the server knows nothing of. -/
theorem declaration_of_other_group :
    let provider := client.origin.provider
    let named : GroupVersion := { group := "apps", version := "v1" }
    let slashed : GroupVersion := { group := "", version := "apps/v1" }
    let answer : Shared SwaggerDeclaration := { label := 0, value := { apiVersion := "apps/v1" } }
    named ≠ slashed ∧
      (client.declaration slashed declaring.state).1 =
        .error (.api
          { status := "404 Not Found"
            message := "\"404 page not found\\n\""
            reason := "Failed to parse error data"
            code := 404 }) ∧
      (provider.performAll [.read (.declaration named), .read (.declaration slashed)]
          (Cache.empty, declaring)).1 =
        [.read (.declaration named) [{ query := .declaration named, outcome := .ok answer }] (.ok answer),
          .read (.declaration slashed) [] (.ok answer)] := by
  intro provider named slashed answer
  have fetched : (client.declaration named declaring.state).1 = .ok answer.value := by decide +kernel
  obtain ⟨later, answered⟩ : ∃ later, client.origin.answer (.declaration named) declaring.state =
      (.ok answer.value, later) := ⟨_, Prod.ext fetched (Eq.refl (Prod.snd _))⟩
  have asked := Origin.provider_ask_ok answered
  have first := provider.perform_miss (Cache.find?_empty (Query.declaration named).key) asked
  have found := Cache.find?_fill_self Cache.empty (Query.declaration slashed).key answer
  have second := provider.perform_hit found
  refine ⟨by decide, by decide +kernel, ?_⟩
  simp only [Provider.performAll, first]
  exact congrArg (fun done => [_, Prod.fst done]) (second _)

end Server

end ApiDiscovery
