import ApiDiscovery.Proofs.Conversation
import ApiDiscovery.Proofs.Routing

/-!
What routing an object can come to, whatever the object is handled by in the end. An object without a
kind is refused before anything is asked. For any other one question is asked, and the answer settles the
rest: a kind that an object names is written in a way that can be read again, so no entry of the answer
can spoil it.
-/

namespace ApiDiscovery

/-- A type that is known beforehand has a version, and no slash in its group or its version. -/
def Routable.Proper : Routable → Prop
  | .manifest _ => True
  | .known type _ => type.kind.groupVersion.Separable

theorem Manifest.groupVersionKind_of_invalid {manifest : Manifest} {block : TypeBlock}
    {error : GroupVersionError} (typed : manifest.types = some block)
    (invalid : GroupVersion.parse block.apiVersion = .error error) :
    manifest.groupVersionKind = .error (.invalidApiVersion { text := block.apiVersion }) := by
  obtain rfl : error = { text := block.apiVersion } := by
    rw [← GroupVersion.text_of_parse_error invalid]
  have unread : block.groupVersionKind = .error { text := block.apiVersion } := by
    rw [TypeBlock.groupVersionKind, GroupVersionKind.ofApiVersion, invalid]
    rfl
  simp only [Manifest.groupVersionKind, typed, unread, Except.mapError]

namespace Provider

variable {σ γ : Type}

def route (provider : Provider σ) (make : Resource → String → γ) (subject : Subject)
    (defaultNamespace : String) : Exchange σ γ := do
  let kind ← .lift .untyped subject.kind
  let resource ← provider.resourceFor kind
  return make resource (Handle.namespaceFor subject defaultNamespace)

theorem forSubject_eq_route (provider : Provider σ) (subject : Subject) (defaultNamespace : String) :
    Handle.forSubject provider subject defaultNamespace =
      provider.route Handle.forNamespace subject defaultNamespace := rfl

inductive Resolution (kind : GroupVersionKind) :
    Except Failure (Shared ResourceList) → Except Failure Resource → Prop
  | unfetched (failure : Failure) :
      Resolution kind (.error failure) (.error (.unableToFetch kind.apiVersion failure))
  | missing {list : Shared ResourceList}
      (absent : ∀ listed ∈ list.value.resources, listed.kind ≠ kind.kind) :
      Resolution kind (.ok list) (.error (.missingKind kind.describe))
  | served {list : Shared ResourceList} {listed : ListedResource}
      (first : list.value.resources.find? (fun listed => listed.kind == kind.kind) = some listed) :
      Resolution kind (.ok list) (.ok (Resource.entered listed kind.groupVersion))

def Resolves (provider : Provider σ) (make : Resource → γ) (kind : GroupVersionKind) (state : σ)
    (routed : Except Failure γ × σ × List Call) : Prop :=
  ∃ outcome later found, provider.ask (.resources kind.apiVersion) state = (outcome, later) ∧
    Resolution kind outcome found ∧
    routed = (make <$> found, later, [⟨.resources kind.apiVersion, outcome⟩])

theorem route_of_untyped (provider : Provider σ) (make : Resource → String → γ) {subject : Subject}
    {error : TypeError} (untyped : subject.kind = .error error) (defaultNamespace : String) (state : σ) :
    provider.route make subject defaultNamespace state = (.error (.untyped error), state) := by
  rw [route, untyped]
  rfl

theorem resourceFor_of_asked {provider : Provider σ} {kind : GroupVersionKind} {state later : σ}
    {outcome : Except Failure (Shared ResourceList)} (separable : kind.groupVersion.Separable)
    (asked : provider.resources kind.apiVersion state = (outcome, later)) :
    ∃ found, provider.resourceFor kind state = (found, later) ∧ Resolution kind outcome found := by
  cases outcome with
  | error failure =>
      refine ⟨.error (.unableToFetch kind.apiVersion failure), ?_, .unfetched failure⟩
      rw [resourceFor, Exchange.bind_apply, Exchange.mapFailure, asked]
  | ok list =>
      cases first : list.value.resources.find? fun listed => listed.kind == kind.kind with
      | none =>
          refine ⟨.error (.missingKind kind.describe), ?_, .missing (by simpa using first)⟩
          rw [resourceFor, Exchange.bind_apply, Exchange.mapFailure, asked]
          simp only [serving, first]
          rfl
      | some listed =>
          have made := Resource.ofListed_separable separable listed
          exact ⟨.ok (Resource.entered listed kind.groupVersion),
            resourceFor_eq_ok.mpr ⟨list, listed, asked, first, made⟩, .served first⟩

theorem route_of_typed (provider : Provider σ) (make : Resource → String → γ) {subject : Subject}
    {kind : GroupVersionKind} (typed : subject.kind = .ok kind) (separable : kind.groupVersion.Separable)
    (defaultNamespace : String) (state : σ) :
    provider.Resolves (make · (Handle.namespaceFor subject defaultNamespace)) kind state
      (provider.recorded.route make subject defaultNamespace (state, [])) := by
  rcases answered : provider.resources kind.apiVersion state with ⟨outcome, later⟩
  obtain ⟨found, resolved, resolution⟩ := resourceFor_of_asked separable (recorded_ask answered [])
  refine ⟨outcome, later, found, answered, resolution, ?_⟩
  have mapped : provider.recorded.route make subject defaultNamespace =
      (make · (Handle.namespaceFor subject defaultNamespace)) <$> provider.recorded.resourceFor kind := by
    rw [route, typed]
    rfl
  rw [mapped, Exchange.map_apply, resolved]
  cases found <;> rfl

theorem Resolves.ne_invalid {provider : Provider σ} {make : Resource → γ} {kind : GroupVersionKind}
    {state : σ} {routed : Except Failure γ × σ × List Call}
    (resolves : provider.Resolves make kind state routed) (text : String) :
    routed.1 ≠ .error (.invalidGroupVersion text) := by
  obtain ⟨outcome, later, found, _, resolution, rfl⟩ := resolves
  -- a failure of the provider may be of any sort, but it is wrapped
  cases resolution <;> exact nofun

end Provider

/-- What comes of routing an object, with the questions asked on the way. An object without types, or
with types whose API version is no group version, is refused unasked. For any other one question is asked,
and nothing that is listed makes routing fail over a group version. -/
theorem route_outcomes {σ γ : Type} (provider : Provider σ) (make : Resource → String → γ)
    (object : Routable) (proper : object.Proper) (defaultNamespace : String) (state : σ) :
    let routed := provider.recorded.route make object.subject defaultNamespace (state, [])
    let makeWithin := (make · (Handle.namespaceFor object.subject defaultNamespace))
    (match object with
      | .manifest manifest =>
          match manifest.types with
          | none => routed = (.error (.untyped .missing), state, [])
          | some block =>
              match GroupVersion.parse block.apiVersion with
              | .error _ =>
                  routed = (.error (.untyped (.invalidApiVersion { text := block.apiVersion })), state, [])
              | .ok groupVersion =>
                  provider.Resolves makeWithin (.ofGroupVersion groupVersion block.kind) state routed
      | .known type _ => provider.Resolves makeWithin type.kind state routed) ∧
    ∀ text, routed.1 ≠ .error (.invalidGroupVersion text) := by
  intro routed makeWithin
  cases object with
  | known type name =>
      have typed : (Routable.known type name).subject.kind = .ok type.kind := rfl
      have resolves := provider.route_of_typed make typed proper defaultNamespace state
      exact ⟨resolves, resolves.ne_invalid⟩
  | manifest manifest =>
      cases types : manifest.types with
      | none =>
          have untyped : manifest.subject.kind = .error .missing := by
            simp only [Manifest.subject, Manifest.groupVersionKind, types]
          have refused : routed = (.error (.untyped .missing), state, []) :=
            provider.recorded.route_of_untyped make untyped defaultNamespace (state, [])
          simp only [types]
          exact ⟨refused, fun text => refused ▸ nofun⟩
      | some block =>
          cases parsed : GroupVersion.parse block.apiVersion with
          | error error =>
              have untyped : manifest.subject.kind =
                  .error (.invalidApiVersion { text := block.apiVersion }) :=
                Manifest.groupVersionKind_of_invalid types parsed
              have refused : routed =
                  (.error (.untyped (.invalidApiVersion { text := block.apiVersion })), state, []) :=
                provider.recorded.route_of_untyped make untyped defaultNamespace (state, [])
              simp only [types, parsed]
              exact ⟨refused, fun text => refused ▸ nofun⟩
          | ok groupVersion =>
              have typed : manifest.subject.kind = .ok (.ofGroupVersion groupVersion block.kind) :=
                Manifest.groupVersionKind_eq_ok.mpr ⟨block, types, parsed, rfl⟩
              have resolves := provider.route_of_typed make typed (GroupVersion.separable_of_parse parsed)
                defaultNamespace state
              simp only [types, parsed]
              exact ⟨resolves, resolves.ne_invalid⟩

def Catalogue.apps : Labelled Catalogue :=
  { state :=
      { resources :=
          [("apps/v1", [{ resource "deployments" "Deployment" true with version := some "v1/beta" }])] }
    next := 0 }

def deploymentKind : KnownKind :=
  { kind := { group := "apps", version := "v1", kind := "Deployment" }, segment := by decide }

theorem deployment_route_outcomes :
    let object := Routable.known deploymentKind none
    let provider := Catalogue.origin.provider
    let routed := provider.recorded.route Prod.mk object.subject "prod" (Catalogue.apps, [])
    object.Proper ∧
      provider.Resolves (·, "prod") deploymentKind.kind Catalogue.apps routed ∧
      (∀ text, routed.1 ≠ .error (.invalidGroupVersion text)) ∧
      routed.2.2.map Call.query = [.resources "apps/v1"] ∧
      routed.1 =
        .ok
          (Resource.ofKind { group := "apps", version := "v1/beta", kind := "Deployment" } "deployments" true,
            "prod") := by
  intro object provider routed
  have proper : object.Proper := { group := by decide, version := by decide, versioned := by decide }
  obtain ⟨resolves, valid⟩ := route_outcomes provider Prod.mk object proper "prod" Catalogue.apps
  exact ⟨proper, resolves, valid, by decide +kernel, by decide +kernel⟩

end ApiDiscovery
