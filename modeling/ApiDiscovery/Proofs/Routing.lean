import ApiDiscovery.Handle
import ApiDiscovery.Proofs.WrittenVersion
import ApiDiscovery.Simulation.Catalogue

/-!
Where objects are routed to. An object is handled under the path of its own kind and namespace, and an
object that was made for a resource is routed back to that resource.
-/

namespace ApiDiscovery

/-- The kind of a type that is known beforehand. Its version is one segment of a path. -/
structure KnownKind where
  kind : GroupVersionKind
  segment : '/' ∉ kind.version.toList

inductive Routable where
  | manifest (manifest : Manifest)
  | known (type : KnownKind) («namespace» : Option String)

def Routable.subject : Routable → Subject
  | .manifest object => object.subject
  | .known type name => .ofKind type.kind name

theorem Manifest.groupVersionKind_eq_ok {manifest : Manifest} {kind : GroupVersionKind} :
    manifest.groupVersionKind = .ok kind ↔
      ∃ block, manifest.types = some block ∧
        GroupVersion.parse block.apiVersion = .ok kind.groupVersion ∧ block.kind = kind.kind := by
  unfold Manifest.groupVersionKind
  cases manifest.types with
  | none => simp
  | some block =>
      simp only [Except.mapError_eq_ok, TypeBlock.groupVersionKind, GroupVersionKind.ofApiVersion,
        Except.map_eq_ok]
      constructor
      · rintro ⟨read, parsed, rfl⟩
        exact ⟨block, rfl, parsed, rfl⟩
      · rintro ⟨_, ⟨⟩, parsed, named⟩
        refine ⟨_, parsed, ?_⟩
        rw [named]
        rfl

namespace Provider

variable {σ : Type} {provider : Provider σ} {state later : σ}

theorem serving_eq_ok {kind : GroupVersionKind} {list : ResourceList} {listed : ListedResource} :
    serving kind list = .ok listed ↔
      list.resources.find? (fun listed => listed.kind == kind.kind) = some listed := by
  unfold serving
  cases list.resources.find? fun listed => listed.kind == kind.kind <;> simp

theorem resourceFor_eq_ok {kind : GroupVersionKind} {resource : Resource} :
    provider.resourceFor kind state = (.ok resource, later) ↔
      ∃ list listed, provider.resources kind.apiVersion state = (.ok list, later) ∧
        list.value.resources.find? (fun listed => listed.kind == kind.kind) = some listed ∧
        Resource.ofListed listed kind.apiVersion = .ok resource := by
  simp only [resourceFor, Exchange.bind_eq_ok, Exchange.mapFailure_eq_ok, Exchange.lift_eq_ok,
    serving_eq_ok]
  constructor
  · rintro ⟨list, middle, fetched, listed, same, ⟨found, rfl⟩, made, rfl⟩
    exact ⟨list, listed, fetched, found, made⟩
  · rintro ⟨list, listed, fetched, found, made⟩
    exact ⟨list, later, fetched, listed, later, ⟨found, rfl⟩, made, rfl⟩

end Provider

theorem Resource.parse_of_ofListed {listed : ListedResource} {text : String} {resource : Resource}
    (made : Resource.ofListed listed text = .ok resource) :
    ∃ groupVersion, GroupVersion.parse text = .ok groupVersion := by
  obtain ⟨groupVersion, parsed, _⟩ := Except.bind_eq_ok.mp made
  exact ⟨groupVersion, parsed⟩

def Resource.entered (listed : ListedResource) (groupVersion : GroupVersion) : Resource :=
  let own : GroupVersion :=
    { group := listed.group.getD groupVersion.group
      version := listed.version.getD groupVersion.version }
  ofKind (.ofGroupVersion own listed.kind) listed.name listed.namespaced

theorem Resource.ofListed_separable {groupVersion : GroupVersion} (separable : groupVersion.Separable)
    (listed : ListedResource) :
    Resource.ofListed listed groupVersion.apiVersion = .ok (Resource.entered listed groupVersion) :=
  Except.bind_eq_ok.mpr ⟨groupVersion, GroupVersion.parse_apiVersion separable, rfl⟩

theorem Resource.ofListed_apiVersion {kind : GroupVersionKind} {listed : ListedResource}
    (separable : kind.groupVersion.Separable) (group : listed.group = none)
    (version : listed.version = none) (named : listed.kind = kind.kind) :
    Resource.ofListed listed kind.apiVersion =
      .ok (Resource.ofKind kind listed.name listed.namespaced) := by
  refine (Resource.ofListed_separable separable listed).trans ?_
  rw [Resource.entered, group, version, named]
  rfl

namespace Handle

variable {σ : Type} {provider : Provider σ} {state later : σ}

theorem forSubject_eq_ok {subject : Subject} {defaultNamespace : String} {handle : Handle} :
    forSubject provider subject defaultNamespace state = (.ok handle, later) ↔
      ∃ kind resource, subject.kind = .ok kind ∧
        provider.resourceFor kind state = (.ok resource, later) ∧
        forNamespace resource (namespaceFor subject defaultNamespace) = handle := by
  simp only [forSubject, Exchange.bind_eq_ok, Exchange.lift_eq_ok, Exchange.pure_apply, Prod.mk.injEq,
    Except.ok.injEq]
  constructor
  · rintro ⟨kind, _, ⟨typed, rfl⟩, resource, _, found, rfl, rfl⟩
    exact ⟨kind, resource, typed, found, rfl⟩
  · rintro ⟨kind, resource, typed, found, rfl⟩
    exact ⟨kind, state, ⟨typed, rfl⟩, resource, later, found, rfl, rfl⟩

theorem namespaceFor_eq (subject : Subject) (otherwise : String) :
    namespaceFor subject otherwise = (subject.namespace.filter (· ≠ "")).getD otherwise := by
  unfold namespaceFor
  cases subject.namespace with
  | none => rfl
  | some name =>
      by_cases empty : name = ""
      · simp [empty, Option.filter_some]
      · simp [empty, Option.filter_some]

def endpoint (kind : GroupVersionKind) (listed : ListedResource) (name : String) : String :=
  (if kind.group = "" then "/api/" ++ kind.version else "/apis/" ++ kind.group ++ "/" ++ kind.version) ++
    "/" ++ (if listed.namespaced ∧ name ≠ "" then "namespaces/" ++ name ++ "/" else "") ++ listed.name

theorem collectionPath_forNamespace (kind : GroupVersionKind) (listed : ListedResource) (name : String) :
    (forNamespace (Resource.ofKind kind listed.name listed.namespaced) name).collectionPath =
      endpoint kind listed name := by
  have written : ∀ group version kind : String,
      GroupVersionKind.apiVersion { group, version, kind } =
        if group = "" then version else group ++ "/" ++ version := fun _ _ _ => rfl
  obtain ⟨group, version, kindName⟩ := kind
  cases located : listed.namespaced with
  | false =>
      by_cases core : group = ""
      all_goals
        simp [forNamespace, all, collectionPath, Resource.collectionPath, Resource.ofKind, located,
          Resource.effectiveNamespace, endpoint, written, core, String.append_assoc]
  | true =>
      by_cases core : group = "" <;> by_cases empty : name = ""
      all_goals
        simp [forNamespace, inNamespace, collectionPath, Resource.collectionPath, Resource.ofKind,
          located, Resource.effectiveNamespace, Option.filter_some, endpoint, written, core, empty,
          String.append_assoc]

structure StandsFor (handle : Handle) (kind : GroupVersionKind) (listed : ListedResource) (name : String) :
    Prop where
  kind_eq : handle.resource.groupVersionKind = kind
  plural_eq : handle.resource.plural = listed.name
  namespaced_eq : handle.resource.namespaced = listed.namespaced
  apiVersion_eq : handle.resource.apiVersion = kind.apiVersion
  path_eq : handle.collectionPath = endpoint kind listed name

theorem resource_forNamespace (resource : Resource) (name : String) :
    (forNamespace resource name).resource = resource := by
  unfold forNamespace
  split <;> rfl

theorem standsFor_forNamespace (kind : GroupVersionKind) (listed : ListedResource) (name : String) :
    (forNamespace (Resource.ofKind kind listed.name listed.namespaced) name).StandsFor kind listed
      name := by
  have own := resource_forNamespace (Resource.ofKind kind listed.name listed.namespaced) name
  exact
    { kind_eq := by rw [own]; rfl
      plural_eq := by rw [own]; rfl
      namespaced_eq := by rw [own]; rfl
      apiVersion_eq := by rw [own]; rfl
      path_eq := collectionPath_forNamespace kind listed name }

end Handle

theorem Routable.separable {object : Routable} {kind : GroupVersionKind} {listed : ListedResource}
    {resource : Resource} (typed : object.subject.kind = .ok kind)
    (made : Resource.ofListed listed kind.apiVersion = .ok resource) :
    kind.groupVersion.Separable := by
  cases object with
  | manifest object =>
      obtain ⟨block, _, parsed, _⟩ := Manifest.groupVersionKind_eq_ok.mp typed
      exact GroupVersion.separable_of_parse parsed
  | known type name =>
      cases typed
      obtain ⟨read, parsed⟩ := Resource.parse_of_ofListed made
      exact GroupVersion.separable_of_parse_apiVersion type.segment parsed

/-- An object for which routing finds a handle is handled as the first entry of its kind says, under the
path of its own kind and namespace. And an object of the type of a resource is routed to that resource
wherever the resource is listed first for its kind. -/
theorem forSubject_own_endpoint {σ : Type} (provider : Provider σ) (defaultNamespace : String)
    (state later : σ) :
    (∀ (object : Routable) (handle : Handle),
      Handle.forSubject provider object.subject defaultNamespace state = (.ok handle, later) →
      ∃ kind list listed, object.subject.kind = .ok kind ∧
        provider.resources kind.apiVersion state = (.ok list, later) ∧
        list.value.resources.find? (fun listed => listed.kind == kind.kind) = some listed ∧
        (listed.group = none → listed.version = none →
          handle.StandsFor kind listed
            ((object.subject.namespace.filter (· ≠ "")).getD defaultNamespace))) ∧
    (∀ (kind : GroupVersionKind) (plural : String) (namespaced : Bool) (object : Manifest)
        (list : Shared ResourceList) (listed : ListedResource),
      kind.groupVersion.Separable →
      object.types = some { apiVersion := kind.apiVersion, kind := kind.kind } →
      provider.resources kind.apiVersion state = (.ok list, later) →
      list.value.resources.find? (fun listed => listed.kind == kind.kind) = some listed →
      listed.name = plural → listed.namespaced = namespaced →
      listed.group = none → listed.version = none →
      Handle.forSubject provider object.subject defaultNamespace state =
        (.ok (Handle.forNamespace (Resource.ofKind kind plural namespaced)
          ((object.metadata.namespace.filter (· ≠ "")).getD defaultNamespace)), later)) := by
  constructor
  · intro object handle routed
    obtain ⟨kind, resource, typed, resolved, handled⟩ := Handle.forSubject_eq_ok.mp routed
    obtain ⟨list, listed, fetched, found, made⟩ := Provider.resourceFor_eq_ok.mp resolved
    refine ⟨kind, list, listed, typed, fetched, found, ?_⟩
    intro group version
    have named : listed.kind = kind.kind := by
      simpa using List.find?_some found
    have separable := Routable.separable typed made
    rw [Resource.ofListed_apiVersion separable group version named] at made
    cases made
    rw [← handled, Handle.namespaceFor_eq]
    exact Handle.standsFor_forNamespace kind listed _
  · intro kind plural namespaced object list listed separable typed fetched found plain scope group version
    have named : listed.kind = kind.kind := by
      simpa using List.find?_some found
    have objectKind : object.subject.kind = .ok kind := Manifest.groupVersionKind_eq_ok.mpr
      ⟨_, typed, GroupVersion.parse_apiVersion separable, rfl⟩
    have made := Resource.ofListed_apiVersion separable group version named
    rw [plain, scope] at made
    refine Handle.forSubject_eq_ok.mpr ⟨kind, _, objectKind,
      Provider.resourceFor_eq_ok.mpr ⟨list, listed, fetched, found, made⟩, ?_⟩
    rw [Handle.namespaceFor_eq]
    rfl

def Catalogue.core : Labelled Catalogue :=
  { state :=
      { resources :=
          [("v1", [resource "pods" "Pod" true, resource "pods/status" "Pod" true,
            resource "namespaces" "Namespace" false])] }
    next := 0 }

theorem core_own_endpoints :
    let provider := Catalogue.origin.provider
    let spelled : Manifest :=
      { types := some { apiVersion := "/v1", kind := "Pod" }
        metadata := { «namespace» := some "" }
        data := Value.null }
    let kind : GroupVersionKind := { group := "", version := "v1", kind := "Namespace" }
    let made := Manifest.ofResource "prod" (Resource.ofKind kind "namespaces" false)
    (∃ handle later,
      Handle.forSubject provider spelled.subject "prod" Catalogue.core = (.ok handle, later) ∧
        handle.collectionPath = "/api/v1/namespaces/prod/pods" ∧
        handle.StandsFor { group := "", version := "v1", kind := "Pod" }
          (Catalogue.resource "pods" "Pod" true) "prod") ∧
      (Handle.forSubject provider made.subject "prod" Catalogue.core).1 =
        .ok (Handle.all (Resource.ofKind kind "namespaces" false)) := by
  intro provider spelled kind made
  constructor
  · let pods := Resource.ofKind { group := "", version := "v1", kind := "Pod" } "pods" true
    have answered : (Handle.forSubject provider spelled.subject "prod" Catalogue.core).1 =
        .ok (Handle.inNamespace pods "prod") := by
      decide +kernel
    have routed := Prod.ext_iff.mpr ⟨answered, Eq.refl (Prod.snd _)⟩
    obtain ⟨own, list, listed, typed, fetched, found, stands⟩ :=
      (forSubject_own_endpoint provider "prod" Catalogue.core _).1 (.manifest spelled) _ routed
    have ownKind : spelled.subject.kind = .ok { group := "", version := "v1", kind := "Pod" } := by
      decide +kernel
    cases ownKind.symm.trans typed
    cases fetched
    cases found
    exact ⟨_, _, routed, by decide +kernel, stands rfl rfl⟩
  · have separable : kind.groupVersion.Separable :=
      { group := by decide, version := by decide, versioned := by decide }
    have routed := (forSubject_own_endpoint provider "prod" Catalogue.core _).2 kind "namespaces" false
      made _ (Catalogue.resource "namespaces" "Namespace" false) separable rfl rfl rfl rfl rfl rfl rfl
    rw [routed]
    rfl

end ApiDiscovery
