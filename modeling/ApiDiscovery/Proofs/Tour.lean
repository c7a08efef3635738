import ApiDiscovery.Preference

/-!
The tour of a listing through a server: it stops at every version that is declared, group by group, and
asks for the resources there. Both listings are folds over the visits of one tour.
-/

namespace ApiDiscovery

structure Stop where
  group : Group
  served : ServedVersion

namespace Stop

def home (stop : Stop) : GroupVersion := { group := stop.group.name, version := stop.served.version }

def isPreferred (stop : Stop) : Bool :=
  stop.group.preferred.map ServedVersion.version == some stop.served.version

end Stop

def Group.stops (group : Group) : List Stop := group.versions.map fun served => { group, served }

def GroupList.stops (list : GroupList) : List Stop := list.groups.flatMap Group.stops

theorem Stop.isPreferred_iff (stop : Stop) :
    stop.isPreferred = true ↔
      ∃ preferred, stop.group.preferred = some preferred ∧
        preferred.version = stop.served.version := by
  rw [Stop.isPreferred, beq_iff_eq, Option.map_eq_some_iff]

theorem Stop.not_preferred_of_undeclared {stop : Stop} (declared : stop.served ∈ stop.group.versions)
    (undeclared : ∀ preferred, stop.group.preferred = some preferred →
      preferred.version ∉ stop.group.versions.map ServedVersion.version) :
    stop.isPreferred = false := by
  rw [Bool.eq_false_iff]
  intro marked
  obtain ⟨preferred, prefers, versionEq⟩ := stop.isPreferred_iff.mp marked
  refine undeclared preferred prefers ?_
  rw [versionEq]
  exact List.mem_map_of_mem declared

theorem GroupList.mem_stops {list : GroupList} {stop : Stop} :
    stop ∈ list.stops ↔ stop.group ∈ list.groups ∧ stop.served ∈ stop.group.versions := by
  rcases stop with ⟨group, served⟩
  simp only [GroupList.stops, Group.stops, List.mem_flatMap, List.mem_map, Stop.mk.injEq]
  constructor
  · rintro ⟨_, listed, _, declared, rfl, rfl⟩
    exact ⟨listed, declared⟩
  · rintro ⟨listed, declared⟩
    exact ⟨group, listed, served, declared, rfl, rfl⟩

structure Visit where
  stop : Stop
  found : Shared ResourceList

def Ballot.visit (ballot : Ballot) (visit : Visit) : Ballot :=
  ballot.count visit.stop.group visit.stop.served visit.found.value

namespace Provider

variable {σ : Type}

def tour (provider : Provider σ) : List Stop → Exchange σ (List Visit)
  | [] => pure []
  | stop :: rest => do
      let found ← provider.resources stop.served.groupVersion
      let visits ← provider.tour rest
      return { stop, found } :: visits

theorem tour_cons_of_ok {provider : Provider σ} {stop : Stop} {stops : List Stop} {state middle last : σ}
    {found : Shared ResourceList} {visits : Except Failure (List Visit)}
    (read : provider.resources stop.served.groupVersion state = (.ok found, middle))
    (rest : provider.tour stops middle = (visits, last)) :
    provider.tour (stop :: stops) state = (({ stop, found } :: ·) <$> visits, last) := by
  simp only [tour, Exchange.bind_apply, read, rest]
  cases visits <;> rfl

theorem tour_cons_of_error {provider : Provider σ} {stop : Stop} {state middle : σ} {failure : Failure}
    (read : provider.resources stop.served.groupVersion state = (.error failure, middle))
    (stops : List Stop) : provider.tour (stop :: stops) state = (.error failure, middle) := by
  simp only [tour, Exchange.bind_apply, read]

theorem tour_append (provider : Provider σ) (first second : List Stop) :
    provider.tour (first ++ second) =
      provider.tour first >>= fun visits => (visits ++ ·) <$> provider.tour second := by
  induction first with
  | nil => simp [tour]
  | cons stop rest ih => simp [tour, ih]

theorem tour_eq_ok {provider : Provider σ} {stops : List Stop} {visits : List Visit} {state later : σ}
    (toured : provider.tour stops state = (.ok visits, later)) : visits.map Visit.stop = stops := by
  induction stops generalizing visits state with
  | nil =>
      simp only [tour, Exchange.pure_apply, Prod.mk.injEq, Except.ok.injEq] at toured
      rw [← toured.1, List.map_nil]
  | cons stop rest ih =>
      simp only [tour, bind_pure_comp, Exchange.bind_eq_ok, Exchange.map_eq_ok] at toured
      obtain ⟨found, middle, _, more, continued, rfl⟩ := toured
      rw [List.map_cons, ih continued]

theorem foldlM_versions {α : Type} (provider : Provider σ) (step : α → Visit → α) (group : Group)
    (versions : List ServedVersion) (start : α) :
    versions.foldlM (fun state served =>
        (fun found => step state { stop := { group, served }, found }) <$>
          provider.resources served.groupVersion) start =
      List.foldl step start <$> provider.tour (versions.map fun served => { group, served }) := by
  induction versions generalizing start with
  | nil => simp [tour]
  | cons served rest ih => simp [tour, ih]

/-- The nested loops of a listing are one fold over the visits of a tour. -/
theorem foldlM_groups {α : Type} (provider : Provider σ) (step : α → Visit → α) (groups : List Group)
    (start : α) :
    groups.foldlM (fun state group => group.versions.foldlM (fun state served =>
        (fun found => step state { stop := { group, served }, found }) <$>
          provider.resources served.groupVersion) state) start =
      List.foldl step start <$> provider.tour (groups.flatMap Group.stops) := by
  induction groups generalizing start with
  | nil => simp [tour]
  | cons group rest ih =>
      rw [List.foldlM_cons, foldlM_versions, List.flatMap_cons, tour_append]
      simp only [ih, Group.stops, map_bind, bind_map_left, Functor.map_map, List.foldl_append]

theorem allResources_eq_tour (provider : Provider σ) :
    provider.allResources =
      provider.groups >>= fun groups =>
        List.map Visit.found <$> provider.tour groups.value.stops := by
  unfold allResources
  simp only [bind_pure_comp, List.forIn_yield_eq_foldlM, id_map']
  refine bind_congr fun groups => ?_
  have walked := foldlM_groups provider (fun lists visit => lists.push visit.found)
    groups.value.groups #[]
  refine (congrArg (Array.toList <$> ·) walked).trans ?_
  simp [GroupList.stops]

theorem preferredResources_eq_tour (provider : Provider σ) :
    provider.preferredResources =
      provider.groups >>= fun groups =>
        (fun visits => (visits.foldl Ballot.visit {}).result) <$>
          provider.tour groups.value.stops := by
  unfold preferredResources
  simp only [bind_pure_comp, List.forIn_yield_eq_foldlM, id_map']
  refine bind_congr fun groups => ?_
  have walked := foldlM_groups provider Ballot.visit groups.value.groups {}
  refine (congrArg (Ballot.result <$> ·) walked).trans ?_
  simp [GroupList.stops]

theorem preferredResources_eq_ok {provider : Provider σ} {state later : σ} {lists : List ResourceList} :
    provider.preferredResources state = (.ok lists, later) ↔
      ∃ groups middle visits, provider.groups state = (.ok groups, middle) ∧
        provider.tour groups.value.stops middle = (.ok visits, later) ∧
        (visits.foldl Ballot.visit {}).result = lists := by
  simp only [preferredResources_eq_tour, Exchange.bind_eq_ok, Exchange.map_eq_ok, exists_and_left]

end Provider

inductive Listing where
  | all
  | preferred
  | preferredNamespaced
  deriving DecidableEq, Repr

namespace Listing

abbrev Result : Listing → Type
  | .all => List (Shared ResourceList)
  | .preferred | .preferredNamespaced => List ResourceList

def ofVisits : (listing : Listing) → List Visit → listing.Result
  | .all, visits => visits.map Visit.found
  | .preferred, visits => (visits.foldl Ballot.visit {}).result
  | .preferredNamespaced, visits => namespacedOnly (visits.foldl Ballot.visit {}).result

end Listing

def Provider.list {σ : Type} (provider : Provider σ) :
    (listing : Listing) → Exchange σ listing.Result
  | .all => provider.allResources
  | .preferred => provider.preferredResources
  | .preferredNamespaced => provider.preferredNamespacedResources

theorem Provider.list_eq_tour {σ : Type} (provider : Provider σ) (listing : Listing) :
    provider.list listing =
      provider.groups >>= fun groups => listing.ofVisits <$> provider.tour groups.value.stops := by
  cases listing with
  | all => exact provider.allResources_eq_tour
  | preferred => exact provider.preferredResources_eq_tour
  | preferredNamespaced =>
      show namespacedOnly <$> provider.preferredResources = _
      rw [provider.preferredResources_eq_tour, map_bind]
      simp only [Functor.map_map]
      rfl

theorem Provider.list_of_ok {σ : Type} {provider : Provider σ} (listing : Listing) {state middle last : σ}
    {groups : Shared GroupList} {visits : Except Failure (List Visit)}
    (grouped : provider.groups state = (.ok groups, middle))
    (toured : provider.tour groups.value.stops middle = (visits, last)) :
    provider.list listing state = (listing.ofVisits <$> visits, last) := by
  simp only [list_eq_tour, Exchange.bind_apply, grouped, Exchange.map_apply, toured]
  cases visits <;> rfl

theorem Provider.list_of_error {σ : Type} {provider : Provider σ} (listing : Listing) {state middle : σ}
    {failure : Failure} (grouped : provider.groups state = (.error failure, middle)) :
    provider.list listing state = (.error failure, middle) := by
  simp only [list_eq_tour, Exchange.bind_apply, grouped]

end ApiDiscovery
