import ApiDiscovery.Proofs.Ballot
import ApiDiscovery.Simulation.Catalogue

/-!
What the preferred listing holds: each resource of each group once, under the version that won it.
-/

namespace ApiDiscovery

def seatOf (placed : GroupVersion × ListedResource) : GroupResource :=
  { group := placed.1.group, resource := placed.2.name }

/-- The resources of a listing, each with the group version whose list it is in: there is one list for
each group version that was stopped at, in the order of the stops. -/
def placements (stops : List Stop) (lists : List ResourceList) :
    List (GroupVersion × ListedResource) :=
  ((homes stops).zip lists).flatMap fun (home, list) =>
    list.resources.map fun listed => (home, listed)

theorem Ballot.Matches.placements_result {ballot : Ballot} {opened : List Stop}
    {elected : List Candidate} {stops : List Stop} (same : ballot.Matches opened elected)
    (covered : opened.map Stop.home = homes stops) :
    placements stops ballot.result =
      opened.flatMap fun stop =>
        (elected.filter (·.home = stop.home)).map Candidate.placement := by
  rw [placements, same.result, ← covered, List.zip_map', List.flatMap_map]
  refine List.flatMap_congr fun stop _ => ?_
  simp only [List.map_map]
  refine List.map_congr_left fun candidate stands => ?_
  have here : candidate.home = stop.home := by
    simpa using (List.mem_filter.mp stands).2
  simp [Candidate.placement, here]

theorem flatMap_placement {opened : List Stop} {candidate : Candidate}
    (distinct : (opened.map Stop.home).Nodup) (met : candidate.home ∈ opened.map Stop.home) :
    (opened.flatMap fun stop =>
        ([candidate].filter (·.home = stop.home)).map Candidate.placement) =
      [candidate.placement] := by
  induction opened with
  | nil => simp at met
  | cons stop rest ih =>
      rw [List.map_cons, List.nodup_cons] at distinct
      rw [List.flatMap_cons]
      by_cases here : candidate.home = stop.home
      · have elsewhere : ∀ other ∈ rest, candidate.home ≠ other.home := by
          intro other opens homeEq
          exact distinct.1 (List.mem_map.mpr ⟨other, opens, homeEq.symm.trans here⟩)
        have nothing : (rest.flatMap fun other =>
            ([candidate].filter (·.home = other.home)).map Candidate.placement) = [] := by
          rw [List.flatMap_eq_nil_iff]
          intro other opens
          simp [elsewhere other opens]
        rw [nothing]
        simp [here]
      · rw [List.map_cons, List.mem_cons] at met
        rw [ih distinct.2 (met.resolve_left here)]
        simp [here]

def candidatesFor (visits : List Visit) (seat : GroupResource) : List Candidate :=
  (visits.flatMap Visit.candidates).filter (·.seat = seat)

def listedFor (visits : List Visit) (lists : List ResourceList) (seat : GroupResource) :
    List (GroupVersion × ListedResource) :=
  (placements (visits.map Visit.stop) lists).filter (seatOf · = seat)

theorem mem_candidatesFor {visits : List Visit} {seat : GroupResource} {candidate : Candidate} :
    candidate ∈ candidatesFor visits seat ↔
      candidate.seat = seat ∧ ∃ visit ∈ visits, candidate ∈ visit.candidates := by
  rw [candidatesFor, List.mem_filter, List.mem_flatMap, decide_eq_true_iff]
  exact and_comm

theorem mem_homes {visits : List Visit} {seat : GroupResource} {candidate : Candidate}
    (stands : candidate ∈ candidatesFor visits seat) :
    candidate.home ∈ homes (visits.map Visit.stop) := by
  obtain ⟨_, visit, visited, found⟩ := mem_candidatesFor.mp stands
  rw [homes, List.mem_eraseDups, (Visit.mem_candidates.mp found).1]
  exact List.mem_map_of_mem (List.mem_map_of_mem visited)

theorem listedFor_result (visits : List Visit) (seat : GroupResource) :
    listedFor visits (visits.foldl Ballot.visit {}).result seat =
      ((winner? (candidatesFor visits seat)).map Candidate.placement).toList := by
  have same := Ballot.matches_visits visits
  have covered := map_home_openAll (visits.map Visit.stop)
  have decided := decides_electAll (visits.flatMap Visit.candidates) seat
  have split : listedFor visits (visits.foldl Ballot.visit {}).result seat =
      ((openAll (visits.map Visit.stop)).flatMap fun stop =>
        (((electAll (visits.flatMap Visit.candidates)).filter (·.seat = seat)).filter
          (·.home = stop.home)).map Candidate.placement) := by
    rw [listedFor, same.placements_result covered, List.filter_flatMap]
    refine List.flatMap_congr fun stop _ => ?_
    rw [List.filter_map, List.filter_filter, List.filter_filter]
    refine congrArg _ (List.filter_congr fun candidate _ => ?_)
    exact Bool.and_comm _ _
  rw [split, decided]
  rcases won : winner? (candidatesFor visits seat) with _ | winner
  · rw [candidatesFor] at won
    simp [won]
  · have met : winner.home ∈ (openAll (visits.map Visit.stop)).map Stop.home := by
      rw [covered]
      exact mem_homes (mem_of_winner? won)
    rw [candidatesFor] at won
    rw [won]
    exact flatMap_placement same.listPlaces.nodup met

theorem length_result (visits : List Visit) :
    (visits.foldl Ballot.visit {}).result.length = (homes (visits.map Visit.stop)).length := by
  rw [(Ballot.matches_visits visits).result, ← map_home_openAll, List.length_map, List.length_map]

theorem mem_placements {visits : List Visit} {placed : GroupVersion × ListedResource}
    (isPlaced : placed ∈
      placements (visits.map Visit.stop) (visits.foldl Ballot.visit {}).result) :
    ∃ visit ∈ visits, ∃ candidate ∈ visit.candidates, candidate.placement = placed := by
  have inSeat : placed ∈
      listedFor visits (visits.foldl Ballot.visit {}).result (seatOf placed) := by
    rw [listedFor, List.mem_filter]
    exact ⟨isPlaced, decide_eq_true rfl⟩
  rw [listedFor_result, Option.mem_toList, Option.map_eq_some_iff] at inSeat
  obtain ⟨winner, won, same⟩ := inSeat
  obtain ⟨_, visit, visited, found⟩ := mem_candidatesFor.mp (mem_of_winner? won)
  exact ⟨visit, visited, winner, found, same⟩

/-- Every resource that was found is listed once, and nothing else is. -/
structure ListedOnce (visits : List Visit) (lists : List ResourceList) : Prop where
  cover : lists.length = (homes (visits.map Visit.stop)).length
  once : ∀ visit ∈ visits, ∀ entry ∈ visit.found.value.resources, '/' ∉ entry.name.toList →
    ∃ supplier ∈ visits, ∃ winner ∈ supplier.found.value.resources,
      supplier.stop.group.name = visit.stop.group.name ∧ winner.name = entry.name ∧
      listedFor visits lists { group := visit.stop.group.name, resource := entry.name } =
        [(supplier.stop.home, winner)]
  only : ∀ placed ∈ placements (visits.map Visit.stop) lists,
    '/' ∉ placed.2.name.toList ∧
    ∃ visit ∈ visits, visit.stop.home = placed.1 ∧ placed.2 ∈ visit.found.value.resources

theorem listedOnce_result (visits : List Visit) :
    ListedOnce visits (visits.foldl Ballot.visit {}).result := by
  refine ⟨length_result visits, ?_, ?_⟩
  · intro visit visited entry found plain
    let candidate : Candidate :=
      { home := visit.stop.home, preferred := visit.stop.isPreferred, listed := entry }
    have stands : candidate ∈ candidatesFor visits candidate.seat :=
      mem_candidatesFor.mpr
        ⟨rfl, visit, visited, Visit.mem_candidates.mpr ⟨rfl, rfl, found, plain⟩⟩
    obtain ⟨winner, won⟩ := exists_winner_of_mem stands
    obtain ⟨seatEq, supplier, supplies, offered⟩ := mem_candidatesFor.mp (mem_of_winner? won)
    obtain ⟨homeEq, _, served, _⟩ := Visit.mem_candidates.mp offered
    have outcome := listedFor_result visits candidate.seat
    rw [won] at outcome
    simp only [Candidate.seat, GroupResource.mk.injEq, homeEq] at seatEq
    refine ⟨supplier, supplies, winner.listed, served, seatEq.1, seatEq.2, ?_⟩
    rw [← homeEq]
    exact outcome
  · intro placed isPlaced
    obtain ⟨visit, visited, candidate, stands, rfl⟩ := mem_placements isPlaced
    obtain ⟨homeEq, _, served, plain⟩ := Visit.mem_candidates.mp stands
    exact ⟨plain, visit, visited, homeEq.symm, served⟩

/-- What is listed for a seat is the last preferred entry that stands for it, or else the first one. -/
structure ListedByRule (groups : GroupList) (visits : List Visit) (lists : List ResourceList) :
    Prop where
  winner : ∀ seat, listedFor visits lists seat =
    ((winner? (candidatesFor visits seat)).map Candidate.placement).toList
  last_preferred : ∀ seat before marked after,
    candidatesFor visits seat = before ++ marked :: after → marked.preferred = true →
    (∀ other ∈ after, other.preferred = false) → listedFor visits lists seat = [marked.placement]
  first : ∀ seat candidate rest, candidatesFor visits seat = candidate :: rest →
    (∀ other ∈ candidatesFor visits seat, other.preferred = false) →
    listedFor visits lists seat = [candidate.placement]
  unmarked : ∀ seat before other after,
    candidatesFor visits seat = before ++ other :: after → before ≠ [] → other.preferred = false →
    listedFor visits lists seat =
      ((winner? (before ++ after)).map Candidate.placement).toList
  fallback : ∀ seat candidate rest, candidatesFor visits seat = candidate :: rest →
    (∀ group ∈ groups.groups, group.name = seat.group →
      ∀ preferred, group.preferred = some preferred →
        preferred.version ∉ group.versions.map ServedVersion.version) →
    listedFor visits lists seat = [candidate.placement]

theorem not_preferred_of_undeclared {groups : GroupList} {visits : List Visit}
    (stops : visits.map Visit.stop = groups.stops) {seat : GroupResource}
    (undeclared : ∀ group ∈ groups.groups, group.name = seat.group →
      ∀ preferred, group.preferred = some preferred →
        preferred.version ∉ group.versions.map ServedVersion.version)
    {candidate : Candidate} (stands : candidate ∈ candidatesFor visits seat) :
    candidate.preferred = false := by
  obtain ⟨seatEq, visit, visited, found⟩ := mem_candidatesFor.mp stands
  obtain ⟨homeEq, markedEq, _, _⟩ := Visit.mem_candidates.mp found
  have stopped : visit.stop ∈ groups.stops := by
    rw [← stops]
    exact List.mem_map_of_mem visited
  obtain ⟨inList, declared⟩ := GroupList.mem_stops.mp stopped
  have nameEq : visit.stop.group.name = seat.group := by
    rw [← seatEq, Candidate.seat, homeEq]
    rfl
  rw [markedEq]
  exact Stop.not_preferred_of_undeclared declared (undeclared visit.stop.group inList nameEq)

theorem listedByRule_result {groups : GroupList} {visits : List Visit}
    (stops : visits.map Visit.stop = groups.stops) :
    ListedByRule groups visits (visits.foldl Ballot.visit {}).result := by
  have won := listedFor_result visits
  have first : ∀ seat candidate rest, candidatesFor visits seat = candidate :: rest →
      (∀ other ∈ candidatesFor visits seat, other.preferred = false) →
      listedFor visits (visits.foldl Ballot.visit {}).result seat = [candidate.placement] := by
    intro seat candidate rest split unmarked
    rw [won, winner?_of_unmarked unmarked, split]
    rfl
  refine ⟨won, ?_, first, ?_, ?_⟩
  · intro seat before marked after split preferred unmarked
    rw [won, split, winner?_of_last_preferred preferred unmarked]
    rfl
  · intro seat before other after split met notPreferred
    rw [won, split, winner?_drop_unmarked met notPreferred]
  · intro seat candidate rest split undeclared
    exact first seat candidate rest split fun other stands =>
      not_preferred_of_undeclared stops undeclared stands

/-- A group that is declared twice, with versions that come up again and a name that is listed twice. -/
def Catalogue.contested : Catalogue :=
  { groups :=
      [group "apps" ["v1beta2", "v1"] (some "v1"), group "" ["v1"] none,
        group "apps" ["v1", "v2"] (some "v3")]
    resources :=
      [("apps/v1beta2", [resource "deployments" "Deployment" true]),
        ("apps/v1", [resource "deployments" "Deployment" true,
          resource "deployments" "Rollout" true, resource "deployments/scale" "Scale" true]),
        ("v1", [resource "pods" "Pod" true, resource "pods/status" "Pod" true]),
        ("apps/v2", [resource "daemonsets" "DaemonSet" true,
          resource "deployments" "Deployment" true])] }

def Catalogue.contestedStart : Labelled Catalogue := { state := contested, next := 0 }

def Catalogue.contestedLists : List ResourceList :=
  [{ groupVersion := "apps/v1beta2" },
    { groupVersion := "apps/v1", resources := [resource "deployments" "Rollout" true] },
    { groupVersion := "v1", resources := [resource "pods" "Pod" true] },
    { groupVersion := "apps/v2", resources := [resource "daemonsets" "DaemonSet" true] }]

theorem Catalogue.contested_answered :
    (Catalogue.origin.provider.preferredResources contestedStart).1 = .ok contestedLists := by
  decide +kernel

section Listing

variable {σ : Type}

/-- Every resource of every group is listed exactly once, under a version of the group that served it,
and nothing else is listed. -/
theorem preferredResources_exactly_once (provider : Provider σ) {state later : σ}
    {lists : List ResourceList} (listed : provider.preferredResources state = (.ok lists, later)) :
    ∃ groups middle visits,
      provider.groups state = (.ok groups, middle) ∧
      provider.tour groups.value.stops middle = (.ok visits, later) ∧
      visits.map Visit.stop = groups.value.stops ∧ ListedOnce visits lists := by
  obtain ⟨groups, middle, visits, grouped, toured, rfl⟩ := Provider.preferredResources_eq_ok.mp listed
  have stops := Provider.tour_eq_ok toured
  exact ⟨groups, middle, visits, grouped, toured, stops, listedOnce_result visits⟩

theorem contested_listed_once :
    ∃ later, Catalogue.origin.provider.preferredResources Catalogue.contestedStart =
        (.ok Catalogue.contestedLists, later) ∧
      ∃ groups middle visits,
        Catalogue.origin.provider.groups Catalogue.contestedStart = (.ok groups, middle) ∧
        Catalogue.origin.provider.tour groups.value.stops middle = (.ok visits, later) ∧
        visits.map Visit.stop = groups.value.stops ∧
        ListedOnce visits Catalogue.contestedLists := by
  have listed := Prod.ext_iff.mpr ⟨Catalogue.contested_answered, Eq.refl (Prod.snd _)⟩
  exact ⟨_, listed, preferredResources_exactly_once Catalogue.origin.provider listed⟩

/-- For each resource the last entry that was met under a preferred version is listed, and the first one
where there is none. -/
theorem preferredResources_last_preferred_or_first (provider : Provider σ) {state later : σ}
    {lists : List ResourceList} (listed : provider.preferredResources state = (.ok lists, later)) :
    ∃ groups middle visits,
      provider.groups state = (.ok groups, middle) ∧
      provider.tour groups.value.stops middle = (.ok visits, later) ∧
      visits.map Visit.stop = groups.value.stops ∧ ListedByRule groups.value visits lists := by
  obtain ⟨groups, middle, visits, grouped, toured, rfl⟩ := Provider.preferredResources_eq_ok.mp listed
  have stops := Provider.tour_eq_ok toured
  exact ⟨groups, middle, visits, grouped, toured, stops, listedByRule_result stops⟩

theorem contested_listed_by_rule :
    ∃ later, Catalogue.origin.provider.preferredResources Catalogue.contestedStart =
        (.ok Catalogue.contestedLists, later) ∧
      ∃ groups middle visits,
        Catalogue.origin.provider.groups Catalogue.contestedStart = (.ok groups, middle) ∧
        Catalogue.origin.provider.tour groups.value.stops middle = (.ok visits, later) ∧
        visits.map Visit.stop = groups.value.stops ∧
        ListedByRule groups.value visits Catalogue.contestedLists := by
  have listed := Prod.ext_iff.mpr ⟨Catalogue.contested_answered, Eq.refl (Prod.snd _)⟩
  exact ⟨_, listed, preferredResources_last_preferred_or_first Catalogue.origin.provider listed⟩

end Listing

end ApiDiscovery
