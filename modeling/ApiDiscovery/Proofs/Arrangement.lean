import ApiDiscovery.Proofs.PreferredListing
import Mathlib.Data.List.Forall2

/-!
The order of the preferred listing. Its lists stand in the order in which their group versions are
declared, and the resources of a list in the order in which they were met, whoever won them later on.
-/

namespace ApiDiscovery

def firstDeclared (stops : List Stop) (home : GroupVersion) : Nat := (stops.map Stop.home).idxOf home

def firstMet (visits : List Visit) (seat : GroupResource) : Nat :=
  ((visits.flatMap Visit.candidates).map Candidate.seat).idxOf seat

/-- What the list of one group version says. -/
structure ListOf (visits : List Visit) (home : GroupVersion) (list : ResourceList) : Prop where
  label : ∃ stop, (visits.map Visit.stop).find? (·.home = home) = some stop ∧
    list.groupVersion = stop.served.groupVersion
  winners : ∀ listed, listed ∈ list.resources ↔
    ∃ winner, winner? (candidatesFor visits (seatOf (home, listed))) = some winner ∧
      winner.placement = (home, listed)
  order : list.resources.Pairwise fun earlier later =>
    firstMet visits (seatOf (home, earlier)) < firstMet visits (seatOf (home, later))

/-- There is one list for each group version that is declared, in the order of first declarations. -/
structure Arranged (groups : GroupList) (visits : List Visit) (lists : List ResourceList) : Prop where
  declared : ∀ home, home ∈ homes groups.stops ↔
    ∃ group ∈ groups.groups, ∃ served ∈ group.versions,
      home = { group := group.name, version := served.version }
  order : (homes groups.stops).Pairwise fun earlier later =>
    firstDeclared groups.stops earlier < firstDeclared groups.stops later
  lists : List.Forall₂ (ListOf visits) (homes groups.stops) lists

theorem pairwise_idxOf_eraseDups {α : Type} [DecidableEq α] (items : List α) :
    items.eraseDups.Pairwise fun earlier later => items.idxOf earlier < items.idxOf later := by
  induction items using List.reverseRecOn with
  | nil => exact .nil
  | append_singleton items item ih =>
      have still : ∀ other ∈ items.eraseDups, (items ++ [item]).idxOf other = items.idxOf other :=
        fun other kept => List.idxOf_append_of_mem (List.mem_eraseDups.mp kept)
      have before : items.eraseDups.Pairwise fun earlier later =>
          (items ++ [item]).idxOf earlier < (items ++ [item]).idxOf later := by
        refine ih.imp_of_mem fun {earlier later} first second ordered => ?_
        rwa [still earlier first, still later second]
      rw [eraseDups_concat]
      split
      · exact before
      · -- an item that is new comes behind all that are kept
        rename_i fresh
        rw [List.mem_eraseDups] at fresh
        refine List.pairwise_append.mpr ⟨before, List.pairwise_singleton _ _, ?_⟩
        intro earlier kept later last
        obtain rfl := List.mem_singleton.mp last
        have within := List.idxOf_lt_length_iff.mpr (List.mem_eraseDups.mp kept)
        rw [still earlier kept, List.idxOf_append_of_notMem fresh]
        omega

theorem GroupList.mem_homes_stops {groups : GroupList} {home : GroupVersion} :
    home ∈ homes groups.stops ↔
      ∃ group ∈ groups.groups, ∃ served ∈ group.versions,
        home = { group := group.name, version := served.version } := by
  rw [homes, List.mem_eraseDups, List.mem_map]
  constructor
  · rintro ⟨stop, stops, rfl⟩
    obtain ⟨listed, declared⟩ := GroupList.mem_stops.mp stops
    exact ⟨stop.group, listed, stop.served, declared, rfl⟩
  · rintro ⟨group, listed, served, declared, rfl⟩
    exact ⟨{ group, served }, GroupList.mem_stops.mpr ⟨listed, declared⟩, rfl⟩

theorem pairwise_elected (visits : List Visit) :
    (electAll (visits.flatMap Visit.candidates)).Pairwise fun earlier later =>
      firstMet visits earlier.seat < firstMet visits later.seat := by
  have ordered := pairwise_idxOf_eraseDups ((visits.flatMap Visit.candidates).map Candidate.seat)
  rw [← map_seat_electAll, List.pairwise_map] at ordered
  exact ordered

theorem mem_elected_at {visits : List Visit} {home : GroupVersion} {listed : ListedResource} :
    listed ∈ ((electAll (visits.flatMap Visit.candidates)).filter (·.home = home)).map
        Candidate.listed ↔
      ∃ winner, winner? (candidatesFor visits (seatOf (home, listed))) = some winner ∧
        winner.placement = (home, listed) := by
  simp only [List.mem_map, List.mem_filter, decide_eq_true_eq, mem_electAll]
  constructor
  · rintro ⟨winner, ⟨won, rfl⟩, rfl⟩
    exact ⟨winner, won, rfl⟩
  · rintro ⟨winner, won, placed⟩
    obtain ⟨rfl, rfl⟩ := Prod.mk.inj placed
    exact ⟨winner, ⟨won, rfl⟩, rfl⟩

theorem listOf_result (visits : List Visit) :
    List.Forall₂ (ListOf visits) (homes (visits.map Visit.stop))
      (visits.foldl Ballot.visit {}).result := by
  rw [(Ballot.matches_visits visits).result, ← map_home_openAll, List.forall₂_map_left_iff,
    List.forall₂_map_right_iff, List.forall₂_same]
  intro stop opens
  refine ⟨⟨stop, find?_of_mem_openAll opens, rfl⟩, fun listed => mem_elected_at, ?_⟩
  -- the list is part of those elected, and in this part the seat can be told from the home and the name
  have here : ∀ candidate ∈ (electAll (visits.flatMap Visit.candidates)).filter
      (·.home = stop.home), seatOf (stop.home, candidate.listed) = candidate.seat := by
    intro candidate stands
    have homeEq : candidate.home = stop.home := by simpa using (List.mem_filter.mp stands).2
    rw [← homeEq]
    rfl
  rw [List.pairwise_map]
  refine ((pairwise_elected visits).filter _).imp_of_mem fun {earlier later} first second met => ?_
  rwa [here earlier first, here later second]

theorem arranged_result {groups : GroupList} {visits : List Visit}
    (stops : visits.map Visit.stop = groups.stops) :
    Arranged groups visits (visits.foldl Ballot.visit {}).result := by
  refine ⟨fun home => GroupList.mem_homes_stops, pairwise_idxOf_eraseDups _, ?_⟩
  rw [← stops]
  exact listOf_result visits

def Catalogue.renamed : Catalogue :=
  { groups :=
      [{ name := "apps"
         preferred := some { groupVersion := "apps/v1", version := "v1" }
         versions :=
          [{ groupVersion := "apps/v1beta1", version := "v1beta1" },
            { groupVersion := "apps/v1beta2", version := "v1beta2" },
            { groupVersion := "apps/v1", version := "v1" },
            { groupVersion := "apps/beta", version := "v1beta1" }] }]
    resources :=
      [("apps/v1beta1", [resource "daemonsets" "DaemonSet" true,
          resource "deployments" "Deployment" true]),
        ("apps/v1beta2", [resource "deployments" "Deployment" true]),
        ("apps/v1", [resource "replicasets" "ReplicaSet" true,
          resource "deployments" "Deployment" true, resource "daemonsets" "DaemonSet" true]),
        ("apps/beta", [resource "scalers" "Scaler" true])] }

def Catalogue.renamedStart : Labelled Catalogue := { state := renamed, next := 0 }

def Catalogue.renamedLists : List ResourceList :=
  [{ groupVersion := "apps/v1beta1", resources := [resource "scalers" "Scaler" true] },
    { groupVersion := "apps/v1beta2" },
    { groupVersion := "apps/v1"
      resources :=
        [resource "daemonsets" "DaemonSet" true, resource "deployments" "Deployment" true,
          resource "replicasets" "ReplicaSet" true] }]

section Listing

variable {σ : Type}

/-- The preferred listing has one list for each group version that is declared, empty or not, in the
order of first declarations and under their labels; in it stand the winners that were found there, in
the order in which they were first met anywhere. -/
theorem preferredResources_arranged (provider : Provider σ) {state later : σ}
    {lists : List ResourceList} (listed : provider.preferredResources state = (.ok lists, later)) :
    ∃ groups middle visits,
      provider.groups state = (.ok groups, middle) ∧
      provider.tour groups.value.stops middle = (.ok visits, later) ∧
      visits.map Visit.stop = groups.value.stops ∧ Arranged groups.value visits lists := by
  obtain ⟨groups, middle, visits, grouped, toured, rfl⟩ := Provider.preferredResources_eq_ok.mp listed
  have stops := Provider.tour_eq_ok toured
  exact ⟨groups, middle, visits, grouped, toured, stops, arranged_result stops⟩

theorem renamed_arranged :
    ∃ later, Catalogue.origin.provider.preferredResources Catalogue.renamedStart =
        (.ok Catalogue.renamedLists, later) ∧
      ∃ groups middle visits,
        Catalogue.origin.provider.groups Catalogue.renamedStart = (.ok groups, middle) ∧
        Catalogue.origin.provider.tour groups.value.stops middle = (.ok visits, later) ∧
        visits.map Visit.stop = groups.value.stops ∧
        Arranged groups.value visits Catalogue.renamedLists := by
  have answered : (Catalogue.origin.provider.preferredResources Catalogue.renamedStart).1 =
      .ok Catalogue.renamedLists := by
    decide +kernel
  have listed := Prod.ext_iff.mpr ⟨answered, Eq.refl (Prod.snd _)⟩
  exact ⟨_, listed, preferredResources_arranged Catalogue.origin.provider listed⟩

end Listing

end ApiDiscovery
