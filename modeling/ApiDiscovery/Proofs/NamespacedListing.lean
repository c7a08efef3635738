import ApiDiscovery.Proofs.PreferredListing
import Mathlib.Data.List.Forall2

/-!
The namespaced listing holds the winners that are namespaced. Where the winner is not, nothing is listed:
what was found under another version does not take its place.
-/

namespace ApiDiscovery

structure NamespacedPart (full kept : ResourceList) : Prop where
  label : kept.groupVersion = full.groupVersion
  resources : kept.resources = full.resources.filter ListedResource.namespaced

structure WinnersInNamespaces (visits : List Visit) (all lists : List ResourceList) : Prop where
  each : List.Forall₂ NamespacedPart all lists
  placed : placements (visits.map Visit.stop) lists =
    (placements (visits.map Visit.stop) all).filter fun placed => placed.2.namespaced
  winner : ∀ seat, listedFor visits lists seat =
    (((winner? (candidatesFor visits seat)).filter (·.listed.namespaced)).map
      Candidate.placement).toList
  listed : ∀ seat, seat ∈ (placements (visits.map Visit.stop) lists).map seatOf ↔
    ∃ winner, winner? (candidatesFor visits seat) = some winner ∧ winner.listed.namespaced = true
  absent : ∀ seat winner, winner? (candidatesFor visits seat) = some winner →
    winner.listed.namespaced = false → listedFor visits lists seat = []

theorem namespacedPart_namespacedOnly (all : List ResourceList) :
    List.Forall₂ NamespacedPart all (namespacedOnly all) := by
  rw [namespacedOnly, List.forall₂_map_right_iff, List.forall₂_same]
  intro full _
  exact ⟨rfl, rfl⟩

theorem placements_namespacedOnly (stops : List Stop) (all : List ResourceList) :
    placements stops (namespacedOnly all) =
      (placements stops all).filter fun placed => placed.2.namespaced := by
  rw [placements, placements, namespacedOnly, List.zip_map_right, List.flatMap_map,
    List.filter_flatMap]
  refine List.flatMap_congr fun pair _ => ?_
  rw [List.filter_map]
  rfl

theorem listedFor_namespacedOnly (visits : List Visit) (all : List ResourceList)
    (seat : GroupResource) :
    listedFor visits (namespacedOnly all) seat =
      (listedFor visits all seat).filter fun placed => placed.2.namespaced := by
  rw [listedFor, listedFor, placements_namespacedOnly]
  exact List.filter_comm _ _ _

theorem mem_seats_iff {visits : List Visit} {lists : List ResourceList} {seat : GroupResource} :
    seat ∈ (placements (visits.map Visit.stop) lists).map seatOf ↔ listedFor visits lists seat ≠ [] := by
  rw [listedFor, Ne, List.filter_eq_nil_iff, List.mem_map]
  simp

theorem listedFor_namespaced_result (visits : List Visit) (seat : GroupResource) :
    listedFor visits (namespacedOnly (visits.foldl Ballot.visit {}).result) seat =
      (((winner? (candidatesFor visits seat)).filter (·.listed.namespaced)).map
        Candidate.placement).toList := by
  rw [listedFor_namespacedOnly, listedFor_result]
  cases winner? (candidatesFor visits seat) with
  | none => rfl
  | some winner =>
      by_cases namespaced : winner.listed.namespaced = true
      · simp [Candidate.placement, Option.filter, namespaced]
      · simp [Candidate.placement, Option.filter, namespaced]

theorem winnersInNamespaces_result (visits : List Visit) :
    WinnersInNamespaces visits (visits.foldl Ballot.visit {}).result
      (namespacedOnly (visits.foldl Ballot.visit {}).result) := by
  have won := listedFor_namespaced_result visits
  refine ⟨namespacedPart_namespacedOnly _, placements_namespacedOnly _ _, won, ?_, ?_⟩
  · intro seat
    rw [mem_seats_iff, won]
    cases winner? (candidatesFor visits seat) <;> simp
  · intro seat winner elected clustered
    rw [won, elected]
    simp [Option.filter, clustered]

def Catalogue.rescoped : Catalogue :=
  { groups := [group "example.io" ["v1alpha1", "v1", "v2"] (some "v1")]
    resources :=
      [("example.io/v1alpha1", [resource "widgets" "Widget" true, resource "gadgets" "Gadget" false]),
        ("example.io/v1", [resource "gadgets" "Gadget" true, resource "widgets" "Widget" false,
          resource "gears" "Gear" true]),
        ("example.io/v2", [resource "widgets" "Widget" true])] }

def Catalogue.rescopedStart : Labelled Catalogue := { state := rescoped, next := 0 }

def Catalogue.rescopedLists : List ResourceList :=
  [{ groupVersion := "example.io/v1alpha1" },
    { groupVersion := "example.io/v1"
      resources :=
        [resource "widgets" "Widget" false, resource "gadgets" "Gadget" true,
          resource "gears" "Gear" true] },
    { groupVersion := "example.io/v2" }]

section Listing

variable {σ : Type}

/-- Where the preferred listing succeeds, the namespaced one does, with the same lists. A resource is in it
just when its winner over all versions is namespaced, and then as that winner, in the same list and in the
same order. -/
theorem preferredNamespacedResources_keep_winners (provider : Provider σ) {state later : σ}
    {all : List ResourceList} (listed : provider.preferredResources state = (.ok all, later)) :
    ∃ lists groups middle visits,
      provider.preferredNamespacedResources state = (.ok lists, later) ∧
      provider.groups state = (.ok groups, middle) ∧
      provider.tour groups.value.stops middle = (.ok visits, later) ∧
      visits.map Visit.stop = groups.value.stops ∧ WinnersInNamespaces visits all lists := by
  have kept : provider.preferredNamespacedResources state = (.ok (namespacedOnly all), later) :=
    Exchange.map_eq_ok.mpr ⟨all, listed, rfl⟩
  obtain ⟨groups, middle, visits, grouped, toured, rfl⟩ := Provider.preferredResources_eq_ok.mp listed
  exact ⟨_, groups, middle, visits, kept, grouped, toured, Provider.tour_eq_ok toured,
    winnersInNamespaces_result visits⟩

theorem rescoped_keep_winners :
    ∃ later, Catalogue.origin.provider.preferredResources Catalogue.rescopedStart =
        (.ok Catalogue.rescopedLists, later) ∧
      ∃ lists groups middle visits,
        Catalogue.origin.provider.preferredNamespacedResources Catalogue.rescopedStart =
          (.ok lists, later) ∧
        Catalogue.origin.provider.groups Catalogue.rescopedStart = (.ok groups, middle) ∧
        Catalogue.origin.provider.tour groups.value.stops middle = (.ok visits, later) ∧
        visits.map Visit.stop = groups.value.stops ∧
        WinnersInNamespaces visits Catalogue.rescopedLists lists ∧
        lists.map (fun list => list.resources.map ListedResource.name) = [[], ["gadgets", "gears"], []] := by
  have answered : (Catalogue.origin.provider.preferredResources Catalogue.rescopedStart).1 =
      .ok Catalogue.rescopedLists := by
    decide +kernel
  have listed := Prod.ext_iff.mpr ⟨answered, Eq.refl (Prod.snd _)⟩
  obtain ⟨lists, groups, middle, visits, kept, grouped, toured, stops, winners⟩ :=
    preferredNamespacedResources_keep_winners Catalogue.origin.provider listed
  have names : (Catalogue.origin.provider.preferredNamespacedResources Catalogue.rescopedStart).1.map
      (List.map fun list => list.resources.map ListedResource.name) =
        .ok [[], ["gadgets", "gears"], []] := by
    decide +kernel
  rw [kept] at names
  exact ⟨_, listed, lists, groups, middle, visits, kept, grouped, toured, stops, winners,
    Except.ok.inj names⟩

end Listing

end ApiDiscovery
