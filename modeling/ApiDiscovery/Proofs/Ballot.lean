import ApiDiscovery.Proofs.Election
import Mathlib.Data.List.Nodup

/-!
A ballot keeps the election at places: its indexes tell where the list of a group version and the winner
of a seat stand, and no place is ever wrong. So the lists it ends with are those of the plain election.
-/

namespace ApiDiscovery

def Places {κ : Type} [DecidableEq κ] (index : List (κ × Nat)) (keys : List κ) : Prop :=
  ∀ key place, index.lookup key = some place ↔ keys[place]? = some key

namespace Places

variable {κ : Type} [DecidableEq κ] {index : List (κ × Nat)} {keys : List κ}

theorem nil : Places ([] : List (κ × Nat)) [] := by
  intro key place
  simp

theorem lookup_eq_none (places : Places index keys) {key : κ} :
    index.lookup key = none ↔ key ∉ keys := by
  rw [Option.eq_none_iff_forall_ne_some, List.mem_iff_getElem?, not_exists]
  exact forall_congr' fun place => not_congr (places key place)

theorem nodup (places : Places index keys) : keys.Nodup := by
  rw [List.nodup_iff_getElem?_ne_getElem?]
  intro first second before bound same
  have present : keys[second]? = some keys[second] := List.getElem?_eq_getElem bound
  have firstPlace := (places keys[second] first).mpr (same.trans present)
  have secondPlace := (places keys[second] second).mpr present
  rw [firstPlace, Option.some.injEq] at secondPlace
  omega

theorem concat (places : Places index keys) {key : κ} (fresh : key ∉ keys) :
    Places ((key, keys.length) :: index) (keys ++ [key]) := by
  intro other place
  have position : (keys ++ [key])[place]? = some other ↔
      keys[place]? = some other ∨ place = keys.length ∧ key = other := by
    rcases Nat.lt_trichotomy place keys.length with before | rfl | after
    · rw [List.getElem?_append_left before]
      constructor
      · exact Or.inl
      · rintro (found | ⟨rfl, _⟩)
        · exact found
        · omega
    · simp
    · rw [List.getElem?_eq_none (by simp; omega), List.getElem?_eq_none (by omega)]
      simp
      omega
  rw [List.lookup_cons, position]
  by_cases same : other = key
  · subst same
    have absent : keys[place]? ≠ some other := by
      intro found
      exact fresh (List.mem_of_getElem? found)
    simp only [beq_self_eq_true, Option.some.injEq, absent, false_or, and_true]
    exact eq_comm
  · simp only [beq_eq_false_iff_ne.mpr same, places other place, Ne.symm same, and_false, or_false]

theorem modify_map {α β : Type} {items : List α} {name : α → κ} {key : κ} {place : Nat}
    (places : Places index (items.map name)) (found : index.lookup key = some place)
    (stored : α → β) (change : β → β) :
    (items.map stored).modify place change =
      items.map fun item => if name item = key then change (stored item) else stored item := by
  apply List.ext_getElem?
  intro position
  rw [List.getElem?_modify, List.getElem?_map, List.getElem?_map]
  rcases present : items[position]? with _ | item
  · simp
  · have nameAt : (items.map name)[position]? = some (name item) := by simp [present]
    have placed := (places (name item) position).mpr nameAt
    by_cases named : name item = key
    · rw [named, found, Option.some.injEq] at placed
      simp [named, placed]
    · have elsewhere : place ≠ position := by
        rintro rfl
        have here := (places key place).mp found
        rw [nameAt, Option.some.injEq] at here
        exact named here
      simp [named, elsewhere]

end Places

def Stop.emptyList (stop : Stop) : ResourceList := { groupVersion := stop.served.groupVersion }

namespace Ballot

/-- Whether a ballot stands where the plain election does: which stops have opened lists, and who is
elected. -/
structure Matches (ballot : Ballot) (opened : List Stop) (elected : List Candidate) : Prop where
  lists : ballot.lists.toList = opened.map Stop.emptyList
  listPlaces : Places ballot.listPlaces (opened.map Stop.home)
  winners : ballot.winners.toList = elected.map Candidate.placement
  winnerPlaces : Places ballot.winnerPlaces (elected.map Candidate.seat)

namespace Matches

variable {ballot : Ballot} {opened : List Stop} {elected : List Candidate}

theorem start : Matches {} [] [] where
  lists := rfl
  listPlaces := Places.nil
  winners := rfl
  winnerPlaces := Places.nil

theorem openList (same : ballot.Matches opened elected) (stop : Stop) :
    (ballot.openList stop.home stop.served.groupVersion).Matches (openAt opened stop) elected := by
  have size : ballot.lists.size = (opened.map Stop.home).length := by
    rw [← Array.length_toList, same.lists, List.length_map, List.length_map]
  rw [Ballot.openList, openAt]
  rcases found : ballot.listPlaces.lookup stop.home with _ | place
  · have fresh := same.listPlaces.lookup_eq_none.mp found
    rw [if_neg fresh]
    constructor
    · simp [same.lists, Stop.emptyList]
    · simpa [size] using same.listPlaces.concat fresh
    · exact same.winners
    · exact same.winnerPlaces
  · have met : stop.home ∈ opened.map Stop.home :=
      List.mem_of_getElem? ((same.listPlaces stop.home place).mp found)
    rw [if_pos met]
    exact same

theorem enter (same : ballot.Matches opened elected) (candidate : Candidate) :
    (Ballot.enter candidate.home candidate.preferred ballot candidate.listed).Matches opened
      (elect elected candidate) := by
  have size : ballot.winners.size = (elected.map Candidate.seat).length := by
    rw [← Array.length_toList, same.winners, List.length_map, List.length_map]
  have seatEq : { group := candidate.home.group, resource := candidate.listed.name } =
      candidate.seat := rfl
  rw [Ballot.enter, elect, seatEq]
  rcases found : ballot.winnerPlaces.lookup candidate.seat with _ | place
  · have free := same.winnerPlaces.lookup_eq_none.mp found
    rw [if_neg free]
    constructor
    · exact same.lists
    · exact same.listPlaces
    · simp [same.winners, Candidate.placement]
    · simpa [size] using same.winnerPlaces.concat free
  · have taken : candidate.seat ∈ elected.map Candidate.seat :=
      List.mem_of_getElem? ((same.winnerPlaces candidate.seat place).mp found)
    rw [if_pos taken]
    by_cases preferred : candidate.preferred = true
    · rw [if_pos preferred]
      simp only [preferred, if_true]
      constructor
      · exact same.lists
      · exact same.listPlaces
      · have changed := same.winnerPlaces.modify_map found Candidate.placement
          fun _ => candidate.placement
        rw [Array.toList_setIfInBounds, same.winners, List.set_eq_modify]
        refine changed.trans ?_
        rw [handOver, List.map_map]
        refine List.map_congr_left fun holder _ => ?_
        by_cases replaced : holder.seat = candidate.seat
        · simp [replaced]
        · simp [replaced]
      · rw [map_seat_handOver]
        exact same.winnerPlaces
    · rw [if_neg preferred]
      simp only [preferred]
      exact same

theorem enterAll (same : ballot.Matches opened elected) (home : GroupVersion) (preferred : Bool)
    (standing : List ListedResource) :
    (standing.foldl (Ballot.enter home preferred) ballot).Matches opened
      ((standing.map fun listed => { home, preferred, listed }).foldl elect elected) := by
  induction standing generalizing ballot elected with
  | nil => exact same
  | cons listed rest ih => exact ih (same.enter { home, preferred, listed })

theorem visit (same : ballot.Matches opened elected) (visit : Visit) :
    (ballot.visit visit).Matches (openAt opened visit.stop) (visit.candidates.foldl elect elected) :=
  (same.openList visit.stop).enterAll visit.stop.home visit.stop.isPreferred _

theorem visitAll (same : ballot.Matches opened elected) (visits : List Visit) :
    (visits.foldl Ballot.visit ballot).Matches ((visits.map Visit.stop).foldl openAt opened)
      ((visits.flatMap Visit.candidates).foldl elect elected) := by
  induction visits generalizing ballot opened elected with
  | nil => exact same
  | cons visit rest ih =>
      have next := ih (same.visit visit)
      simpa [List.foldl_append] using next

theorem settle (same : ballot.Matches opened elected) (contents : Stop → ResourceList)
    (candidate : Candidate) {lists : Array ResourceList}
    (filled : lists.toList = opened.map contents) :
    (ballot.settle lists candidate.placement).toList =
      opened.map fun stop =>
        if stop.home = candidate.home then
          { contents stop with resources := (contents stop).resources ++ [candidate.listed] }
        else contents stop := by
  rw [Ballot.settle, Candidate.placement]
  rcases found : ballot.listPlaces.lookup candidate.home with _ | place
  · have unopened := same.listPlaces.lookup_eq_none.mp found
    simp only
    rw [filled]
    refine List.map_congr_left fun stop isOpened => ?_
    have elsewhere : stop.home ≠ candidate.home := by
      rintro homeEq
      exact unopened (List.mem_map.mpr ⟨stop, isOpened, homeEq⟩)
    rw [if_neg elsewhere]
  · simp only
    rw [Array.toList_modify, filled]
    exact same.listPlaces.modify_map found contents _

theorem settleAll (same : ballot.Matches opened elected) (contents : Stop → ResourceList)
    (candidates : List Candidate) {lists : Array ResourceList}
    (filled : lists.toList = opened.map contents) :
    ((candidates.map Candidate.placement).foldl ballot.settle lists).toList =
      opened.map fun stop =>
        { contents stop with
          resources := (contents stop).resources ++
            (candidates.filter (·.home = stop.home)).map Candidate.listed } := by
  induction candidates generalizing lists contents with
  | nil => simpa using filled
  | cons candidate rest ih =>
      have next := ih _ (same.settle contents candidate filled)
      rw [List.map_cons, List.foldl_cons, next]
      refine List.map_congr_left fun stop _ => ?_
      by_cases here : stop.home = candidate.home
      · simp [here]
      · simp [here, Ne.symm here]

theorem result (same : ballot.Matches opened elected) :
    ballot.result = opened.map fun stop =>
      { groupVersion := stop.served.groupVersion
        resources := (elected.filter (·.home = stop.home)).map Candidate.listed } := by
  have settled := same.settleAll Stop.emptyList elected same.lists
  rw [Ballot.result, ← Array.foldl_toList, same.winners, settled]
  simp [Stop.emptyList]

end Matches

/-- After all visits a ballot stands where the plain election does. -/
theorem matches_visits (visits : List Visit) :
    (visits.foldl Ballot.visit {}).Matches (openAll (visits.map Visit.stop))
      (electAll (visits.flatMap Visit.candidates)) :=
  Matches.start.visitAll visits

end Ballot

end ApiDiscovery
