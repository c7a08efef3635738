import ApiDiscovery.Proofs.Tour
import Mathlib.Data.List.Induction

/-!
The election behind the preferred listing, without places: candidates stand in the order in which they
are met, and of those for one seat the last preferred one wins, or else the first one.
-/

namespace ApiDiscovery

structure Candidate where
  home : GroupVersion
  preferred : Bool
  listed : ListedResource

namespace Candidate

def seat (candidate : Candidate) : GroupResource :=
  { group := candidate.home.group, resource := candidate.listed.name }

def placement (candidate : Candidate) : GroupVersion × ListedResource :=
  (candidate.home, candidate.listed)

end Candidate

def Visit.candidates (visit : Visit) : List Candidate :=
  (visit.found.value.resources.filter fun listed => !namesSubresource listed.name).map fun listed =>
    { home := visit.stop.home, preferred := visit.stop.isPreferred, listed }

/-- The last preferred candidate, or else the first one. -/
def winner? (candidates : List Candidate) : Option Candidate :=
  (candidates.filter Candidate.preferred).getLast?.or candidates.head?

def handOver (elected : List Candidate) (candidate : Candidate) : List Candidate :=
  elected.map fun holder => if holder.seat = candidate.seat then candidate else holder

def elect (elected : List Candidate) (candidate : Candidate) : List Candidate :=
  if candidate.seat ∈ elected.map Candidate.seat then
    if candidate.preferred then handOver elected candidate else elected
  else elected ++ [candidate]

def electAll (candidates : List Candidate) : List Candidate := candidates.foldl elect []

/-- Whether those elected are the winners of the seats that were stood for. -/
def Decides (elected stood : List Candidate) : Prop :=
  ∀ seat, elected.filter (·.seat = seat) = (winner? (stood.filter (·.seat = seat))).toList

def openAt (opened : List Stop) (stop : Stop) : List Stop :=
  if stop.home ∈ opened.map Stop.home then opened else opened ++ [stop]

def openAll (stops : List Stop) : List Stop := stops.foldl openAt []

def homes (stops : List Stop) : List GroupVersion := (stops.map Stop.home).eraseDups

theorem namesSubresource_iff (name : String) : namesSubresource name = true ↔ '/' ∈ name.toList := by
  simp [namesSubresource, isSlash]

theorem Visit.mem_candidates {visit : Visit} {candidate : Candidate} :
    candidate ∈ visit.candidates ↔
      candidate.home = visit.stop.home ∧ candidate.preferred = visit.stop.isPreferred ∧
        candidate.listed ∈ visit.found.value.resources ∧ '/' ∉ candidate.listed.name.toList := by
  rcases candidate with ⟨home, preferred, listed⟩
  simp only [candidates, List.mem_map, List.mem_filter, Bool.not_eq_eq_eq_not, Bool.not_true,
    ← Bool.not_eq_true, namesSubresource_iff, Candidate.mk.injEq]
  constructor
  · rintro ⟨entry, ⟨entryFound, plain⟩, rfl, rfl, rfl⟩
    exact ⟨rfl, rfl, entryFound, plain⟩
  · rintro ⟨homeEq, preferredEq, listedFound, plain⟩
    exact ⟨listed, ⟨listedFound, plain⟩, homeEq.symm, preferredEq.symm, rfl⟩

section Rule

theorem winner?_concat (candidates : List Candidate) (candidate : Candidate) :
    winner? (candidates ++ [candidate]) =
      if candidate.preferred then some candidate
      else (winner? candidates).or (some candidate) := by
  by_cases preferred : candidate.preferred = true
  · simp [winner?, preferred]
  · simp [winner?, preferred]

theorem winner?_eq_none {candidates : List Candidate} :
    winner? candidates = none ↔ candidates = [] := by
  constructor
  · intro nobody
    rw [winner?, Option.or_eq_none_iff] at nobody
    exact List.head?_eq_none_iff.mp nobody.2
  · rintro rfl
    rfl

theorem mem_of_winner? {candidates : List Candidate} {winner : Candidate}
    (won : winner? candidates = some winner) : winner ∈ candidates := by
  rw [winner?, Option.or_eq_some_iff] at won
  rcases won with lastPreferred | ⟨_, first⟩
  · exact (List.mem_filter.mp (List.mem_of_getLast? lastPreferred)).1
  · exact List.mem_of_head? first

theorem exists_winner_of_mem {candidates : List Candidate} {candidate : Candidate}
    (stands : candidate ∈ candidates) : ∃ winner, winner? candidates = some winner := by
  rw [← Option.ne_none_iff_exists', Ne, winner?_eq_none]
  exact List.ne_nil_of_mem stands

theorem winner?_of_last_preferred {before after : List Candidate} {candidate : Candidate}
    (preferred : candidate.preferred = true) (unmarked : ∀ other ∈ after, other.preferred = false) :
    winner? (before ++ candidate :: after) = some candidate := by
  have noneAfter : after.filter Candidate.preferred = [] := by
    rw [List.filter_eq_nil_iff]
    intro other otherAfter
    simp [unmarked other otherAfter]
  simp [winner?, preferred, noneAfter]

theorem winner?_of_unmarked {candidates : List Candidate}
    (unmarked : ∀ candidate ∈ candidates, candidate.preferred = false) :
    winner? candidates = candidates.head? := by
  have nonePreferred : candidates.filter Candidate.preferred = [] := by
    rw [List.filter_eq_nil_iff]
    intro candidate stands
    simp [unmarked candidate stands]
  simp [winner?, nonePreferred]

theorem winner?_drop_unmarked {before after : List Candidate} {candidate : Candidate}
    (met : before ≠ []) (unmarked : candidate.preferred = false) :
    winner? (before ++ candidate :: after) = winner? (before ++ after) := by
  rcases before with _ | ⟨first, rest⟩
  · exact absurd rfl met
  · simp [winner?, unmarked]

end Rule

section Run

theorem eraseDups_concat {α : Type} [DecidableEq α] (items : List α) (item : α) :
    (items ++ [item]).eraseDups =
      if item ∈ items.eraseDups then items.eraseDups else items.eraseDups ++ [item] := by
  have later : (items ++ [item]).eraseDups =
      items.eraseDups ++ ([item].filter fun other => !items.elem other).eraseDups :=
    List.eraseDups_append
  rw [later]
  by_cases met : item ∈ items
  · have nothing : [item].filter (fun other => !items.elem other) = [] := by simp [met]
    rw [nothing, if_pos (List.mem_eraseDups.mpr met), List.eraseDups_nil, List.append_nil]
  · have alone : [item].filter (fun other => !items.elem other) = [item] := by simp [met]
    rw [alone, if_neg fun again => met (List.mem_eraseDups.mp again)]
    rfl

theorem map_foldl_keys {α κ : Type} [DecidableEq κ] {step : List α → α → List α} {key : α → κ}
    (adds : ∀ kept item, (step kept item).map key =
      if key item ∈ kept.map key then kept.map key else kept.map key ++ [key item])
    (items : List α) : (items.foldl step []).map key = (items.map key).eraseDups := by
  induction items using List.reverseRecOn with
  | nil => rfl
  | append_singleton items item ih =>
      rw [List.foldl_append, List.foldl_cons, List.foldl_nil, adds, ih, List.map_append,
        List.map_singleton, eraseDups_concat]

theorem map_home_openAll (stops : List Stop) : (openAll stops).map Stop.home = homes stops := by
  refine map_foldl_keys (fun opened stop => ?_) stops
  rw [openAt]
  split
  · rfl
  · rw [List.map_append, List.map_singleton]

theorem find?_of_mem_openAll {stops : List Stop} {stop : Stop} (opens : stop ∈ openAll stops) :
    stops.find? (·.home = stop.home) = some stop := by
  induction stops using List.reverseRecOn with
  | nil => cases opens
  | append_singleton stops last ih =>
      have concat : openAll (stops ++ [last]) = openAt (openAll stops) last := by
        rw [openAll, List.foldl_append]
        rfl
      rw [concat, openAt, map_home_openAll] at opens
      rw [List.find?_append]
      split at opens
      · rw [ih opens, Option.some_or]
      · -- the last stop has opened a list because no stop before it has its home
        rename_i fresh
        rcases List.mem_append.mp opens with earlier | same
        · rw [ih earlier, Option.some_or]
        · obtain rfl := List.mem_singleton.mp same
          have absent : stops.find? (·.home = stop.home) = none := by
            simpa [homes, List.mem_eraseDups] using fresh
          rw [absent, Option.none_or]
          simp

theorem filter_handOver_of_ne (elected : List Candidate) {candidate : Candidate} {seat : GroupResource}
    (other : candidate.seat ≠ seat) :
    (handOver elected candidate).filter (·.seat = seat) = elected.filter (·.seat = seat) := by
  unfold handOver
  induction elected with
  | nil => rfl
  | cons holder rest ih =>
      rw [List.map_cons, List.filter_cons, List.filter_cons, ih]
      by_cases replaced : holder.seat = candidate.seat
      · simp [replaced, other]
      · simp [replaced]

theorem filter_handOver_self (elected : List Candidate) (candidate : Candidate) :
    (handOver elected candidate).filter (·.seat = candidate.seat) =
      (elected.filter (·.seat = candidate.seat)).map fun _ => candidate := by
  unfold handOver
  induction elected with
  | nil => rfl
  | cons holder rest ih =>
      rw [List.map_cons, List.filter_cons, List.filter_cons, ih]
      by_cases replaced : holder.seat = candidate.seat
      · simp [replaced]
      · simp [replaced]

theorem map_seat_handOver (elected : List Candidate) (candidate : Candidate) :
    (handOver elected candidate).map Candidate.seat = elected.map Candidate.seat := by
  rw [handOver, List.map_map]
  refine List.map_congr_left fun holder _ => ?_
  by_cases replaced : holder.seat = candidate.seat
  · simp [replaced]
  · simp [replaced]

theorem map_seat_electAll (candidates : List Candidate) :
    (electAll candidates).map Candidate.seat = (candidates.map Candidate.seat).eraseDups := by
  refine map_foldl_keys (fun elected candidate => ?_) candidates
  rw [elect]
  split
  · split
    · exact map_seat_handOver elected candidate
    · rfl
  · rw [List.map_append, List.map_singleton]

theorem Decides.step {elected stood : List Candidate} (decides : Decides elected stood)
    (candidate : Candidate) : Decides (elect elected candidate) (stood ++ [candidate]) := by
  intro seat
  have before := decides seat
  rw [List.filter_append]
  by_cases own : candidate.seat = seat
  · subst own
    have concat := winner?_concat (stood.filter (·.seat = candidate.seat)) candidate
    have alone : [candidate].filter (·.seat = candidate.seat) = [candidate] := by simp
    rw [alone, concat, elect]
    rcases held : winner? (stood.filter (·.seat = candidate.seat)) with _ | winner
    · rw [held] at before
      have free : candidate.seat ∉ elected.map Candidate.seat := by
        simpa [List.filter_eq_nil_iff] using before
      rw [if_neg free, List.filter_append, before]
      simp
    · rw [held] at before
      have taken : candidate.seat ∈ elected.map Candidate.seat := by
        have winnerIn : winner ∈ elected.filter (·.seat = candidate.seat) := by simp [before]
        simp only [List.mem_filter, decide_eq_true_eq] at winnerIn
        exact List.mem_map.mpr ⟨winner, winnerIn.1, winnerIn.2⟩
      rw [if_pos taken]
      by_cases preferred : candidate.preferred = true
      · rw [if_pos preferred, if_pos preferred, filter_handOver_self, before]
        rfl
      · rw [if_neg preferred, if_neg preferred, before]
        rfl
  · have absent : [candidate].filter (·.seat = seat) = [] := by simp [own]
    rw [absent, List.append_nil, ← before, elect]
    split
    · split
      · exact filter_handOver_of_ne elected own
      · rfl
    · simp [own]

theorem Decides.run {elected stood : List Candidate} (decides : Decides elected stood)
    (candidates : List Candidate) :
    Decides (candidates.foldl elect elected) (stood ++ candidates) := by
  induction candidates generalizing elected stood with
  | nil => simpa using decides
  | cons candidate rest ih =>
      have next := ih (decides.step candidate)
      simpa using next

theorem decides_nil : Decides [] [] := by
  intro seat
  rfl

theorem decides_electAll (candidates : List Candidate) : Decides (electAll candidates) candidates :=
  decides_nil.run candidates

theorem mem_electAll {candidates : List Candidate} {candidate : Candidate} :
    candidate ∈ electAll candidates ↔
      winner? (candidates.filter (·.seat = candidate.seat)) = some candidate := by
  rw [← Option.mem_toList, ← decides_electAll candidates candidate.seat, List.mem_filter]
  simp

theorem mem_of_mem_electAll {candidates : List Candidate} {candidate : Candidate}
    (elected : candidate ∈ electAll candidates) : candidate ∈ candidates :=
  (List.mem_filter.mp (mem_of_winner? (mem_electAll.mp elected))).1

end Run

end ApiDiscovery
