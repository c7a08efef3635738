import ApiDiscovery.Proofs.Resumption

/-!
What the listings ask a provider, whatever it answers: the groups, and then the resources under every
declared group version, in order and up to the first question that fails. In this the listings are alike.
What a computation asks is put together from what its parts ask.
-/

namespace ApiDiscovery

namespace Provider

variable {σ α : Type}

/-- What is done with a provider has this outcome, whether or not its calls are written down; these are
the calls, and no other is written down. -/
structure Asks (provider : Provider σ) (ask : (τ : Type) → Provider τ → Exchange τ α) (start : σ)
    (calls : List Call) (outcome : Except Failure α) (last : σ) : Prop where
  asked : ask _ provider start = (outcome, last)
  recorded : ∀ earlier, ask _ provider.recorded (start, earlier) = (outcome, (last, earlier ++ calls))
  answered : provider.Conversation start calls last

def questions (provider : Provider σ) (state : σ) : List Query :=
  match (provider.groups state).1 with
  | .ok list => .groups :: list.value.declared.map .resources
  | .error _ => [.groups]

namespace Asks

variable {β : Type} {provider : Provider σ} {ask : (τ : Type) → Provider τ → Exchange τ α}
  {start middle last : σ} {calls others : List Call}

theorem nothing (value : α) (state : σ) :
    provider.Asks (fun _ _ => pure value) state [] (.ok value) state where
  asked := rfl
  recorded := fun earlier => by
    rw [List.append_nil]
    rfl
  answered := .done state

theorem read {query : Query} {outcome : Except Failure (Shared query.Answer)}
    (answered : provider.ask query start = (outcome, last)) :
    provider.Asks (fun _ asked => asked.ask query) start [⟨query, outcome⟩] outcome last where
  asked := answered
  recorded := recorded_ask answered
  answered := .call answered (.done last)

theorem bind {value : α} {next : α → (τ : Type) → Provider τ → Exchange τ β}
    {outcome : Except Failure β} (first : provider.Asks ask start calls (.ok value) middle)
    (rest : provider.Asks (next value) middle others outcome last) :
    provider.Asks (fun τ asked => ask τ asked >>= fun value => next value τ asked) start
      (calls ++ others) outcome last where
  asked := by
    rw [Exchange.bind_apply, first.asked]
    exact rest.asked
  recorded := fun earlier => by
    rw [Exchange.bind_apply, first.recorded, ← List.append_assoc]
    exact rest.recorded _
  answered := first.answered.append rest.answered

theorem bind_error {failure : Failure} (first : provider.Asks ask start calls (.error failure) last)
    (next : α → (τ : Type) → Provider τ → Exchange τ β) :
    provider.Asks (fun τ asked => ask τ asked >>= fun value => next value τ asked) start calls
      (.error failure) last where
  asked := by rw [Exchange.bind_apply, first.asked]
  recorded := fun earlier => by rw [Exchange.bind_apply, first.recorded]
  answered := first.answered

theorem map {outcome : Except Failure α} (first : provider.Asks ask start calls outcome last)
    (change : α → β) :
    provider.Asks (fun τ asked => change <$> ask τ asked) start calls (change <$> outcome) last := by
  cases outcome with
  | error failure => exact first.bind_error fun value _ _ => pure (change value)
  | ok value =>
      have mapped : provider.Asks (fun τ asked => ask τ asked >>= fun value => pure (change value))
          start (calls ++ []) (.ok (change value)) last :=
        first.bind (nothing (change value) last)
      rwa [List.append_nil] at mapped

end Asks

theorem tour_asks (provider : Provider σ) (stops : List Stop) (start : σ) :
    ∃ calls visits last,
      provider.Asks (fun _ asked => asked.tour stops) start calls visits last ∧
      Follows Call.query Call.failure? (stops.map Stop.query) calls (failure? visits) := by
  induction stops generalizing start with
  | nil => exact ⟨[], .ok [], start, .nothing [] start, .done⟩
  | cons stop stops ih =>
      cases read : provider.resources stop.apiVersion start with
      | mk outcome middle =>
          cases outcome with
          | error failure =>
              have failed : Call.failure? ⟨stop.query, .error failure⟩ = some failure := rfl
              exact ⟨[⟨stop.query, .error failure⟩], .error failure, middle,
                (Asks.read read).bind_error _, .stop failed _⟩
          | ok found =>
              obtain ⟨calls, visits, last, goesOn, follows⟩ := ih middle
              have fine : Call.failure? ⟨stop.query, .ok found⟩ = none := rfl
              refine ⟨⟨stop.query, .ok found⟩ :: calls, ({ stop, found } :: ·) <$> visits, last,
                (Asks.read read).bind (goesOn.map _), ?_⟩
              rw [failure?_map]
              exact .next fine follows

/-- Every listing makes the same calls and is left in the same state; what it comes to is made of the same
visits. -/
theorem list_asks (provider : Provider σ) (start : σ) :
    ∃ calls visits last,
      Follows Call.query Call.failure? (provider.questions start) calls (failure? visits) ∧
      ∀ listing : Listing,
        provider.Asks (fun _ asked => asked.list listing) start calls (listing.ofVisits <$> visits) last := by
  simp only [list_eq_tour]
  cases grouped : provider.groups start with
  | mk outcome middle =>
      cases outcome with
      | error failure =>
          have failed : Call.failure? ⟨.groups, .error failure⟩ = some failure := rfl
          refine ⟨[⟨.groups, .error failure⟩], .error failure, middle, ?_, fun listing => ?_⟩
          · rw [questions, grouped]
            exact .stop failed []
          · exact (Asks.read grouped).bind_error _
      | ok list =>
          obtain ⟨calls, visits, last, toured, follows⟩ := provider.tour_asks list.value.stops middle
          have fine : Call.failure? ⟨.groups, .ok list⟩ = none := rfl
          have declared : list.value.declared.map .resources = list.value.stops.map Stop.query :=
            List.map_map
          refine ⟨⟨.groups, .ok list⟩ :: calls, visits, last, ?_, fun listing => ?_⟩
          · rw [questions, grouped]
            simp only [declared]
            exact .next fine follows
          · exact (Asks.read grouped).bind (toured.map listing.ofVisits)

end Provider

theorem exists_visit_of_listed {visits : List Visit} {list : ResourceList} {listed : ListedResource}
    (isList : list ∈ (visits.foldl Ballot.visit {}).result) (isListed : listed ∈ list.resources) :
    ∃ visit ∈ visits, listed ∈ visit.found.value.resources := by
  rw [(Ballot.matches_visits visits).result, List.mem_map] at isList
  obtain ⟨stop, _, rfl⟩ := isList
  obtain ⟨candidate, stands, rfl⟩ := List.mem_map.mp isListed
  have elected := mem_of_mem_electAll (List.mem_filter.mp stands).1
  obtain ⟨visit, visited, found⟩ := List.mem_flatMap.mp elected
  exact ⟨visit, visited, (Visit.mem_candidates.mp found).2.2.1⟩

section Listings

variable {σ : Type}

/-- From whatever state, all listings make the same calls, those that are to be made up to the first that
fails, and leave the provider in the same state; they all fail with this failure or all succeed, and then
what the preferred listing holds is in one of the lists of the full listing. -/
theorem listings_ask_alike (provider : Provider σ) (state : σ) :
    ∃ calls outcome later,
      Follows Call.query Call.failure? (provider.questions state) calls outcome ∧
      (∀ listing : Listing, ∃ result,
        provider.Asks (fun _ asked => asked.list listing) state calls result later ∧
        failure? result = outcome) ∧
      ∀ pages lists, (provider.allResources state).1 = .ok pages →
        (provider.preferredResources state).1 = .ok lists →
        ∀ list ∈ lists, ∀ listed ∈ list.resources, ∃ page ∈ pages, listed ∈ page.value.resources := by
  obtain ⟨calls, visits, later, follows, asks⟩ := provider.list_asks state
  refine ⟨calls, failure? visits, later, follows, ?_, ?_⟩
  · intro listing
    exact ⟨_, asks listing, failure?_map _ _⟩
  · intro pages lists listedAll listedPreferred list isList listed isListed
    have all : provider.allResources state = (_, later) := (asks .all).asked
    have preferred : provider.preferredResources state = (_, later) := (asks .preferred).asked
    rw [all] at listedAll
    rw [preferred] at listedPreferred
    obtain ⟨seen, rfl, rfl⟩ := Except.map_eq_ok.mp listedAll
    cases listedPreferred
    obtain ⟨visit, visited, found⟩ := exists_visit_of_listed isList isListed
    exact ⟨visit.found, List.mem_map_of_mem visited, found⟩

/-- A group version that is declared twice is asked for twice. -/
theorem contested_listings_ask_alike :
    let provider := Catalogue.origin.provider
    ∃ calls later pages lists,
      calls.map Call.query =
        [.groups, .resources "apps/v1beta2", .resources "apps/v1", .resources "v1",
          .resources "apps/v1", .resources "apps/v2"] ∧
      (∀ listing : Listing, ∃ result,
        provider.Asks (fun _ asked => asked.list listing) Catalogue.contestedStart calls result later ∧
        failure? result = none) ∧
      provider.allResources Catalogue.contestedStart = (.ok pages, later) ∧
      provider.preferredResources Catalogue.contestedStart = (.ok lists, later) ∧
      (∃ list ∈ lists, list.resources ≠ []) ∧
      ∀ list ∈ lists, ∀ listed ∈ list.resources, ∃ page ∈ pages, listed ∈ page.value.resources := by
  intro provider
  obtain ⟨calls, outcome, later, follows, alike, found⟩ :=
    listings_ask_alike provider Catalogue.contestedStart
  obtain ⟨all, asksAll, allFailed⟩ := alike .all
  obtain ⟨preferred, asksPreferred, preferredFailed⟩ := alike .preferred
  have listedAll : provider.allResources Catalogue.contestedStart = (all, later) := asksAll.asked
  have listedPreferred : provider.preferredResources Catalogue.contestedStart = (preferred, later) :=
    asksPreferred.asked
  have answered : (provider.preferredResources Catalogue.contestedStart).1 =
      .ok Catalogue.contestedLists := Catalogue.contested_answered
  have succeeded : preferred = .ok Catalogue.contestedLists := by
    rwa [listedPreferred] at answered
  subst succeeded
  have fine : outcome = none := preferredFailed.symm
  subst fine
  cases all with
  | error failure => cases allFailed
  | ok pages =>
      refine ⟨calls, later, pages, _, ?_, alike, listedAll, listedPreferred, by decide, ?_⟩
      · rw [follows.map_eq_of_done]
        decide +kernel
      · exact found pages _ (congrArg Prod.fst listedAll) answered

end Listings

end ApiDiscovery
