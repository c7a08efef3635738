import ApiDiscovery.Proofs.Agenda
import ApiDiscovery.Proofs.Memoization
import ApiDiscovery.Proofs.Tour
import ApiDiscovery.Proofs.PreferredListing

/-!
Listings through a cache, one after another. A listing that failed has kept what was answered before the
failure, so the next one goes on where it stopped, and once a listing has succeeded no more is asked.
-/

namespace ApiDiscovery

def Call.failure? (call : Call) : Option Failure := ApiDiscovery.failure? call.outcome

structure Pass where
  listing : Listing
  calls : List Call
  result : Except Failure listing.Result

def Pass.failure? (pass : Pass) : Option Failure := ApiDiscovery.failure? pass.result

abbrev Stop.apiVersion (stop : Stop) : String := stop.served.groupVersion

abbrev Stop.query (stop : Stop) : Query := .resources stop.apiVersion

def GroupList.declared (list : GroupList) : List String := list.stops.map Stop.apiVersion

namespace Provider

variable {σ : Type}

def callsOfListing (provider : Provider σ) (listing : Listing) (held : Cache × σ) : List Call :=
  (provider.recorded.cached.list listing (held.1, (held.2, []))).2.2.2

def pass (provider : Provider σ) (listing : Listing) (held : Cache × σ) : Pass × (Cache × σ) :=
  let done := provider.cached.list listing held
  ({ listing, calls := provider.callsOfListing listing held, result := done.1 }, done.2)

def passes (provider : Provider σ) : List Listing → Cache × σ → List Pass × (Cache × σ)
  | [], held => ([], held)
  | listing :: rest, held =>
      let done := provider.pass listing held
      let others := provider.passes rest done.2
      (done.1 :: others.1, others.2)

end Provider

namespace Cache

def Holds (cache : Cache) (apiVersion : String) : Prop :=
  (cache.find? (Query.resources apiVersion).key).isSome = true

instance (cache : Cache) (apiVersion : String) : Decidable (cache.Holds apiVersion) :=
  inferInstanceAs (Decidable (_ = true))

def pending (cache : Cache) (apiVersions : List String) : List String :=
  (apiVersions.filter fun apiVersion => ¬cache.Holds apiVersion).eraseDups

def wanted (cache : Cache) : Option (Shared GroupList) → List Query
  | some list => (cache.pending list.value.declared).map .resources
  | none => []

theorem length_wanted (cache : Cache) (list : Shared GroupList) :
    (cache.wanted (some list)).length = (cache.pending list.value.declared).length := by
  rw [wanted, List.length_map]

def agenda (cache : Cache) (groups : Option (Shared GroupList)) : List Query :=
  (if cache.groups.isSome then [] else [.groups]) ++ cache.wanted groups

theorem agenda_of_held {cache : Cache} {list : Shared Query.groups.Answer}
    (known : cache.find? Query.groups.key = some list) (groups : Option (Shared GroupList)) :
    cache.agenda groups = cache.wanted groups := by
  have held : cache.groups = some list := known
  rw [agenda, held]
  rfl

theorem agenda_of_missing {cache : Cache} (missing : cache.find? Query.groups.key = none)
    (groups : Option (Shared GroupList)) : cache.agenda groups = .groups :: cache.wanted groups := by
  have unheld : cache.groups = none := missing
  rw [agenda, unheld]
  rfl

def GoesBy (cache : Cache) (list : Shared GroupList) : Prop :=
  ∀ other, cache.groups = some other → other = list

theorem find?_fill_iff {cache : Cache} {query : Query} (missing : cache.find? query.key = none)
    {answer : Shared query.Answer} {key : Key} {other : Shared key.Answer} :
    (cache.fill query.key answer).find? key = some other ↔
      Call.Answered { query, outcome := .ok answer } key other ∨ cache.find? key = some other := by
  by_cases same : key = query.key
  · subst same
    simp [find?_fill_self, Call.answered_ok_iff, missing, eq_comm]
  · have unanswered : ¬Call.Answered { query, outcome := .ok answer } key other :=
      fun answered => same answered.key_eq.symm
    simp [find?_fill_of_ne _ _ same, unanswered]

theorem holds_fill {cache : Cache} {apiVersion : String}
    {answer : Shared (Query.resources apiVersion).Answer} {other : String} :
    (cache.fill (Query.resources apiVersion).key answer).Holds other ↔ other = apiVersion ∨ cache.Holds other := by
  unfold Holds
  by_cases same : other = apiVersion
  · subst same
    rw [find?_fill_self]
    simp
  · have different : (Query.resources other).key ≠ (Query.resources apiVersion).key :=
      fun equal => same (by cases equal; rfl)
    rw [find?_fill_of_ne _ _ different]
    simp [same]

theorem pending_of_holds {cache : Cache} {apiVersion : String} (held : cache.Holds apiVersion)
    (rest : List String) : cache.pending (apiVersion :: rest) = cache.pending rest := by
  simp [pending, held]

theorem pending_of_not_holds {cache : Cache} {apiVersion : String} (missing : ¬cache.Holds apiVersion)
    (rest : List String) :
    cache.pending (apiVersion :: rest) = apiVersion :: cache.pending (rest.filter (· ≠ apiVersion)) := by
  rw [pending, List.filter_cons_of_pos (by simpa using missing), List.eraseDups_cons, pending,
    List.filter_filter, List.filter_filter]
  refine congrArg (apiVersion :: List.eraseDups ·) (List.filter_congr fun other _ => ?_)
  rw [Bool.and_comm]
  simp [Bool.beq_eq_decide_eq]

theorem pending_fill (cache : Cache) {apiVersion : String}
    (answer : Shared (Query.resources apiVersion).Answer) (rest : List String) :
    (cache.fill (Query.resources apiVersion).key answer).pending rest =
      cache.pending (rest.filter (· ≠ apiVersion)) := by
  rw [pending, pending, List.filter_filter]
  refine congrArg List.eraseDups (List.filter_congr fun other _ => ?_)
  simp [holds_fill, not_or, Bool.and_comm]

end Cache

/-- The visits are at these stops, and what was found there is what the cache holds. -/
structure Cache.Shows (cache : Cache) (stops : List Stop) (visits : List Visit) : Prop where
  stops_eq : visits.map Visit.stop = stops
  found : ∀ visit ∈ visits, cache.find? visit.stop.query.key = some visit.found

namespace Cache.Shows

variable {cache : Cache} {stops : List Stop} {visits : List Visit}

theorem nil (cache : Cache) : cache.Shows [] [] :=
  { stops_eq := rfl, found := fun _ member => absurd member List.not_mem_nil }

theorem cons (shows : cache.Shows stops visits) {stop : Stop} {found : Shared stop.query.Answer}
    (held : cache.find? stop.query.key = some found) :
    cache.Shows (stop :: stops) ({ stop, found } :: visits) :=
  { stops_eq := by rw [List.map_cons, shows.stops_eq]
    found := List.forall_mem_cons.mpr ⟨held, shows.found⟩ }

theorem holds (shows : cache.Shows stops visits) : ∀ stop ∈ stops, cache.Holds stop.apiVersion := by
  intro stop member
  rw [← shows.stops_eq, List.mem_map] at member
  obtain ⟨visit, visited, rfl⟩ := member
  exact Option.isSome_iff_exists.mpr ⟨visit.found, shows.found visit visited⟩

theorem unique (shows : cache.Shows stops visits) {others : List Visit}
    (again : cache.Shows stops others) : others = visits := by
  have read : ∀ {seen : List Visit}, cache.Shows stops seen →
      seen.map (fun visit => (visit.stop, some visit.found)) =
        stops.map fun stop => (stop, cache.find? stop.query.key) := by
    intro seen shown
    rw [← shown.stops_eq, List.map_map]
    exact List.map_congr_left fun visit member => by rw [Function.comp_apply, shown.found visit member]
  have injective : ∀ first second : Visit,
      (first.stop, some first.found) = (second.stop, some second.found) → first = second := by
    rintro ⟨stop, found⟩ ⟨otherStop, otherFound⟩ same
    simpa using same
  exact (List.map_inj_right injective).mp ((read again).trans (read shows).symm)

end Cache.Shows

/-- How a tour goes through a cache: it finds resources there, or asks for them and keeps the answer, up
to the first question that fails. -/
inductive Provider.Gathers {σ : Type} (provider : Provider σ) :
    List Stop → Cache × σ → List Call → Except Failure (List Visit) → Cache × σ → Prop
  | done (held : Cache × σ) : Gathers provider [] held [] (.ok []) held
  | hit {stop : Stop} {stops : List Stop} {cache : Cache} {state : σ}
      {found : Shared stop.query.Answer} {calls : List Call} {visits : Except Failure (List Visit)}
      {last : Cache × σ} (held : cache.find? stop.query.key = some found)
      (rest : Gathers provider stops (cache, state) calls visits last) :
      Gathers provider (stop :: stops) (cache, state) calls (({ stop, found } :: ·) <$> visits) last
  | fetch {stop : Stop} {stops : List Stop} {cache : Cache} {state next : σ}
      {found : Shared stop.query.Answer} {calls : List Call} {visits : Except Failure (List Visit)}
      {last : Cache × σ} (missing : cache.find? stop.query.key = none)
      (asked : provider.ask stop.query state = (.ok found, next))
      (rest : Gathers provider stops (cache.fill stop.query.key found, next) calls visits last) :
      Gathers provider (stop :: stops) (cache, state)
        ({ query := stop.query, outcome := .ok found } :: calls) (({ stop, found } :: ·) <$> visits) last
  | fail {stop : Stop} {stops : List Stop} {cache : Cache} {state next : σ} {failure : Failure}
      (missing : cache.find? stop.query.key = none)
      (asked : provider.ask stop.query state = (.error failure, next)) :
      Gathers provider (stop :: stops) (cache, state)
        [{ query := stop.query, outcome := .error failure }] (.error failure) (cache, next)

theorem Provider.tour_gathers {σ : Type} (provider : Provider σ) (stops : List Stop) (cache : Cache)
    (state : σ) :
    ∃ calls visits last, provider.Gathers stops (cache, state) calls visits last ∧
      provider.cached.tour stops (cache, state) = (visits, last) ∧
      ∀ earlier, provider.recorded.cached.tour stops (cache, (state, earlier)) =
        (visits, (last.1, (last.2, earlier ++ calls))) := by
  induction stops generalizing cache state with
  | nil =>
      refine ⟨[], .ok [], (cache, state), .done _, rfl, fun earlier => ?_⟩
      rw [List.append_nil]
      rfl
  | cons stop rest ih =>
      cases held : cache.find? stop.query.key with
      | some found =>
          obtain ⟨calls, visits, last, gathers, toured, recorded⟩ := ih cache state
          refine ⟨calls, _, last, .hit held gathers,
            tour_cons_of_ok (cached_ask_of_held _ held state) toured, fun earlier => ?_⟩
          exact tour_cons_of_ok (cached_ask_of_held _ held (state, earlier)) (recorded earlier)
      | none =>
          cases asked : provider.ask stop.query state with
          | mk outcome next =>
              cases outcome with
              | ok found =>
                  obtain ⟨calls, visits, last, gathers, toured, recorded⟩ :=
                    ih (cache.fill stop.query.key found) next
                  refine ⟨_, _, last, .fetch held asked gathers,
                    tour_cons_of_ok (cached_ask_of_answered _ held asked) toured, fun earlier => ?_⟩
                  have more := recorded (earlier ++ [⟨stop.query, .ok found⟩])
                  rw [List.append_assoc, List.singleton_append] at more
                  exact tour_cons_of_ok (cached_ask_of_answered _ held (recorded_ask asked earlier)) more
              | error failure =>
                  refine ⟨_, _, (cache, next), .fail held asked,
                    tour_cons_of_error (cached_ask_of_failed _ held asked) rest, fun earlier => ?_⟩
                  exact tour_cons_of_error (cached_ask_of_failed _ held (recorded_ask asked earlier)) rest

namespace Provider.Gathers

variable {σ : Type} {provider : Provider σ} {stops : List Stop} {held last : Cache × σ}
  {calls : List Call} {visits : Except Failure (List Visit)}

theorem conversation (gathers : provider.Gathers stops held calls visits last) :
    provider.Conversation held.2 calls last.2 := by
  induction gathers with
  | done held => exact .done held.2
  | hit _ _ ih => exact ih
  | fetch _ asked _ ih => exact .call asked ih
  | fail _ asked => exact .call asked (.done _)

theorem groups_eq (gathers : provider.Gathers stops held calls visits last) :
    last.1.groups = held.1.groups := by
  induction gathers with
  | done _ => rfl
  | hit _ _ ih => exact ih
  | fetch _ _ _ ih => exact ih
  | fail _ _ => rfl

theorem kept (gathers : provider.Gathers stops held calls visits last) (key : Key)
    (answer : Shared key.Answer) :
    last.1.find? key = some answer ↔
      held.1.find? key = some answer ∨ ∃ call ∈ calls, call.Answered key answer := by
  induction gathers with
  | done _ => simp
  | hit _ _ ih => exact ih
  | fetch missing _ _ ih =>
      rw [ih, Cache.find?_fill_iff missing, or_assoc, or_left_comm]
      simp
  | fail _ _ => simp [Call.not_answered_error]

theorem holds_mono (gathers : provider.Gathers stops held calls visits last) {apiVersion : String}
    (holds : held.1.Holds apiVersion) : last.1.Holds apiVersion := by
  obtain ⟨answer, found⟩ := Option.isSome_iff_exists.mp holds
  exact Option.isSome_iff_exists.mpr ⟨answer, (gathers.kept _ answer).mpr (Or.inl found)⟩

theorem follows (gathers : provider.Gathers stops held calls visits last) :
    Follows Call.query Call.failure? ((held.1.pending (stops.map Stop.apiVersion)).map .resources) calls
      (failure? visits) := by
  induction gathers with
  | done _ => exact .done
  | @hit stop _ cache _ found _ _ _ known _ ih =>
      have holds : cache.Holds stop.apiVersion := Option.isSome_iff_exists.mpr ⟨found, known⟩
      rw [List.map_cons, Cache.pending_of_holds holds, failure?_map]
      exact ih
  | @fetch stop _ cache _ _ found _ _ _ missing _ _ ih =>
      have unheld : ¬cache.Holds stop.apiVersion := by simp [Cache.Holds, missing]
      rw [Cache.pending_fill] at ih
      have fine : Call.failure? ⟨stop.query, .ok found⟩ = none := rfl
      rw [List.map_cons, Cache.pending_of_not_holds unheld, failure?_map]
      exact .next fine ih
  | @fail stop _ cache _ _ failure missing _ =>
      have unheld : ¬cache.Holds stop.apiVersion := by simp [Cache.Holds, missing]
      have failed : Call.failure? ⟨stop.query, .error failure⟩ = some failure := rfl
      rw [List.map_cons, Cache.pending_of_not_holds unheld]
      exact .stop failed _

theorem shows_last (gathers : provider.Gathers stops held calls visits last) {seen : List Visit}
    (ended : visits = .ok seen) : last.1.Shows stops seen := by
  induction gathers generalizing seen with
  | done _ =>
      cases ended
      exact .nil _
  | hit known rest ih =>
      obtain ⟨others, toured, rfl⟩ := Except.map_eq_ok.mp ended
      exact (ih toured).cons ((rest.kept _ _).mpr (Or.inl known))
  | @fetch stop _ cache _ _ found _ _ _ missing _ rest ih =>
      obtain ⟨others, toured, rfl⟩ := Except.map_eq_ok.mp ended
      have filled := cache.find?_fill_self stop.query.key found
      exact (ih toured).cons ((rest.kept _ _).mpr (Or.inl filled))
  | fail _ _ => cases ended

theorem length_calls (gathers : provider.Gathers stops held calls visits last) :
    calls.length + (last.1.pending (stops.map Stop.apiVersion)).length =
      (held.1.pending (stops.map Stop.apiVersion)).length + (failure? visits).toList.length := by
  induction gathers with
  | done _ => rfl
  | @hit stop _ cache _ found _ _ _ known rest ih =>
      have holds : cache.Holds stop.apiVersion := Option.isSome_iff_exists.mpr ⟨found, known⟩
      rw [List.map_cons, Cache.pending_of_holds holds, Cache.pending_of_holds (rest.holds_mono holds),
        failure?_map]
      exact ih
  | @fetch stop _ cache _ _ found _ _ _ missing _ rest ih =>
      have unheld : ¬cache.Holds stop.apiVersion := by simp [Cache.Holds, missing]
      have filled := rest.holds_mono (Cache.holds_fill.mpr (Or.inl rfl))
      rw [Cache.pending_fill] at ih
      rw [List.map_cons, Cache.pending_of_not_holds unheld, Cache.pending_of_holds filled, failure?_map,
        List.length_cons, List.length_cons]
      omega
  | fail _ _ => rw [List.length_singleton, Nat.add_comm]; rfl

theorem of_complete (gathers : provider.Gathers stops held calls visits last)
    (complete : ∀ stop ∈ stops, held.1.Holds stop.apiVersion) :
    calls = [] ∧ last = held ∧ failure? visits = none := by
  induction gathers with
  | done _ => exact ⟨rfl, rfl, rfl⟩
  | hit _ _ ih =>
      rw [failure?_map]
      exact ih fun stop member => complete stop (.tail _ member)
  | fetch missing _ _ _ => simpa [Cache.Holds, missing] using complete _ List.mem_cons_self
  | fail missing _ => simpa [Cache.Holds, missing] using complete _ List.mem_cons_self

end Provider.Gathers

inductive Provider.Lists {σ : Type} (provider : Provider σ) : Pass → Cache × σ → Cache × σ → Prop
  | held {listing : Listing} {cache : Cache} {state : σ} {list : Shared Query.groups.Answer}
      {calls : List Call} {visits : Except Failure (List Visit)} {last : Cache × σ}
      (known : cache.find? Query.groups.key = some list)
      (rest : provider.Gathers (GroupList.stops list.value) (cache, state) calls visits last) :
      Lists provider { listing, calls, result := listing.ofVisits <$> visits } (cache, state) last
  | fetched {listing : Listing} {cache : Cache} {state next : σ} {list : Shared Query.groups.Answer}
      {calls : List Call} {visits : Except Failure (List Visit)} {last : Cache × σ}
      (missing : cache.find? Query.groups.key = none)
      (asked : provider.ask .groups state = (.ok list, next))
      (rest : provider.Gathers (GroupList.stops list.value) (cache.fill Query.groups.key list, next)
        calls visits last) :
      Lists provider
        { listing
          calls := { query := .groups, outcome := .ok list } :: calls
          result := listing.ofVisits <$> visits }
        (cache, state) last
  | failed {listing : Listing} {cache : Cache} {state next : σ} {failure : Failure}
      (missing : cache.find? Query.groups.key = none)
      (asked : provider.ask .groups state = (.error failure, next)) :
      Lists provider
        { listing
          calls := [{ query := .groups, outcome := .error failure }]
          result := .error failure }
        (cache, state) (cache, next)

theorem Provider.pass_lists {σ : Type} (provider : Provider σ) (listing : Listing) (held : Cache × σ) :
    provider.Lists (provider.pass listing held).1 held (provider.pass listing held).2 := by
  obtain ⟨cache, state⟩ := held
  have performed : ∃ calls result last, provider.Lists { listing, calls, result } (cache, state) last ∧
      provider.cached.list listing (cache, state) = (result, last) ∧
      provider.recorded.cached.list listing (cache, (state, [])) =
        (result, (last.1, (last.2, calls))) := by
    cases known : cache.find? Query.groups.key with
    | some list =>
        obtain ⟨calls, visits, last, gathers, toured, recorded⟩ :=
          provider.tour_gathers (GroupList.stops list.value) cache state
        exact ⟨calls, _, last, .held known gathers,
          list_of_ok listing (cached_ask_of_held _ known state) toured,
          list_of_ok listing (cached_ask_of_held _ known (state, [])) (recorded [])⟩
    | none =>
        cases asked : provider.ask .groups state with
        | mk outcome next =>
            have recording := recorded_ask asked []
            cases outcome with
            | ok list =>
                obtain ⟨calls, visits, last, gathers, toured, recorded⟩ :=
                  provider.tour_gathers (GroupList.stops list.value) (cache.fill .groups list) next
                exact ⟨_, _, last, .fetched known asked gathers,
                  list_of_ok listing (cached_ask_of_answered _ known asked) toured,
                  list_of_ok listing (cached_ask_of_answered _ known recording) (recorded _)⟩
            | error failure =>
                exact ⟨_, _, (cache, next), .failed known asked,
                  list_of_error listing (cached_ask_of_failed _ known asked),
                  list_of_error listing (cached_ask_of_failed _ known recording)⟩
  obtain ⟨calls, result, last, lists, done, recorded⟩ := performed
  simp only [pass, callsOfListing, done, recorded]
  exact lists

/-- What one listing does to a cache. It asks what the agenda says, in order and up to the first failure,
which is then its own; and it keeps all that was answered. If it succeeds, it goes by what is held. -/
structure Pass.Resumes {σ : Type} (pass : Pass) (provider : Provider σ) (before after : Cache × σ) :
    Prop where
  conversation : provider.Conversation before.2 pass.calls after.2
  follows : Follows Call.query Call.failure? (before.1.agenda after.1.groups) pass.calls pass.failure?
  kept : ∀ key answer, after.1.find? key = some answer ↔
    before.1.find? key = some answer ∨ ∃ call ∈ pass.calls, call.Answered key answer
  handed : ∀ result, pass.result = .ok result → ∃ list visits, after.1.groups = some list ∧
    after.1.Shows list.value.stops visits ∧ result = pass.listing.ofVisits visits

namespace Provider.Lists

variable {σ : Type} {provider : Provider σ} {pass : Pass} {before after : Cache × σ}

theorem resumes (lists : provider.Lists pass before after) : pass.Resumes provider before after := by
  cases lists with
  | @held _ cache state list _ visits _ known gathers =>
      have groups : after.1.groups = some list := gathers.groups_eq.trans known
      refine ⟨gathers.conversation, ?_, gathers.kept, ?_⟩
      · rw [Cache.agenda_of_held known, groups, Pass.failure?, failure?_map]
        exact gathers.follows
      · intro result ended
        obtain ⟨seen, toured, rfl⟩ := Except.map_eq_ok.mp ended
        exact ⟨list, seen, groups, gathers.shows_last toured, rfl⟩
  | @fetched _ cache state next list calls visits _ missing asked gathers =>
      have groups : after.1.groups = some list := gathers.groups_eq
      refine ⟨.call asked gathers.conversation, ?_, ?_, ?_⟩
      · have fine : Call.failure? ⟨.groups, .ok list⟩ = none := rfl
        rw [Cache.agenda_of_missing missing, groups, Pass.failure?, failure?_map]
        exact .next fine gathers.follows
      · intro key answer
        rw [gathers.kept, Cache.find?_fill_iff missing, or_assoc, or_left_comm]
        simp
      · intro result ended
        obtain ⟨seen, toured, rfl⟩ := Except.map_eq_ok.mp ended
        exact ⟨list, seen, groups, gathers.shows_last toured, rfl⟩
  | @failed _ cache state next failure missing asked =>
      refine ⟨.call asked (.done next), ?_, ?_, ?_⟩
      · have failed : Call.failure? ⟨.groups, .error failure⟩ = some failure := rfl
        rw [Cache.agenda_of_missing missing]
        exact .stop failed _
      · simp [Call.not_answered_error]
      · intro result ended
        cases ended

theorem length_calls (lists : provider.Lists pass before after) {list : Shared GroupList}
    (goesBy : after.1.GoesBy list) :
    pass.calls.length + (after.1.agenda (some list)).length =
      (before.1.agenda (some list)).length + pass.failure?.toList.length := by
  cases lists with
  | held known gathers =>
      have still := gathers.groups_eq.trans known
      cases goesBy _ still
      rw [Cache.agenda_of_held known, Cache.agenda_of_held still, Pass.failure?, failure?_map,
        Cache.length_wanted, Cache.length_wanted]
      exact gathers.length_calls
  | @fetched _ cache _ _ list _ _ _ missing _ gathers =>
      have filled := gathers.groups_eq
      cases goesBy _ filled
      have counted := gathers.length_calls
      have same : ∀ apiVersions,
          (cache.fill Query.groups.key list).pending apiVersions = cache.pending apiVersions := fun _ => rfl
      rw [same] at counted
      rw [Cache.agenda_of_missing missing, Cache.agenda_of_held filled, Pass.failure?, failure?_map,
        List.length_cons, List.length_cons, Cache.length_wanted, Cache.length_wanted, Nat.add_right_comm,
        Nat.add_right_comm _ 1]
      exact congrArg (· + 1) counted
  | failed missing _ =>
      rw [List.length_singleton, Nat.add_comm]
      rfl

theorem of_shown (lists : provider.Lists pass before after) {list : Shared GroupList}
    {visits : List Visit} (known : before.1.groups = some list)
    (shows : before.1.Shows list.value.stops visits) :
    pass.calls = [] ∧ after = before ∧ pass.result = .ok (pass.listing.ofVisits visits) := by
  cases lists with
  | held own gathers =>
      cases own.symm.trans known
      obtain ⟨silent, rfl, fine⟩ := gathers.of_complete shows.holds
      obtain ⟨seen, ended⟩ := failure?_eq_none.mp fine
      cases shows.unique (gathers.shows_last ended)
      exact ⟨silent, rfl, by rw [ended]; rfl⟩
  | fetched missing _ _ => cases missing.symm.trans known
  | failed missing _ => cases missing.symm.trans known

end Provider.Lists

namespace Provider

variable {σ : Type} (provider : Provider σ)

theorem passes_listings (listings : List Listing) (held : Cache × σ) :
    (provider.passes listings held).1.map Pass.listing = listings := by
  induction listings generalizing held with
  | nil => rfl
  | cons listing rest ih => exact congrArg (listing :: ·) (ih _)

theorem groups_pass {held : Cache × σ} {list : Shared GroupList} (known : held.1.groups = some list)
    (listing : Listing) : (provider.pass listing held).2.1.groups = some list :=
  ((provider.pass_lists listing held).resumes.kept .groups list).mpr (Or.inl known)

theorem goesBy_passes {listings : List Listing} {held : Cache × σ} {list : Shared GroupList}
    (goesBy : (provider.passes listings held).2.1.GoesBy list) : held.1.GoesBy list := by
  intro other known
  induction listings generalizing held with
  | nil => exact goesBy other known
  | cons listing rest ih => exact ih goesBy (provider.groups_pass known listing)

theorem length_calls_passes (listings : List Listing) {held : Cache × σ} {list : Shared GroupList}
    (goesBy : (provider.passes listings held).2.1.GoesBy list) :
    ((provider.passes listings held).1.flatMap Pass.calls).length +
        ((provider.passes listings held).2.1.agenda (some list)).length =
      (held.1.agenda (some list)).length +
        ((provider.passes listings held).1.filterMap Pass.failure?).length := by
  induction listings generalizing held with
  | nil => simp [passes]
  | cons listing rest ih =>
      have others := ih goesBy
      have first := (provider.pass_lists listing held).length_calls (provider.goesBy_passes goesBy)
      have failures : ∀ (pass : Pass) (more : List Pass),
          ((pass :: more).filterMap Pass.failure?).length =
            pass.failure?.toList.length + (more.filterMap Pass.failure?).length := by
        intro pass more
        cases failed : pass.failure? <;> simp [failed, Nat.add_comm]
      simp only [passes, List.flatMap_cons, List.length_append, failures]
      omega

theorem passes_of_shown (listings : List Listing) {held : Cache × σ} {list : Shared GroupList}
    {visits : List Visit} (known : held.1.groups = some list)
    (shows : held.1.Shows list.value.stops visits) :
    (provider.passes listings held).2 = held ∧
      ∀ pass ∈ (provider.passes listings held).1,
        pass.calls = [] ∧ pass.result = .ok (pass.listing.ofVisits visits) := by
  induction listings with
  | nil => exact ⟨rfl, fun _ member => absurd member List.not_mem_nil⟩
  | cons listing rest ih =>
      obtain ⟨silent, same, handed⟩ := (provider.pass_lists listing held).of_shown known shows
      have onward : provider.passes (listing :: rest) held =
          ((provider.pass listing held).1 :: (provider.passes rest held).1, (provider.passes rest held).2) := by
        rw [passes, same]
      rw [onward]
      exact ⟨ih.1, List.forall_mem_cons.mpr ⟨⟨silent, handed⟩, ih.2⟩⟩

end Provider

theorem Cache.length_agenda_empty (list : Shared GroupList) :
    (Cache.empty.agenda (some list)).length = 1 + list.value.declared.eraseDups.length := by
  have unheld : ∀ apiVersion, ¬Cache.empty.Holds apiVersion := fun _ held => nomatch held
  have all : Cache.empty.pending list.value.declared = list.value.declared.eraseDups := by
    rw [pending, List.filter_eq_self.mpr fun apiVersion _ => by simpa using unheld apiVersion]
  rw [agenda_of_missing rfl, List.length_cons, length_wanted, all, Nat.add_comm]

/-- Over every run of listings from an empty cache, each asks only for what is not held, in order, up to
its first failure, and keeps what is answered. So a run that fails some times and then succeeds makes one
call for the groups, one for each group version and one for each failure. All listings after it succeed
without a call and go by the same answers. -/
theorem listings_resume {σ : Type} (provider : Provider σ) (start : σ) (listings : List Listing) :
    let run := provider.passes listings (Cache.empty, start)
    run.1.map Pass.listing = listings ∧
    ∀ listing : Listing,
      let done := provider.pass listing run.2
      done.1.Resumes provider run.2 done.2 ∧
      ((∀ pass ∈ run.1, pass.failure? ≠ none) → done.1.failure? = none →
        ∃ list visits, done.2.1.groups = some list ∧ done.2.1.Shows list.value.stops visits ∧
          done.1.result = .ok (listing.ofVisits visits) ∧
          (run.1.flatMap Pass.calls ++ done.1.calls).length =
            1 + list.value.declared.eraseDups.length + listings.length ∧
          ∀ more : List Listing,
            let again := provider.passes more done.2
            again.1.map Pass.listing = more ∧ again.2 = done.2 ∧
              ∀ pass ∈ again.1,
                pass.calls = [] ∧ pass.result = .ok (pass.listing.ofVisits visits)) := by
  intro run
  have named : run.1.map Pass.listing = listings := provider.passes_listings listings _
  refine ⟨named, fun listing => ?_⟩
  intro done
  have lists : provider.Lists done.1 run.2 done.2 := provider.pass_lists listing run.2
  refine ⟨lists.resumes, fun failed succeeded => ?_⟩
  obtain ⟨result, ended⟩ := failure?_eq_none.mp succeeded
  obtain ⟨list, visits, known, shows, rfl⟩ := lists.resumes.handed result ended
  refine ⟨list, visits, known, shows, ended, ?_, fun more => ?_⟩
  · have goesBy : done.2.1.GoesBy list := fun other held => Option.some.inj (held.symm.trans known)
    have earlier : run.2.1.GoesBy list := fun other held =>
      goesBy other (provider.groups_pass held listing)
    have last := lists.length_calls goesBy
    have first : (run.1.flatMap Pass.calls).length + (run.2.1.agenda (some list)).length =
        (Cache.empty.agenda (some list)).length + (run.1.filterMap Pass.failure?).length :=
      provider.length_calls_passes listings earlier
    have nothing : (done.2.1.agenda (some list)).length = 0 := by
      have none : done.2.1.pending list.value.declared = [] := by
        rw [Cache.pending, List.filter_eq_nil_iff.mpr, List.eraseDups_nil]
        intro apiVersion declared
        obtain ⟨stop, member, rfl⟩ := List.mem_map.mp declared
        simpa using shows.holds stop member
      rw [Cache.agenda_of_held known, Cache.length_wanted, none, List.length_nil]
    have each : (run.1.filterMap Pass.failure?).length = listings.length := by
      rw [List.length_filterMap_eq_countP, List.countP_eq_length.mpr, ← named, List.length_map]
      intro pass member
      exact Option.isSome_iff_ne_none.mpr (failed pass member)
    rw [succeeded, Option.toList_none, List.length_nil, nothing] at last
    rw [Cache.length_agenda_empty, each] at first
    rw [List.length_append]
    omega
  · exact ⟨provider.passes_listings more _, provider.passes_of_shown more known shows⟩

def Provider.faltering {σ : Type} (provider : Provider σ) (failure : Failure) : Provider (Bool × σ) where
  ask query := fun (steady, state) =>
    if steady then
      let (outcome, later) := provider.ask query state
      (outcome, (false, later))
    else (.error failure, (true, state))

/-- Five listings fail, one at the groups and one at each of the four group versions; the sixth one has
only the last of them to ask for. A group version that is declared twice is asked for once. -/
theorem faltering_listings_resume :
    let provider := Catalogue.origin.provider.faltering Catalogue.unavailable
    let failing : List Listing := [.all, .preferred, .preferredNamespaced, .all, .preferred]
    let run := provider.passes failing (Cache.empty, (false, Catalogue.contestedStart))
    let done := provider.pass .all run.2
    (∀ pass ∈ run.1, pass.failure? ≠ none) ∧ done.1.failure? = none ∧
      (run.1.flatMap Pass.calls ++ done.1.calls).length = 10 ∧
      ∃ visits, visits.length = 5 ∧ done.1.result = .ok (Listing.all.ofVisits visits) ∧
        ∀ pass ∈ (provider.passes [.preferred, .all] done.2).1,
          pass.calls = [] ∧ pass.result = .ok (pass.listing.ofVisits visits) := by
  intro provider failing run done
  have failed : ∀ pass ∈ run.1, pass.failure? ≠ none := by decide +kernel
  have succeeded : done.1.failure? = none := by decide +kernel
  obtain ⟨_, resume⟩ := listings_resume provider (false, Catalogue.contestedStart) failing
  obtain ⟨_, count⟩ := resume .all
  obtain ⟨list, visits, known, shows, ended, total, again⟩ := count failed succeeded
  have groups : (done.2.1.groups.map fun list =>
      (list.value.declared.eraseDups.length, list.value.stops.length)) = some (4, 5) := by
    decide +kernel
  rw [known, Option.map_some, Option.some.injEq, Prod.mk.injEq] at groups
  refine ⟨failed, succeeded, ?_, visits, ?_, ended, (again [.preferred, .all]).2.2⟩
  · rw [total, groups.1]
    rfl
  · rw [← groups.2, ← shows.stops_eq, List.length_map]

end ApiDiscovery
