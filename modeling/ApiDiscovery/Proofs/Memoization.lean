import ApiDiscovery.Proofs.Conversation

/-!
What a cache holds, told by the history of its use. A key is held exactly if it was fetched since the cache
was last told to forget, and a read makes a call exactly if its key is not held.
-/

namespace ApiDiscovery

inductive Operation where
  | read (query : Query)
  | forget
  deriving DecidableEq, Repr

inductive Event where
  | read (query : Query) (calls : List Call) (reply : Except Failure (Shared query.Answer))
  | forget

namespace Event

def operation : Event → Operation
  | .read query _ _ => .read query
  | .forget => .forget

def calls : Event → List Call
  | .read _ calls _ => calls
  | .forget => []

end Event

/-- The answer was fetched under the key, and the cache was not told to forget since then. -/
def Remembered (history : List Event) (key : Key) (answer : Shared key.Answer) : Prop :=
  ∃ earlier event later, history = earlier ++ event :: later ∧ Event.forget ∉ later ∧
    ∃ call ∈ event.calls, call.Answered key answer

/-- A read is answered from what is remembered and makes no call then; or else it makes one call, of its
own query, and replies what came of it. -/
def Settled (history : List Event) : Event → Prop
  | .read query calls reply =>
      (∀ answer, Remembered history query.key answer → calls = [] ∧ reply = .ok answer) ∧
      ((∀ answer, ¬Remembered history query.key answer) → calls = [{ query, outcome := reply }])
  | .forget => True

def AllSettled (history : List Event) : List Event → Prop
  | [] => True
  | event :: rest => Settled history event ∧ AllSettled (history ++ [event]) rest

def Cache.Tracks (cache : Cache) (history : List Event) : Prop :=
  ∀ key answer, cache.find? key = some answer ↔ Remembered history key answer

def Cache.keep (cache : Cache) (key : Key) : Except Failure (Shared key.Answer) → Cache
  | .ok answer => cache.fill key answer
  | .error _ => cache

namespace Provider

variable {σ : Type}

def callsOf (provider : Provider σ) (query : Query) (held : Cache × σ) : List Call :=
  (provider.recorded.cached.ask query (held.1, (held.2, []))).2.2.2

def perform (provider : Provider σ) : Operation → Cache × σ → Event × (Cache × σ)
  | .read query, held =>
      let (reply, next) := provider.cached.ask query held
      (.read query (provider.callsOf query held) reply, next)
  | .forget, held => (.forget, Cache.forget held)

def performAll (provider : Provider σ) : List Operation → Cache × σ → List Event × (Cache × σ)
  | [], held => ([], held)
  | operation :: rest, held =>
      let (event, next) := provider.perform operation held
      let (events, last) := provider.performAll rest next
      (event :: events, last)

theorem perform_hit (provider : Provider σ) {query : Query} {cache : Cache}
    {answer : Shared query.Answer} (found : cache.find? query.key = some answer) (state : σ) :
    provider.perform (.read query) (cache, state) =
      (.read query [] (.ok answer), (cache, state)) := by
  simp only [perform, callsOf, cached_ask_of_held _ found]

theorem perform_miss (provider : Provider σ) {query : Query} {cache : Cache} {state later : σ}
    {outcome : Except Failure (Shared query.Answer)} (missing : cache.find? query.key = none)
    (asked : provider.ask query state = (outcome, later)) :
    provider.perform (.read query) (cache, state) =
      (.read query [⟨query, outcome⟩] outcome, (cache.keep query.key outcome, later)) := by
  have recording := recorded_ask asked []
  cases outcome with
  | ok answer =>
      simp only [perform, callsOf, cached_ask_of_answered _ missing asked,
        cached_ask_of_answered _ missing recording, List.nil_append, Cache.keep]
  | error failure =>
      simp only [perform, callsOf, cached_ask_of_failed _ missing asked,
        cached_ask_of_failed _ missing recording, List.nil_append, Cache.keep]

theorem perform_operation (provider : Provider σ) (operation : Operation) (held : Cache × σ) :
    (provider.perform operation held).1.operation = operation := by
  cases operation <;> rfl

theorem performAll_operations (provider : Provider σ) (operations : List Operation)
    (held : Cache × σ) :
    (provider.performAll operations held).1.map Event.operation = operations := by
  induction operations generalizing held with
  | nil => rfl
  | cons operation rest ih =>
      simp only [performAll, List.map_cons, perform_operation, ih]

end Provider

theorem append_singleton_eq {α : Type} {xs earlier later : List α} {last middle : α}
    (same : xs ++ [last] = earlier ++ middle :: later) :
    (xs = earlier ∧ last = middle ∧ later = []) ∨
      ∃ rest, xs = earlier ++ middle :: rest ∧ later = rest ++ [last] := by
  rcases List.eq_nil_or_concat later with empty | ⟨rest, final, split⟩
  · subst empty
    obtain ⟨init, tail⟩ := List.append_inj' same rfl
    exact Or.inl ⟨init, by simpa using tail, rfl⟩
  · rw [List.concat_eq_append] at split
    subst split
    rw [← List.cons_append, ← List.append_assoc] at same
    obtain ⟨init, tail⟩ := List.append_inj' same rfl
    have final_eq : last = final := by simpa using tail
    exact Or.inr ⟨rest, init, by rw [final_eq]⟩

theorem not_remembered_nil (key : Key) (answer : Shared key.Answer) : ¬Remembered [] key answer := by
  rintro ⟨earlier, event, later, empty, _⟩
  simp at empty

theorem remembered_append_read {history : List Event} {query : Query} {calls : List Call}
    {reply : Except Failure (Shared query.Answer)} {key : Key} {answer : Shared key.Answer} :
    Remembered (history ++ [.read query calls reply]) key answer ↔
      (∃ call ∈ calls, call.Answered key answer) ∨ Remembered history key answer := by
  constructor
  · rintro ⟨earlier, event, later, split, unforgotten, call, member, answered⟩
    rcases append_singleton_eq split with ⟨_, same, _⟩ | ⟨rest, before, after⟩
    · subst same
      exact Or.inl ⟨call, member, answered⟩
    · subst after
      exact Or.inr ⟨earlier, event, rest, before,
        fun forgotten => unforgotten (List.mem_append_left _ forgotten), call, member, answered⟩
  · rintro (⟨call, member, answered⟩ | ⟨earlier, event, later, split, unforgotten, fetched⟩)
    · exact ⟨history, .read query calls reply, [], rfl, by simp, call, member, answered⟩
    · refine ⟨earlier, event, later ++ [.read query calls reply], by simp [split], ?_, fetched⟩
      simpa using unforgotten

theorem not_remembered_append_forget (history : List Event) (key : Key) (answer : Shared key.Answer) :
    ¬Remembered (history ++ [.forget]) key answer := by
  rintro ⟨earlier, event, later, split, unforgotten, call, member, answered⟩
  rcases append_singleton_eq split with ⟨_, same, _⟩ | ⟨rest, _, after⟩
  · subst same
    simp [Event.calls] at member
  · exact unforgotten (by simp [after])

namespace Cache.Tracks

variable {cache : Cache} {history : List Event} {query : Query}

theorem empty : Cache.empty.Tracks [] := by
  intro key answer
  simp [find?_empty, not_remembered_nil]

theorem forget (history : List Event) : Cache.empty.Tracks (history ++ [.forget]) := by
  intro key answer
  simp [find?_empty, not_remembered_append_forget]

theorem hit (tracked : cache.Tracks history) (reply : Except Failure (Shared query.Answer)) :
    cache.Tracks (history ++ [.read query [] reply]) := by
  intro key answer
  rw [tracked key answer, remembered_append_read]
  simp

theorem not_remembered (tracked : cache.Tracks history) (missing : cache.find? query.key = none)
    (answer : Shared query.Answer) : ¬Remembered history query.key answer := by
  rw [← tracked, missing]
  simp

theorem miss (tracked : cache.Tracks history) (missing : cache.find? query.key = none)
    (outcome : Except Failure (Shared query.Answer)) :
    (cache.keep query.key outcome).Tracks
      (history ++ [.read query [⟨query, outcome⟩] outcome]) := by
  intro key answer
  rw [remembered_append_read]
  cases outcome with
  | error failure =>
      rw [keep, tracked key answer]
      simp [Call.not_answered_error]
  | ok fetched =>
      by_cases same : key = query.key
      · subst same
        have unremembered := tracked.not_remembered missing answer
        simp [keep, find?_fill_self, Call.answered_ok_iff, unremembered, eq_comm]
      · have unanswered : ¬Call.Answered { query, outcome := .ok fetched } key answer :=
          fun answered => same answered.key_eq.symm
        rw [keep, find?_fill_of_ne _ _ same, tracked key answer]
        simp [unanswered]

end Cache.Tracks

theorem perform_tracks {σ : Type} (provider : Provider σ) {cache : Cache} {history : List Event}
    (tracked : cache.Tracks history) (operation : Operation) (state : σ) :
    let done := provider.perform operation (cache, state)
    Settled history done.1 ∧ done.2.1.Tracks (history ++ [done.1]) ∧
      provider.Conversation state done.1.calls done.2.2 := by
  cases operation with
  | forget => exact ⟨trivial, Cache.Tracks.forget history, .done state⟩
  | read query =>
      cases found : cache.find? query.key with
      | some answer =>
          rw [provider.perform_hit found]
          refine ⟨⟨?_, ?_⟩, tracked.hit _, .done state⟩
          · intro other remembered
            rw [← tracked, found] at remembered
            exact ⟨rfl, by rw [Option.some.inj remembered]⟩
          · intro unremembered
            exact absurd ((tracked _ _).mp found) (unremembered answer)
      | none =>
          rw [provider.perform_miss found rfl]
          refine ⟨⟨?_, fun _ => rfl⟩, tracked.miss found _, .call rfl (.done _)⟩
          intro answer remembered
          exact absurd remembered (tracked.not_remembered found answer)

theorem performAll_tracks {σ : Type} (provider : Provider σ) (operations : List Operation)
    {cache : Cache} {history : List Event} (tracked : cache.Tracks history) (state : σ) :
    let run := provider.performAll operations (cache, state)
    AllSettled history run.1 ∧ run.2.1.Tracks (history ++ run.1) ∧
      provider.Conversation state (run.1.flatMap Event.calls) run.2.2 := by
  induction operations generalizing cache history state with
  | nil => exact ⟨trivial, by simpa [Provider.performAll] using tracked, .done state⟩
  | cons operation rest ih =>
      obtain ⟨settled, next, first⟩ := perform_tracks provider tracked operation state
      obtain ⟨restSettled, last, others⟩ := ih next (provider.perform operation (cache, state)).2.2
      refine ⟨⟨settled, restSettled⟩, ?_, first.append others⟩
      simpa [Provider.performAll] using last

theorem allSettled_append {history xs ys : List Event} :
    AllSettled history (xs ++ ys) ↔ AllSettled history xs ∧ AllSettled (history ++ xs) ys := by
  induction xs generalizing history with
  | nil => simp [AllSettled]
  | cons first rest ih => simp [AllSettled, ih, and_assoc]

def fetchCount (key : Key) (events : List Event) : Nat :=
  (events.flatMap Event.calls).countP (Call.fetches key)

theorem fetchCount_cons (key : Key) (event : Event) (rest : List Event) :
    fetchCount key (event :: rest) = event.calls.countP (Call.fetches key) + fetchCount key rest := by
  simp [fetchCount]

theorem AllSettled.fetchCount_le {key : Key} {stretch history : List Event}
    (settled : AllSettled history stretch) (unforgotten : Event.forget ∉ stretch) :
    fetchCount key stretch ≤ 1 ∧
      ((∃ answer, Remembered history key answer) → fetchCount key stretch = 0) := by
  induction stretch generalizing history with
  | nil => simp [fetchCount]
  | cons event rest ih =>
      obtain ⟨first, others⟩ := settled
      have restUnforgotten : Event.forget ∉ rest := fun later => unforgotten (.tail _ later)
      obtain ⟨atMostOnce, noneIfRemembered⟩ := ih others restUnforgotten
      cases event with
      | forget => exact absurd List.mem_cons_self unforgotten
      | read query calls reply =>
          rw [fetchCount_cons, Event.calls]
          have stays : (∃ answer, Remembered history key answer) →
              ∃ answer, Remembered (history ++ [.read query calls reply]) key answer :=
            fun ⟨answer, remembered⟩ => ⟨answer, remembered_append_read.mpr (Or.inr remembered)⟩
          by_cases known : ∃ answer, Remembered history query.key answer
          · obtain ⟨answer, remembered⟩ := known
            have silent : calls = [] := (first.1 answer remembered).1
            subst silent
            exact ⟨by simpa using atMostOnce, fun held => by simpa using noneIfRemembered (stays held)⟩
          · have asked : calls = [{ query, outcome := reply }] :=
              first.2 fun answer remembered => known ⟨answer, remembered⟩
            subst asked
            by_cases fetched : Call.fetches key { query, outcome := reply } = true
            · obtain ⟨answer, answered⟩ := Call.exists_answered_of_fetches fetched
              have none : fetchCount key rest = 0 := noneIfRemembered
                ⟨answer, remembered_append_read.mpr (Or.inl ⟨_, List.mem_cons_self, answered⟩)⟩
              have same : query.key = key := answered.key_eq
              refine ⟨by simp [fetched, none], ?_⟩
              intro held
              exact absurd held (same ▸ known)
            · refine ⟨by simpa [fetched] using atMostOnce, ?_⟩
              intro held
              simpa [fetched] using noneIfRemembered (stays held)

/-- Over every run from an empty cache, a read is answered from what was fetched since the cache was last
told to forget, without a call, and makes exactly one call of its own otherwise, whose outcome it replies;
so no key is fetched twice in between, and the cache holds what was fetched and nothing else. -/
theorem cached_reads_follow_history {σ : Type} (provider : Provider σ) (start : σ)
    (operations : List Operation) :
    let run := provider.performAll operations (Cache.empty, start)
    run.1.map Event.operation = operations ∧
    provider.Conversation start (run.1.flatMap Event.calls) run.2.2 ∧
    (∀ earlier event later, run.1 = earlier ++ event :: later → Settled earlier event) ∧
    (∀ before stretch after, run.1 = before ++ stretch ++ after → Event.forget ∉ stretch →
      ∀ key, fetchCount key stretch ≤ 1) ∧
    ∀ key answer, run.2.1.find? key = some answer ↔ Remembered run.1 key answer := by
  obtain ⟨settled, tracked, conversation⟩ :=
    performAll_tracks provider operations Cache.Tracks.empty start
  refine ⟨provider.performAll_operations operations _, conversation, ?_, ?_, tracked⟩
  · intro earlier event later split
    rw [split, allSettled_append] at settled
    exact settled.2.1
  · intro before stretch after split unforgotten key
    rw [split, allSettled_append, allSettled_append] at settled
    exact (settled.1.2.fetchCount_le unforgotten).1

end ApiDiscovery
