import ApiDiscovery.Proofs.Interleaving

/-!
A cache that stands on another one. Callers take turns with the outer cache, which asks the inner one for
them; others use the inner cache in between, and the provider below may change by itself. All that the outer
cache hands out comes from the inner one, so that it matters only when the inner one is told to forget.
-/

namespace ApiDiscovery

def Event.Replies : Event → (key : Key) → Shared key.Answer → Prop
  | .read query _ reply, key, answer => Call.Answered { query, outcome := reply } key answer
  | .forget, _, _ => False

def Turn.Replies : Turn → (key : Key) → Shared key.Answer → Prop
  | .finished _ event, key, answer => event.Replies key answer
  | .dropped .., _, _ => False

def Stage.Brings : Stage → (key : Key) → Shared key.Answer → Prop
  | .answered query outcome, key, answer => Call.Answered { query, outcome } key answer
  | .entered _, _, _ | .asked _, _, _ => False

/-- The answer has reached the callers of the cache: it is held there, or it was given to the caller that
has the lock, or it was replied in a turn that is over. -/
def Crowd.Knows {σ : Type} (crowd : Crowd σ) (key : Key) (answer : Shared key.Answer) : Prop :=
  crowd.cache.find? key = some answer ∨
    (∃ holder, crowd.holder = some holder ∧ holder.stage.Brings key answer) ∨
    ∃ turn ∈ crowd.turns, turn.Replies key answer

theorem Crowd.not_knows_start {σ : Type} (state : σ) (key : Key) (answer : Shared key.Answer) :
    ¬(Crowd.start state).Knows key answer := by
  simp [Crowd.Knows, Crowd.start, Cache.find?_empty]

theorem Crowd.knows_release {σ : Type} {crowd : Crowd σ} {turn : Turn} {key : Key}
    {answer : Shared key.Answer} (knows : (crowd.release turn).Knows key answer) :
    crowd.cache.find? key = some answer ∨ turn.Replies key answer ∨
      ∃ turn ∈ crowd.turns, turn.Replies key answer := by
  rcases knows with held | ⟨holder, free, _⟩ | ⟨other, member, replied⟩
  · exact Or.inl held
  · simp [Crowd.release] at free
  · rcases List.mem_append.mp member with earlier | last
    · exact Or.inr (Or.inr ⟨other, earlier, replied⟩)
    · cases List.mem_singleton.mp last
      exact Or.inr (Or.inl replied)

theorem Cache.find?_keep {cache : Cache} {query : Query} {outcome : Except Failure (Shared query.Answer)}
    {key : Key} {answer : Shared key.Answer}
    (held : (cache.keep query.key outcome).find? key = some answer) :
    cache.find? key = some answer ∨ Call.Answered { query, outcome } key answer := by
  cases outcome with
  | error failure => exact Or.inl held
  | ok fetched =>
      by_cases same : key = query.key
      · subst same
        rw [keep, find?_fill_self] at held
        cases held
        exact Or.inr (.intro query fetched)
      · rw [keep, find?_fill_of_ne _ _ same] at held
        exact Or.inl held

namespace Provider

variable {σ : Type} {provider : Provider σ}

theorem Step.knows_before {crowd next : Crowd σ} {action : Action}
    (step : provider.Step crowd action next) {key : Key} {answer : Shared key.Answer}
    (knows : next.Knows key answer) :
    crowd.Knows key answer ∨ ∃ query outcome,
      provider.ask query crowd.state = (outcome, next.state) ∧ Call.Answered { query, outcome } key answer := by
  cases step with
  | enqueue caller operation => exact Or.inl knows
  | leave waits => exact Or.inl knows
  | settle stray asked => exact Or.inl knows
  | acquire free waits =>
      rcases knows with held | ⟨holder, entered, brings⟩ | replied
      · exact Or.inl (Or.inl held)
      · cases entered
        exact brings.elim
      · exact Or.inl (Or.inr (Or.inr replied))
  | hit held found =>
      rcases Crowd.knows_release knows with kept | replied | earlier
      · exact Or.inl (Or.inl kept)
      · cases replied
        exact Or.inl (Or.inl found)
      · exact Or.inl (Or.inr (Or.inr earlier))
  | ask held missing =>
      rcases knows with kept | ⟨holder, asking, brings⟩ | replied
      · exact Or.inl (Or.inl kept)
      · cases asking
        exact brings.elim
      · exact Or.inl (Or.inr (Or.inr replied))
  | answer held asked =>
      rcases knows with kept | ⟨holder, answered, brings⟩ | replied
      · exact Or.inl (Or.inl kept)
      · cases answered
        exact Or.inr ⟨_, _, asked, brings⟩
      · exact Or.inl (Or.inr (Or.inr replied))
  | store held =>
      have brought : ∀ {key : Key} {answer : Shared key.Answer}, Call.Answered ⟨_, _⟩ key answer →
          crowd.Knows key answer :=
        fun answered => Or.inr (Or.inl ⟨_, held, answered⟩)
      rcases Crowd.knows_release knows with kept | replied | earlier
      · rcases Cache.find?_keep kept with before | answered
        · exact Or.inl (Or.inl before)
        · exact Or.inl (brought answered)
      · exact Or.inl (brought replied)
      · exact Or.inl (Or.inr (Or.inr earlier))
  | clear held =>
      rcases Crowd.knows_release knows with kept | replied | earlier
      · rw [Cache.find?_empty] at kept
        cases kept
      · exact replied.elim
      · exact Or.inl (Or.inr (Or.inr earlier))
  | dropEntered held =>
      rcases Crowd.knows_release knows with kept | replied | earlier
      · exact Or.inl (Or.inl kept)
      · exact replied.elim
      · exact Or.inl (Or.inr (Or.inr earlier))
  | dropAsked held =>
      rcases Crowd.knows_release knows with kept | replied | earlier
      · exact Or.inl (Or.inl kept)
      · exact replied.elim
      · exact Or.inl (Or.inr (Or.inr earlier))

theorem Step.state_eq {crowd next : Crowd σ} {action : Action} (step : provider.Step crowd action next) :
    next.state = crowd.state ∨ ∃ query, next.state = (provider.ask query crowd.state).2 := by
  cases step with
  | answer held asked => exact Or.inr ⟨_, (congrArg Prod.snd asked).symm⟩
  | settle stray asked => exact Or.inr ⟨_, (congrArg Prod.snd asked).symm⟩
  | enqueue | leave | acquire | hit | ask | store | clear | dropEntered | dropAsked => exact Or.inl rfl

theorem interleaved_perform (crowd : Crowd σ) (free : crowd.holder = none) (caller : Nat)
    (operation : Operation) :
    let done := provider.perform operation (crowd.cache, crowd.state)
    ∃ actions last, provider.Interleaved crowd actions last ∧ (last.cache, last.state) = done.2 ∧
      last.turns = crowd.turns ++ [.finished caller done.1] ∧ last.holder = none := by
  have entering : ∃ entered : Crowd σ,
      provider.Interleaved crowd [.enqueue caller operation, .acquire caller operation] entered ∧
        entered.holder = some { caller, stage := .entered operation } ∧ entered.cache = crowd.cache ∧
        entered.state = crowd.state ∧ entered.turns = crowd.turns :=
    ⟨_, .step (.enqueue _ _ _) (.step (.acquire free (List.mem_append_right _ List.mem_cons_self)) (.done _)),
      rfl, rfl, rfl, rfl⟩
  obtain ⟨entered, run, held, sameCache, sameState, sameTurns⟩ := entering
  rw [← sameCache, ← sameState, ← sameTurns]
  cases operation with
  | forget =>
      exact ⟨_, _, interleaved_append.mpr ⟨entered, run, .step (.clear held) (.done _)⟩, rfl, rfl, rfl⟩
  | read query =>
      cases found : entered.cache.find? query.key with
      | some answer =>
          rw [provider.perform_hit found]
          exact ⟨_, _, interleaved_append.mpr ⟨entered, run, .step (.hit held found) (.done _)⟩, rfl, rfl, rfl⟩
      | none =>
          rw [provider.perform_miss found rfl]
          exact ⟨_, _, interleaved_append.mpr ⟨entered, run,
            .step (.ask held found) <| .step (.answer rfl rfl) <| .step (.store rfl) (.done _)⟩, rfl, rfl, rfl⟩

theorem cached_ask_keeps (provider : Provider σ) (query : Query) {held : Cache × σ} {key : Key}
    {answer : Shared key.Answer} (found : held.1.find? key = some answer) :
    (provider.cached.ask query held).2.1.find? key = some answer := by
  obtain ⟨cache, state⟩ := held
  cases own : cache.find? query.key with
  | some other =>
      rw [provider.cached_ask_of_held own]
      exact found
  | none =>
      cases asked : provider.ask query state with
      | mk outcome later =>
          cases outcome with
          | error failure =>
              rw [provider.cached_ask_of_failed own asked]
              exact found
          | ok fetched =>
              -- it has just fetched what it did not hold, so that nothing is replaced
              have different : key ≠ query.key := by
                rintro rfl
                rw [own] at found
                cases found
              rw [provider.cached_ask_of_answered own asked, Cache.find?_fill_of_ne _ _ different]
              exact found

theorem cached_ask_holds {query : Query} {held later : Cache × σ}
    {outcome : Except Failure (Shared query.Answer)}
    (asked : provider.cached.ask query held = (outcome, later)) {key : Key} {answer : Shared key.Answer}
    (answered : Call.Answered { query, outcome } key answer) : later.1.find? key = some answer := by
  obtain ⟨cache, state⟩ := held
  cases answered
  cases own : cache.find? query.key with
  | some other =>
      rw [provider.cached_ask_of_held own] at asked
      cases asked
      exact own
  | none =>
      cases below : provider.ask query state with
      | mk outcome after =>
          cases outcome with
          | error failure =>
              rw [provider.cached_ask_of_failed own below] at asked
              cases asked
          | ok fetched =>
              rw [provider.cached_ask_of_answered own below] at asked
              cases asked
              exact Cache.find?_fill_self cache query.key _

end Provider

inductive Move where
  | outer (action : Action)
  | inner (event : Event)
  | drift

namespace Move

def empties : Move → Bool
  | .inner .forget => true
  | _ => false

def Replies : Move → (key : Key) → Shared key.Answer → Prop
  | .inner event, key, answer => event.Replies key answer
  | .outer _, _, _ | .drift, _, _ => False

end Move

abbrev Nest (σ : Type) : Type := Crowd (Cache × (σ × List Call))

namespace Nest

variable {σ : Type}

def start (state : σ) : Nest σ := Crowd.start (Cache.empty, (state, []))

def inner (nest : Nest σ) : Cache := nest.state.1

def calls (nest : Nest σ) : List Call := nest.state.2.2

end Nest

namespace Provider

variable {σ : Type}

/-- One move around the two caches. Users of the inner cache take turns as well, so that each of their
operations is one move. -/
inductive NestStep (provider : Provider σ) : Nest σ → Move → Nest σ → Prop
  | outer {nest next : Nest σ} {action : Action}
      (step : provider.recorded.cached.Step nest action next) :
      NestStep provider nest (.outer action) next
  | inner {nest : Nest σ} {event : Event} {later : Cache × (σ × List Call)}
      (performed : provider.recorded.perform event.operation nest.state = (event, later)) :
      NestStep provider nest (.inner event) { nest with state := later }
  | drift (nest : Nest σ) (later : σ) :
      NestStep provider nest .drift { nest with state := (nest.inner, (later, nest.calls)) }

inductive NestRun (provider : Provider σ) : Nest σ → List Move → Nest σ → Prop
  | done (nest : Nest σ) : NestRun provider nest [] nest
  | step {nest next last : Nest σ} {move : Move} {rest : List Move}
      (first : provider.NestStep nest move next) (others : NestRun provider next rest last) :
      NestRun provider nest (move :: rest) last

inductive Shift (provider : Provider σ) :
    Bool → Cache × (σ × List Call) → Cache × (σ × List Call) → Prop
  | still (held : Cache × (σ × List Call)) : Shift provider false held held
  | asked (query : Query) (held : Cache × (σ × List Call)) :
      Shift provider false held (provider.recorded.cached.ask query held).2
  | forgot (held : Cache × (σ × List Call)) : Shift provider true held (Cache.forget held)
  | drifted (cache : Cache) (state later : σ) (calls : List Call) :
      Shift provider false (cache, (state, calls)) (cache, (later, calls))

variable {provider : Provider σ}

theorem NestStep.shift {nest next : Nest σ} {move : Move} (step : provider.NestStep nest move next) :
    provider.Shift move.empties nest.state next.state := by
  cases step with
  | outer step =>
      rcases step.state_eq with same | ⟨query, asked⟩
      · rw [same]
        exact .still nest.state
      · rw [asked]
        exact .asked query nest.state
  | @inner event later performed =>
      cases event with
      | forget =>
          cases performed
          exact .forgot nest.state
      | read query calls reply =>
          cases performed
          exact .asked query nest.state
  | drift later => exact .drifted nest.inner nest.state.2.1 later nest.calls

theorem Shift.keeps {held next : Cache × (σ × List Call)} (shift : provider.Shift false held next)
    {key : Key} {answer : Shared key.Answer} (found : held.1.find? key = some answer) :
    next.1.find? key = some answer := by
  cases shift with
  | still => exact found
  | asked query => exact provider.recorded.cached_ask_keeps query found
  | drifted cache state later calls => exact found

def Thrifty (key : Key) (forgets : Nat) (held : Cache × (σ × List Call)) : Prop :=
  held.2.2.countP (Call.fetches key) ≤ forgets + if (held.1.find? key).isSome then 1 else 0

theorem thrifty_ask (provider : Provider σ) {key : Key} {forgets : Nat} {held : Cache × (σ × List Call)}
    (thrifty : Thrifty key forgets held) (query : Query) :
    Thrifty key forgets (provider.recorded.cached.ask query held).2 := by
  obtain ⟨cache, state, calls⟩ := held
  cases own : cache.find? query.key with
  | some other =>
      rw [provider.recorded.cached_ask_of_held own]
      exact thrifty
  | none =>
      cases asked : provider.ask query state with
      | mk outcome later =>
          have recording := recorded_ask asked calls
          simp only [Thrifty] at thrifty
          cases outcome with
          | error failure =>
              rw [provider.recorded.cached_ask_of_failed own recording]
              simpa [Thrifty, Call.fetches, Call.succeeded] using thrifty
          | ok fetched =>
              rw [provider.recorded.cached_ask_of_answered own recording]
              by_cases same : key = query.key
              · subst same
                rw [own] at thrifty
                simpa [Thrifty, Call.fetches, Call.succeeded, Cache.find?_fill_self] using thrifty
              · simpa [Thrifty, Call.fetches, Cache.find?_fill_of_ne _ _ same, Ne.symm same] using thrifty

theorem Shift.thrifty {forgot : Bool} {held next : Cache × (σ × List Call)}
    (shift : provider.Shift forgot held next) {key : Key} {forgets : Nat}
    (thrifty : Thrifty key forgets held) :
    Thrifty key (forgets + if forgot then 1 else 0) next := by
  cases shift with
  | still => exact thrifty
  | asked query => exact provider.thrifty_ask thrifty query
  | drifted cache state later calls => exact thrifty
  | forgot =>
      simp only [Thrifty] at thrifty
      simp only [Thrifty, Cache.forget, Cache.find?_empty, if_true]
      split at thrifty <;> simp <;> omega

namespace NestStep

variable {nest next : Nest σ} {move : Move} {key : Key} {answer : Shared key.Answer}

theorem knows_before (step : provider.NestStep nest move next) (knows : next.Knows key answer) :
    nest.Knows key answer ∨ next.inner.find? key = some answer := by
  cases step with
  | outer step =>
      rcases step.knows_before knows with before | ⟨query, outcome, asked, answered⟩
      · exact Or.inl before
      · exact Or.inr (cached_ask_holds asked answered)
  | inner performed => exact Or.inl knows
  | drift later => exact Or.inl knows

theorem holds_of_replies (step : provider.NestStep nest move next) (replies : move.Replies key answer) :
    next.inner.find? key = some answer := by
  cases step with
  | outer step => exact replies.elim
  | drift later => exact replies.elim
  | @inner event later performed =>
      cases event with
      | forget => exact replies.elim
      | read query calls reply =>
          cases performed
          exact cached_ask_holds rfl replies

end NestStep

namespace NestRun

variable {nest last : Nest σ} {moves : List Move} {key : Key} {answer : Shared key.Answer}

theorem thrifty (run : provider.NestRun nest moves last) {forgets : Nat}
    (thrifty : Thrifty key forgets nest.state) :
    Thrifty key (forgets + moves.countP Move.empties) last.state := by
  induction run generalizing forgets with
  | done _ => exact thrifty
  | @step _ _ _ move rest first _ ih =>
      rw [List.countP_cons, Nat.add_comm (rest.countP _), ← Nat.add_assoc]
      exact ih (first.shift.thrifty thrifty)

theorem known_before (run : provider.NestRun nest moves last) (knows : last.Knows key answer) :
    nest.Knows key answer ∨ ∃ before after middle, moves = before ++ after ∧
      provider.NestRun nest before middle ∧ provider.NestRun middle after last ∧
      middle.inner.find? key = some answer := by
  induction run with
  | done _ => exact Or.inl knows
  | @step nest next last move rest first others ih =>
      -- either it is known when the rest begins, or the rest goes through such a moment
      rcases ih knows with known | ⟨before, after, middle, split, earlier, later, held⟩
      · rcases first.knows_before known with known | held
        · exact Or.inl known
        · exact Or.inr ⟨[move], rest, next, rfl, .step first (.done _), others, held⟩
      · exact Or.inr ⟨move :: before, after, middle, by rw [split, List.cons_append], .step first earlier,
          later, held⟩

variable (unforgotten : ∀ move ∈ moves, move.empties = false)
include unforgotten

theorem keeps (run : provider.NestRun nest moves last) (held : nest.inner.find? key = some answer) :
    last.inner.find? key = some answer := by
  induction run with
  | done _ => exact held
  | step first _ ih =>
      rw [List.forall_mem_cons] at unforgotten
      have shift := first.shift
      rw [unforgotten.1] at shift
      exact ih unforgotten.2 (shift.keeps held)

theorem included (run : provider.NestRun nest moves last)
    (within : nest.Knows key answer → nest.inner.find? key = some answer)
    (knows : last.Knows key answer) : last.inner.find? key = some answer := by
  induction run with
  | done _ => exact within knows
  | step first _ ih =>
      rw [List.forall_mem_cons] at unforgotten
      have shift := first.shift
      rw [unforgotten.1] at shift
      refine ih unforgotten.2 ?_ knows
      intro known
      rcases first.knows_before known with before | held
      · exact shift.keeps (within before)
      · exact held

theorem replied (run : provider.NestRun nest moves last) {move : Move} (member : move ∈ moves)
    (replies : move.Replies key answer) : last.inner.find? key = some answer := by
  induction run with
  | done _ => simp at member
  | step first others ih =>
      rw [List.forall_mem_cons] at unforgotten
      rcases List.mem_cons.mp member with same | later
      · subst same
        exact others.keeps unforgotten.2 (first.holds_of_replies replies)
      · exact ih unforgotten.2 later

end NestRun

/-- What the use of two caches, one on the other, comes to. -/
structure Consistent (provider : Provider σ) (start : σ) (moves : List Move) (last : Nest σ) : Prop where
  /-- However often the outer cache is told to forget, the provider is fetched from only once, and once
  more for each time that the inner one is told to forget. -/
  fetched : ∀ key, last.calls.countP (Call.fetches key) ≤ 1 + moves.countP Move.empties
  origin : ∀ key answer, last.Knows key answer → ∃ before after middle, moves = before ++ after ∧
    provider.NestRun (Nest.start start) before middle ∧ provider.NestRun middle after last ∧
    middle.inner.find? key = some answer
  included : (∀ move ∈ moves, move.empties = false) → ∀ key answer, last.Knows key answer →
    last.inner.find? key = some answer
  steady : (∀ move ∈ moves, move.empties = false) → ∀ (query : Query) (answer : Shared query.Answer),
    (last.Knows query.key answer ∨ ∃ move ∈ moves, move.Replies query.key answer) →
    ∀ outer, outer = last.cache ∨ outer = Cache.empty →
      ∃ filled, provider.recorded.cached.cached.ask query (outer, last.state) =
        (.ok answer, (filled, last.state))

theorem nested_caches_consistent {start : σ} {moves : List Move} {last : Nest σ}
    (run : provider.NestRun (Nest.start start) moves last) : provider.Consistent start moves last := by
  have unknown : ∀ (key : Key) (answer : Shared key.Answer), ¬(Nest.start start).Knows key answer :=
    Crowd.not_knows_start _
  have included : (∀ move ∈ moves, move.empties = false) → ∀ key answer, last.Knows key answer →
      last.inner.find? key = some answer :=
    fun unforgotten key answer => run.included unforgotten fun known => absurd known (unknown key answer)
  refine ⟨?_, ?_, included, ?_⟩
  · intro key
    have untouched : Thrifty key 0 (Nest.start start).state := Nat.zero_le _
    have thrifty := run.thrifty untouched
    simp only [Thrifty, Nat.zero_add] at thrifty
    rw [Nest.calls]
    split at thrifty <;> omega
  · intro key answer knows
    exact (run.known_before knows).resolve_left (unknown key answer)
  · intro unforgotten query answer read outer emptied
    have held : last.inner.find? query.key = some answer := by
      rcases read with knows | ⟨move, member, replies⟩
      · exact included unforgotten _ answer knows
      · exact run.replied unforgotten member replies
    have below := provider.recorded.cached_ask_of_held held last.state.2
    -- the outer cache holds the same answer, or it holds none and takes the one of the inner cache
    cases found : outer.find? query.key with
    | none => exact ⟨_, cached_ask_of_answered _ found below⟩
    | some other =>
        rcases emptied with rfl | rfl
        · have same : some other = some answer :=
            (included unforgotten _ other (Or.inl found)).symm.trans held
          cases same
          exact ⟨_, cached_ask_of_held _ found last.state⟩
        · rw [Cache.find?_empty] at found
          cases found

/-- The inner cache forgets while the outer one is about to store what the inner one has answered. -/
theorem forgotten_between_consistent :
    let provider := Catalogue.origin.provider
    let start : Labelled Catalogue := { state := {}, next := 0 }
    ∃ moves last, provider.NestRun (Nest.start start) moves last ∧ provider.Consistent start moves last ∧
      (last.cache.find? .groups).map Shared.label = some 0 ∧
      (last.inner.find? .groups).map Shared.label = some 1 := by
  intro provider start
  have run : ∃ moves last, provider.NestRun (Nest.start start) moves last ∧
      (last.cache.find? .groups).map Shared.label = some 0 ∧
      (last.inner.find? .groups).map Shared.label = some 1 :=
    ⟨_, _, .step (.outer (.enqueue _ 0 (.read .groups))) <|
      .step (.outer (.acquire rfl List.mem_cons_self)) <| .step (.outer (.ask rfl rfl)) <|
      .step (.outer (.answer rfl rfl)) <| .step (@NestStep.inner _ _ _ .forget _ rfl) <|
      .step (.outer (.store rfl)) <| .step (@NestStep.inner _ _ _ (.read .groups _ _) _ rfl) <| .done _,
      rfl, rfl⟩
  obtain ⟨moves, last, run, outer, inner⟩ := run
  exact ⟨moves, last, run, nested_caches_consistent run, outer, inner⟩

end Provider

end ApiDiscovery
