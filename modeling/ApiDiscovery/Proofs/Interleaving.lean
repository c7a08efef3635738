import ApiDiscovery.Proofs.Memoization
import ApiDiscovery.Simulation.Catalogue

/-!
Callers that share one cache behind a lock. The lock is held while the provider is asked, so callers take
turns in the order in which they get the lock, whatever the interleaving of their steps; a caller that is
dropped leaves at most its question behind, which the provider may take in at any later time.
-/

namespace ApiDiscovery

inductive Stage where
  | entered (operation : Operation)
  | asked (query : Query)
  | answered (query : Query) (outcome : Except Failure (Shared query.Answer))

namespace Stage

def operation : Stage → Operation
  | .entered operation => operation
  | .asked query => .read query
  | .answered query _ => .read query

def questions : Stage → List Query
  | .entered _ => []
  | .asked query => [query]
  | .answered query _ => [query]

end Stage

structure Holder where
  caller : Nat
  stage : Stage

inductive Turn where
  | finished (caller : Nat) (event : Event)
  | dropped (caller : Nat) (operation : Operation) (question : Option Query)

namespace Turn

def entry : Turn → Nat × Operation
  | .finished caller event => (caller, event.operation)
  | .dropped caller operation _ => (caller, operation)

def event? : Turn → Option Event
  | .finished _ event => some event
  | .dropped .. => none

def abandoned : Turn → List Query
  | .finished .. => []
  | .dropped _ _ question => question.toList

def questions : Turn → List Query
  | .finished _ event => event.calls.map Call.query
  | .dropped _ _ question => question.toList

end Turn

structure Crowd (σ : Type) where
  cache : Cache
  state : σ
  waiting : List (Nat × Operation)
  holder : Option Holder
  /-- Questions of dropped callers that the provider has not taken in. -/
  strays : List Query
  questions : List Query
  turns : List Turn

namespace Crowd

variable {σ : Type}

def start (state : σ) : Crowd σ :=
  { cache := .empty, state, waiting := [], holder := none, strays := [], questions := [], turns := [] }

def release (crowd : Crowd σ) (turn : Turn) : Crowd σ :=
  { crowd with holder := none, turns := crowd.turns ++ [turn] }

def entries (crowd : Crowd σ) : List (Nat × Operation) :=
  crowd.turns.map Turn.entry ++
    crowd.holder.toList.map fun holder => (holder.caller, holder.stage.operation)

def events (crowd : Crowd σ) : List Event := crowd.turns.filterMap Turn.event?

def openQuestions (crowd : Crowd σ) : List Query :=
  crowd.holder.toList.flatMap fun holder => holder.stage.questions

end Crowd

inductive Action where
  | enqueue (caller : Nat) (operation : Operation)
  | leave (caller : Nat) (operation : Operation)
  | acquire (caller : Nat) (operation : Operation)
  | hit
  | ask
  | answer
  | store
  | clear
  | drop
  | settle
  deriving DecidableEq

def Action.entry? : Action → Option (Nat × Operation)
  | .acquire caller operation => some (caller, operation)
  | _ => none

namespace Provider

variable {σ : Type}

inductive Step (provider : Provider σ) : Crowd σ → Action → Crowd σ → Prop
  | enqueue (crowd : Crowd σ) (caller : Nat) (operation : Operation) :
      Step provider crowd (.enqueue caller operation)
        { crowd with waiting := crowd.waiting ++ [(caller, operation)] }
  | leave {crowd : Crowd σ} {caller : Nat} {operation : Operation}
      (waits : (caller, operation) ∈ crowd.waiting) :
      Step provider crowd (.leave caller operation)
        { crowd with waiting := crowd.waiting.erase (caller, operation) }
  | acquire {crowd : Crowd σ} {caller : Nat} {operation : Operation} (free : crowd.holder = none)
      (waits : (caller, operation) ∈ crowd.waiting) :
      Step provider crowd (.acquire caller operation)
        { crowd with
          waiting := crowd.waiting.erase (caller, operation)
          holder := some { caller, stage := .entered operation } }
  | hit {crowd : Crowd σ} {caller : Nat} {query : Query} {answer : Shared query.Answer}
      (held : crowd.holder = some { caller, stage := .entered (.read query) })
      (found : crowd.cache.find? query.key = some answer) :
      Step provider crowd .hit (crowd.release (.finished caller (.read query [] (.ok answer))))
  | ask {crowd : Crowd σ} {caller : Nat} {query : Query}
      (held : crowd.holder = some { caller, stage := .entered (.read query) })
      (missing : crowd.cache.find? query.key = none) :
      Step provider crowd .ask
        { crowd with
          holder := some { caller, stage := .asked query }
          questions := crowd.questions ++ [query] }
  | answer {crowd : Crowd σ} {caller : Nat} {query : Query} {later : σ}
      {outcome : Except Failure (Shared query.Answer)}
      (held : crowd.holder = some { caller, stage := .asked query })
      (asked : provider.ask query crowd.state = (outcome, later)) :
      Step provider crowd .answer
        { crowd with state := later, holder := some { caller, stage := .answered query outcome } }
  | store {crowd : Crowd σ} {caller : Nat} {query : Query}
      {outcome : Except Failure (Shared query.Answer)}
      (held : crowd.holder = some { caller, stage := .answered query outcome }) :
      Step provider crowd .store
        (Crowd.release { crowd with cache := crowd.cache.keep query.key outcome }
          (.finished caller (.read query [⟨query, outcome⟩] outcome)))
  | clear {crowd : Crowd σ} {caller : Nat}
      (held : crowd.holder = some { caller, stage := .entered .forget }) :
      Step provider crowd .clear
        (Crowd.release { crowd with cache := .empty } (.finished caller .forget))
  | dropEntered {crowd : Crowd σ} {caller : Nat} {operation : Operation}
      (held : crowd.holder = some { caller, stage := .entered operation }) :
      Step provider crowd .drop (crowd.release (.dropped caller operation none))
  | dropAsked {crowd : Crowd σ} {caller : Nat} {query : Query}
      (held : crowd.holder = some { caller, stage := .asked query }) :
      Step provider crowd .drop
        (Crowd.release { crowd with strays := query :: crowd.strays }
          (.dropped caller (.read query) (some query)))
  | settle {crowd : Crowd σ} {query : Query} {later : σ}
      {outcome : Except Failure (Shared query.Answer)} (stray : query ∈ crowd.strays)
      (asked : provider.ask query crowd.state = (outcome, later)) :
      Step provider crowd .settle
        { crowd with state := later, strays := crowd.strays.erase query }

inductive Interleaved (provider : Provider σ) : Crowd σ → List Action → Crowd σ → Prop
  | done (crowd : Crowd σ) : Interleaved provider crowd [] crowd
  | step {crowd next last : Crowd σ} {action : Action} {rest : List Action}
      (first : provider.Step crowd action next) (others : Interleaved provider next rest last) :
      Interleaved provider crowd (action :: rest) last

/-- Turns taken one after another: a caller that finishes does its whole operation alone, a caller that is
dropped does nothing. In between the provider may take in questions that nobody waits for. -/
inductive Served (provider : Provider σ) :
    Cache × σ → List Turn → List Call → Cache × σ → Prop
  | done (held : Cache × σ) : Served provider held [] [] held
  | finished {held next last : Cache × σ} {caller : Nat} {event : Event} {turns : List Turn}
      {lost : List Call} (performed : provider.perform event.operation held = (event, next))
      (rest : Served provider next turns lost last) :
      Served provider held (.finished caller event :: turns) lost last
  | dropped {held last : Cache × σ} {caller : Nat} {operation : Operation}
      {question : Option Query} {turns : List Turn} {lost : List Call}
      (rest : Served provider held turns lost last) :
      Served provider held (.dropped caller operation question :: turns) lost last
  | stray {cache : Cache} {state later : σ} {last : Cache × σ} {query : Query}
      {outcome : Except Failure (Shared query.Answer)} {turns : List Turn} {lost : List Call}
      (asked : provider.ask query state = (outcome, later))
      (rest : Served provider (cache, later) turns lost last) :
      Served provider (cache, state) turns (⟨query, outcome⟩ :: lost) last

theorem Served.append {provider : Provider σ} {held middle last : Cache × σ} {first second : List Turn}
    {lost lostLater : List Call} (earlier : provider.Served held first lost middle)
    (later : provider.Served middle second lostLater last) :
    provider.Served held (first ++ second) (lost ++ lostLater) last := by
  induction earlier with
  | done _ => exact later
  | finished performed _ ih => exact .finished performed (ih later)
  | dropped _ ih => exact .dropped (ih later)
  | stray asked _ ih => exact .stray asked (ih later)

theorem Conversation.served {provider : Provider σ} {state last : σ} {lost : List Call}
    (conversation : provider.Conversation state lost last) (cache : Cache) :
    provider.Served (cache, state) [] lost (cache, last) := by
  induction conversation with
  | done _ => exact .done _
  | call asked _ ih => exact .stray asked ih

/-- The provider stands at `state`, but for the question of the caller that has the lock, and for lost
questions taken in after that one was answered. -/
def Underway (provider : Provider σ) (crowd : Crowd σ) (state : σ) (lost : List Call) : Prop :=
  match crowd.holder.map Holder.stage with
  | none | some (.entered _) => crowd.state = state ∧ lost = []
  | some (.asked query) =>
      crowd.state = state ∧ lost = [] ∧ crowd.cache.find? query.key = none
  | some (.answered query outcome) =>
      crowd.cache.find? query.key = none ∧
        ∃ next, provider.ask query state = (outcome, next) ∧
          provider.Conversation next lost crowd.state

def Orderly (provider : Provider σ) (start : σ) (crowd : Crowd σ) : Prop :=
  ∃ state lost trailing, provider.Served (Cache.empty, start) crowd.turns lost (crowd.cache, state) ∧
    provider.Underway crowd state trailing ∧
    ((lost ++ trailing).map Call.query ++ crowd.strays).Perm (crowd.turns.flatMap Turn.abandoned)

theorem Orderly.start (provider : Provider σ) (state : σ) :
    provider.Orderly state (Crowd.start state) :=
  ⟨state, [], [], .done _, ⟨rfl, rfl⟩, .refl _⟩

/-- A lost question is taken in between two turns, or else after the answer that the holder has got. -/
theorem Underway.settle {provider : Provider σ} {crowd : Crowd σ} {state later : σ}
    {trailing : List Call} {query : Query} {outcome : Except Failure (Shared query.Answer)}
    (underway : provider.Underway crowd state trailing)
    (asked : provider.ask query crowd.state = (outcome, later)) (strays : List Query) :
    ∃ next lost rest, provider.Conversation state lost next ∧
      provider.Underway { crowd with state := later, strays } next rest ∧
      lost ++ rest = trailing ++ [⟨query, outcome⟩] := by
  cases held : crowd.holder.map Holder.stage with
  | none =>
      simp only [Underway, held] at underway ⊢
      obtain ⟨same, nothing⟩ := underway
      subst same nothing
      exact ⟨later, [⟨query, outcome⟩], [], .call asked (.done _), ⟨rfl, rfl⟩, rfl⟩
  | some stage =>
      cases stage with
      | entered operation =>
          simp only [Underway, held] at underway ⊢
          obtain ⟨same, nothing⟩ := underway
          subst same nothing
          exact ⟨later, [⟨query, outcome⟩], [], .call asked (.done _), ⟨rfl, rfl⟩, rfl⟩
      | asked question =>
          simp only [Underway, held] at underway ⊢
          obtain ⟨same, nothing, missing⟩ := underway
          subst same nothing
          exact ⟨later, [⟨query, outcome⟩], [], .call asked (.done _), ⟨rfl, rfl, missing⟩, rfl⟩
      | answered question answer =>
          simp only [Underway, held] at underway ⊢
          obtain ⟨missing, next, answered, conversation⟩ := underway
          exact ⟨state, [], trailing ++ [⟨query, outcome⟩], .done _,
            ⟨missing, next, answered, conversation.append (.call asked (.done _))⟩, rfl⟩

theorem Step.orderly {provider : Provider σ} {start : σ} {crowd next : Crowd σ} {action : Action}
    (step : provider.Step crowd action next) (orderly : provider.Orderly start crowd) :
    provider.Orderly start next := by
  obtain ⟨state, lost, trailing, served, underway, balance⟩ := orderly
  cases step with
  | enqueue caller operation => exact ⟨state, lost, trailing, served, underway, balance⟩
  | leave waits => exact ⟨state, lost, trailing, served, underway, balance⟩
  | acquire free waits =>
      simp only [Underway, free, Option.map_none] at underway
      exact ⟨state, lost, trailing, served, underway, balance⟩
  | hit held found =>
      simp only [Underway, held, Option.map_some] at underway
      obtain ⟨same, nothing⟩ := underway
      subst same nothing
      refine ⟨crowd.state, lost ++ [], [], ?_, ⟨rfl, rfl⟩, ?_⟩
      · exact served.append (.finished (provider.perform_hit found _) (.done _))
      · simpa [Crowd.release, Turn.abandoned] using balance
  | ask held missing =>
      simp only [Underway, held, Option.map_some] at underway
      exact ⟨state, lost, trailing, served, ⟨underway.1, underway.2, missing⟩, balance⟩
  | answer held asked =>
      simp only [Underway, held, Option.map_some] at underway
      obtain ⟨same, nothing, missing⟩ := underway
      subst same nothing
      exact ⟨crowd.state, lost, [], served, ⟨missing, _, asked, .done _⟩, balance⟩
  | store held =>
      simp only [Underway, held, Option.map_some] at underway
      obtain ⟨missing, next, asked, conversation⟩ := underway
      refine ⟨crowd.state, lost ++ trailing, [], ?_, ⟨rfl, rfl⟩, ?_⟩
      · exact served.append
          (.finished (provider.perform_miss missing asked) (conversation.served _))
      · simpa [Crowd.release, Turn.abandoned] using balance
  | clear held =>
      simp only [Underway, held, Option.map_some] at underway
      refine ⟨state, lost ++ [], trailing, served.append (.finished rfl (.done _)), underway, ?_⟩
      simpa [Crowd.release, Turn.abandoned] using balance
  | dropEntered held =>
      simp only [Underway, held, Option.map_some] at underway
      refine ⟨state, lost ++ [], trailing, served.append (.dropped (.done _)), underway, ?_⟩
      simpa [Crowd.release, Turn.abandoned] using balance
  | @dropAsked _ query held =>
      simp only [Underway, held, Option.map_some] at underway
      obtain ⟨same, nothing, missing⟩ := underway
      refine ⟨state, lost ++ [], trailing, served.append (.dropped (.done _)), ⟨same, nothing⟩, ?_⟩
      -- the question goes astray: it counts on both sides
      have longer := List.Perm.trans List.perm_middle (balance.cons query)
      simpa [Crowd.release, Turn.abandoned] using longer.trans (List.perm_append_singleton _ _).symm
  | @settle query later outcome stray asked =>
      obtain ⟨next, more, rest, conversation, onward, split⟩ :=
        underway.settle asked (crowd.strays.erase query)
      refine ⟨next, lost ++ more, rest, ?_, onward, ?_⟩
      · simpa using served.append (conversation.served crowd.cache)
      · have regrouped : lost ++ more ++ rest = lost ++ trailing ++ [⟨query, outcome⟩] := by
          rw [List.append_assoc, split, List.append_assoc]
        have restored := (List.perm_cons_erase stray).symm.append_left
          ((lost ++ trailing).map Call.query)
        rw [regrouped]
        simpa using restored.trans balance

theorem Interleaved.orderly {provider : Provider σ} {start : σ} {crowd last : Crowd σ}
    {actions : List Action} (run : provider.Interleaved crowd actions last)
    (orderly : provider.Orderly start crowd) : provider.Orderly start last := by
  induction run with
  | done _ => exact orderly
  | step first _ ih => exact ih (first.orderly orderly)

theorem Step.entries {provider : Provider σ} {crowd next : Crowd σ} {action : Action}
    (step : provider.Step crowd action next) :
    next.entries = crowd.entries ++ action.entry?.toList := by
  cases step with
  | enqueue caller operation => simp [Crowd.entries, Action.entry?]
  | leave waits => simp [Crowd.entries, Action.entry?]
  | acquire free waits => simp [Crowd.entries, Action.entry?, Stage.operation, free]
  | hit held found =>
      simp [Crowd.entries, Crowd.release, Action.entry?, Turn.entry, Stage.operation,
        Event.operation, held]
  | ask held missing => simp [Crowd.entries, Action.entry?, Stage.operation, held]
  | answer held asked => simp [Crowd.entries, Action.entry?, Stage.operation, held]
  | store held =>
      simp [Crowd.entries, Crowd.release, Action.entry?, Turn.entry, Stage.operation,
        Event.operation, held]
  | clear held =>
      simp [Crowd.entries, Crowd.release, Action.entry?, Turn.entry, Stage.operation,
        Event.operation, held]
  | dropEntered held =>
      simp [Crowd.entries, Crowd.release, Action.entry?, Turn.entry, Stage.operation, held]
  | dropAsked held =>
      simp [Crowd.entries, Crowd.release, Action.entry?, Turn.entry, Stage.operation, held]
  | settle stray asked => simp [Crowd.entries, Action.entry?]

theorem Interleaved.entries {provider : Provider σ} {crowd last : Crowd σ} {actions : List Action}
    (run : provider.Interleaved crowd actions last) :
    last.entries = crowd.entries ++ actions.filterMap Action.entry? := by
  induction run with
  | done _ => simp
  | @step _ _ _ action rest first _ ih =>
      rw [ih, first.entries, List.filterMap_cons]
      cases action.entry? <;> simp

theorem Step.questions {provider : Provider σ} {crowd next : Crowd σ} {action : Action}
    (step : provider.Step crowd action next)
    (told : crowd.questions = crowd.turns.flatMap Turn.questions ++ crowd.openQuestions) :
    next.questions = next.turns.flatMap Turn.questions ++ next.openQuestions := by
  cases step with
  | enqueue caller operation => exact told
  | leave waits => exact told
  | acquire free waits => simpa [Crowd.openQuestions, Stage.questions, free] using told
  | hit held found =>
      simpa [Crowd.openQuestions, Crowd.release, Turn.questions, Event.calls, Stage.questions, held]
        using told
  | ask held missing => simpa [Crowd.openQuestions, Stage.questions, held] using told
  | answer held asked => simpa [Crowd.openQuestions, Stage.questions, held] using told
  | store held =>
      simpa [Crowd.openQuestions, Crowd.release, Turn.questions, Event.calls, Stage.questions, held]
        using told
  | clear held =>
      simpa [Crowd.openQuestions, Crowd.release, Turn.questions, Event.calls, Stage.questions, held]
        using told
  | dropEntered held =>
      simpa [Crowd.openQuestions, Crowd.release, Turn.questions, Stage.questions, held] using told
  | dropAsked held =>
      simpa [Crowd.openQuestions, Crowd.release, Turn.questions, Stage.questions, held] using told
  | settle stray asked => exact told

theorem Interleaved.questions {provider : Provider σ} {crowd last : Crowd σ} {actions : List Action}
    (run : provider.Interleaved crowd actions last)
    (told : crowd.questions = crowd.turns.flatMap Turn.questions ++ crowd.openQuestions) :
    last.questions = last.turns.flatMap Turn.questions ++ last.openQuestions := by
  induction run with
  | done _ => exact told
  | step first _ ih => exact ih (first.questions told)

theorem Step.open_before {provider : Provider σ} {crowd next : Crowd σ} {action : Action}
    (step : provider.Step crowd action next) (waits : next.openQuestions ≠ [])
    (other : action ≠ .ask) : crowd.openQuestions ≠ [] ∧ action ≠ .clear := by
  cases step with
  | enqueue caller operation => exact ⟨waits, by simp⟩
  | leave _ => exact ⟨waits, by simp⟩
  | acquire free _ => simp [Crowd.openQuestions, Stage.questions] at waits
  | hit held found => simp [Crowd.openQuestions, Crowd.release] at waits
  | ask held missing => exact absurd rfl other
  | answer held asked => simp [Crowd.openQuestions, Stage.questions, held]
  | store held => simp [Crowd.openQuestions, Crowd.release] at waits
  | clear held => simp [Crowd.openQuestions, Crowd.release] at waits
  | dropEntered held => simp [Crowd.openQuestions, Crowd.release] at waits
  | dropAsked held => simp [Crowd.openQuestions, Crowd.release] at waits
  | settle stray asked => exact ⟨waits, by simp⟩

theorem Interleaved.open_before {provider : Provider σ} {crowd last : Crowd σ}
    {actions : List Action} (run : provider.Interleaved crowd actions last)
    (waits : last.openQuestions ≠ []) (other : Action.ask ∉ actions) :
    crowd.openQuestions ≠ [] ∧ Action.clear ∉ actions := by
  induction run with
  | done _ => exact ⟨waits, by simp⟩
  | @step _ _ _ action rest first _ ih =>
      rw [List.mem_cons, not_or] at other ⊢
      obtain ⟨between, uncleared⟩ := ih waits other.2
      obtain ⟨before, different⟩ := first.open_before between (Ne.symm other.1)
      exact ⟨before, different.symm, uncleared⟩

theorem interleaved_append {provider : Provider σ} {crowd last : Crowd σ} {xs ys : List Action} :
    provider.Interleaved crowd (xs ++ ys) last ↔
      ∃ middle, provider.Interleaved crowd xs middle ∧ provider.Interleaved middle ys last := by
  induction xs generalizing crowd with
  | nil =>
      constructor
      · intro run
        exact ⟨crowd, .done _, run⟩
      · rintro ⟨middle, first, rest⟩
        cases first
        exact rest
  | cons action xs ih =>
      constructor
      · rintro (_ | ⟨first, others⟩)
        obtain ⟨middle, before, after⟩ := ih.mp others
        exact ⟨middle, .step first before, after⟩
      · rintro ⟨middle, before, after⟩
        cases before with
        | step first others => exact .step first (ih.mpr ⟨middle, others, after⟩)

theorem Served.tracks {provider : Provider σ} {held last : Cache × σ} {turns : List Turn}
    {lost : List Call} {history : List Event} (served : provider.Served held turns lost last)
    (tracked : held.1.Tracks history) :
    AllSettled history (turns.filterMap Turn.event?) ∧
      last.1.Tracks (history ++ turns.filterMap Turn.event?) := by
  induction served generalizing history with
  | done _ => exact ⟨trivial, by simpa using tracked⟩
  | @finished held next last caller event turns lost performed rest ih =>
      obtain ⟨settled, onward, _⟩ := perform_tracks provider tracked event.operation held.2
      rw [show (held.1, held.2) = held from rfl, performed] at settled onward
      obtain ⟨restSettled, restTracked⟩ := ih onward
      exact ⟨⟨settled, restSettled⟩, by simpa [Turn.event?] using restTracked⟩
  | dropped _ ih => exact ih tracked
  | stray _ _ ih => exact ih tracked

theorem Served.performAll {provider : Provider σ} {held last : Cache × σ} {turns : List Turn}
    {lost : List Call} (served : provider.Served held turns lost last) (nothing : lost = []) :
    provider.performAll ((turns.filterMap Turn.event?).map Event.operation) held =
      (turns.filterMap Turn.event?, last) := by
  induction served with
  | done _ => rfl
  | finished performed _ ih => simp [Turn.event?, Provider.performAll, performed, ih nothing]
  | dropped _ ih => exact ih nothing
  | stray _ _ _ => simp at nothing

/-- What an interleaving of callers comes to. -/
structure Linearized (provider : Provider σ) (start : σ) (actions : List Action) (crowd : Crowd σ) :
    Prop where
  order : crowd.entries = actions.filterMap Action.entry?
  served : ∃ state lost untaken,
    provider.Served (Cache.empty, start) crowd.turns lost (crowd.cache, state) ∧
    (lost.map Call.query ++ untaken).Perm (crowd.turns.flatMap Turn.abandoned) ∧
    (crowd.holder = none → crowd.state = state)
  undisturbed : crowd.turns.flatMap Turn.abandoned = [] → ∃ state,
    provider.performAll (crowd.events.map Event.operation) (Cache.empty, start) =
      (crowd.events, (crowd.cache, state))
  asked : crowd.questions = crowd.turns.flatMap Turn.questions ++ crowd.openQuestions
  once : ∀ before stretch after, crowd.events = before ++ stretch ++ after →
    Event.forget ∉ stretch → ∀ key, fetchCount key stretch ≤ 1
  fresh : ∀ before between after, actions = before ++ .ask :: (between ++ .store :: after) →
    Action.ask ∉ between → Action.clear ∉ between

theorem interleaved_callers_linearized {provider : Provider σ} {start : σ} {actions : List Action}
    {crowd : Crowd σ} (run : provider.Interleaved (Crowd.start start) actions crowd) :
    provider.Linearized start actions crowd := by
  obtain ⟨state, lost, trailing, served, underway, balance⟩ := run.orderly (Orderly.start provider start)
  have settled := (served.tracks Cache.Tracks.empty).1
  refine ⟨run.entries, ⟨state, lost, trailing.map Call.query ++ crowd.strays, served, ?_, ?_⟩, ?_,
    run.questions rfl, ?_, ?_⟩
  · simpa using balance
  · intro idle
    simp only [Underway, idle, Option.map_none] at underway
    exact underway.1
  · intro kept
    rw [kept] at balance
    have nothing : lost = [] ∧ trailing = [] := by
      simpa using (List.append_eq_nil_iff.mp balance.eq_nil).1
    exact ⟨state, served.performAll nothing.1⟩
  · intro before stretch after split unforgotten key
    rw [show crowd.turns.filterMap Turn.event? = crowd.events from rfl, split, allSettled_append,
      allSettled_append] at settled
    exact (settled.1.2.fetchCount_le unforgotten).1
  · intro before between after split unasked
    rw [split, interleaved_append] at run
    obtain ⟨_, _, _ | ⟨asking, others⟩⟩ := run
    obtain ⟨middle, waiting, _ | ⟨storing, _⟩⟩ := interleaved_append.mp others
    cases storing with
    | store held =>
        have waits : middle.openQuestions ≠ [] := by
          simp [Crowd.openQuestions, Stage.questions, held]
        exact (waiting.open_before waits unasked).2

/-- The first of two callers is dropped while it waits for the provider, which takes its question in only
after the second caller has put the same one. -/
theorem dropped_caller_linearized :
    let start : Labelled Catalogue := { state := {}, next := 0 }
    let groups := Operation.read .groups
    let actions : List Action :=
      [.enqueue 0 groups, .enqueue 1 groups, .acquire 0 groups, .ask, .drop, .acquire 1 groups, .ask,
        .settle, .answer, .store]
    ∃ crowd, Catalogue.origin.provider.Interleaved (Crowd.start start) actions crowd ∧
      Catalogue.origin.provider.Linearized start actions crowd := by
  intro start groups actions
  have run : ∃ crowd, Catalogue.origin.provider.Interleaved (Crowd.start start) actions crowd :=
    ⟨_, .step (.enqueue _ _ _) <| .step (.enqueue _ _ _) <|
      .step (.acquire rfl List.mem_cons_self) <| .step (.ask rfl rfl) <| .step (.dropAsked rfl) <|
      .step (.acquire rfl List.mem_cons_self) <| .step (.ask rfl rfl) <|
      .step (.settle List.mem_cons_self rfl) <| .step (.answer rfl rfl) <| .step (.store rfl) <|
      .done _⟩
  obtain ⟨crowd, run⟩ := run
  exact ⟨crowd, run, interleaved_callers_linearized run⟩

end Provider

end ApiDiscovery
