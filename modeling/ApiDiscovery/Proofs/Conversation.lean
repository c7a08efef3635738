import ApiDiscovery.Cache

/-!
What passes between a cache and the provider below it. A recorded provider writes down every call made to
it; a conversation is a sequence of calls that a provider answers one after another.
-/

namespace ApiDiscovery

structure Call where
  query : Query
  outcome : Except Failure (Shared query.Answer)

namespace Call

inductive Answered : Call → (key : Key) → Shared key.Answer → Prop
  | intro (query : Query) (answer : Shared query.Answer) :
      Answered { query, outcome := .ok answer } query.key answer

def succeeded (call : Call) : Bool :=
  match call.outcome with
  | .ok _ => true
  | .error _ => false

def fetches (key : Key) (call : Call) : Bool := call.query.key == key && call.succeeded

theorem Answered.key_eq {call : Call} {key : Key} {answer : Shared key.Answer}
    (answered : call.Answered key answer) : call.query.key = key := by
  cases answered
  rfl

theorem answered_ok_iff {query : Query} {answer other : Shared query.Answer} :
    Answered { query, outcome := .ok answer } query.key other ↔ other = answer := by
  constructor
  · intro answered
    cases answered
    rfl
  · intro same
    exact same ▸ Answered.intro query answer

theorem not_answered_error {query : Query} {failure : Failure} {key : Key}
    {answer : Shared key.Answer} :
    ¬Answered { query, outcome := .error failure } key answer := by
  intro answered
  cases answered

theorem exists_answered_of_fetches {call : Call} {key : Key} (fetched : call.fetches key = true) :
    ∃ answer, call.Answered key answer := by
  obtain ⟨query, outcome⟩ := call
  simp only [fetches, Bool.and_eq_true, beq_iff_eq] at fetched
  obtain ⟨same, succeeded⟩ := fetched
  subst same
  cases outcome with
  | ok answer => exact ⟨answer, Answered.intro query answer⟩
  | error failure => simp [Call.succeeded] at succeeded

end Call

namespace Provider

variable {σ : Type}

def recorded (provider : Provider σ) : Provider (σ × List Call) where
  ask query := fun (state, calls) =>
    let (outcome, later) := provider.ask query state
    (outcome, (later, calls ++ [⟨query, outcome⟩]))

theorem recorded_ask {provider : Provider σ} {query : Query} {state later : σ}
    {outcome : Except Failure (Shared query.Answer)} (asked : provider.ask query state = (outcome, later))
    (calls : List Call) :
    provider.recorded.ask query (state, calls) = (outcome, (later, calls ++ [⟨query, outcome⟩])) := by
  simp only [recorded, asked]

/-- The provider answers the calls in order on its way from one state to another. -/
inductive Conversation (provider : Provider σ) : σ → List Call → σ → Prop
  | done (state : σ) : Conversation provider state [] state
  | call {query : Query} {outcome : Except Failure (Shared query.Answer)} {state next last : σ}
      {calls : List Call} (asked : provider.ask query state = (outcome, next))
      (rest : Conversation provider next calls last) :
      Conversation provider state (⟨query, outcome⟩ :: calls) last

theorem Conversation.append {provider : Provider σ} {state middle last : σ} {first second : List Call}
    (earlier : provider.Conversation state first middle)
    (later : provider.Conversation middle second last) :
    provider.Conversation state (first ++ second) last := by
  induction earlier with
  | done _ => exact later
  | call asked _ ih => exact Conversation.call asked (ih later)

end Provider

end ApiDiscovery
