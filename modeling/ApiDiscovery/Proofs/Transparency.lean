import ApiDiscovery.Cache
import ApiDiscovery.Handle
import ApiDiscovery.Proofs.PreferredListing
import ApiDiscovery.Simulation.Session

/-!
Caches cannot be told from the provider below them. Two runs of one algorithm, on two providers that
answer alike, are compared step by step; a stack of caches in any state it can get into answers like the
provider it stands on, if that one always gives the same answers.
-/

namespace ApiDiscovery

inductive OutcomesAlike {α β : Type} (same : α → β → Prop) :
    Except Failure α → Except Failure β → Prop
  | ok {left : α} {right : β} (alike : same left right) : OutcomesAlike same (.ok left) (.ok right)
  | error (failure : Failure) : OutcomesAlike same (.error failure) (.error failure)

theorem OutcomesAlike.eq {α : Type} {left right : Except Failure α}
    (alike : OutcomesAlike Eq left right) : left = right := by
  cases alike with
  | ok same => rw [same]
  | error failure => rfl

theorem OutcomesAlike.map_eq {α β γ : Type} {same : α → β → Prop} {first : α → γ} {second : β → γ}
    {left : Except Failure α} {right : Except Failure β} (alike : OutcomesAlike same left right)
    (agree : ∀ a b, same a b → first a = second b) : first <$> left = second <$> right := by
  cases alike with
  | @ok a b same =>
      have images : first a = second b := agree a b same
      exact congrArg Except.ok images
  | error failure => rfl

def SameValue {α : Type} (left right : Shared α) : Prop := left.value = right.value

namespace Exchange

variable {σ τ α β γ δ : Type}

def Simulates (related : σ → τ → Prop) (same : α → β → Prop) (left : Exchange σ α)
    (right : Exchange τ β) : Prop :=
  ∀ s t, related s t → OutcomesAlike same (left s).1 (right t).1 ∧ related (left s).2 (right t).2

variable {related : σ → τ → Prop} {same : α → β → Prop} {other : γ → δ → Prop}
  {left : Exchange σ α} {right : Exchange τ β}

theorem simulates_pure {a : α} {b : β} (alike : same a b) :
    Simulates related same (pure a : Exchange σ α) (pure b : Exchange τ β) :=
  fun _ _ states => ⟨.ok alike, states⟩

theorem simulates_lift {ε : Type} (describe : ε → Failure) (outcome : Except ε α) :
    Simulates related Eq (lift describe outcome : Exchange σ α) (lift describe outcome) := by
  intro s t states
  cases outcome with
  | ok value => exact ⟨.ok rfl, states⟩
  | error error => exact ⟨.error _, states⟩

theorem Simulates.bind {next : α → Exchange σ γ} {after : β → Exchange τ δ}
    (first : Simulates related same left right)
    (rest : ∀ a b, same a b → Simulates related other (next a) (after b)) :
    Simulates related other (left >>= next) (right >>= after) := by
  intro s t states
  obtain ⟨alike, onward⟩ := first s t states
  rw [bind_apply, bind_apply]
  generalize left s = leftDone at alike onward
  generalize right t = rightDone at alike onward
  obtain ⟨leftOutcome, leftState⟩ := leftDone
  obtain ⟨rightOutcome, rightState⟩ := rightDone
  cases alike with
  | ok values => exact rest _ _ values _ _ onward
  | error failure => exact ⟨.error failure, onward⟩

theorem Simulates.map {change : α → γ} {alter : β → δ} (first : Simulates related same left right)
    (agree : ∀ a b, same a b → other (change a) (alter b)) :
    Simulates related other (change <$> left) (alter <$> right) :=
  first.bind fun a b values => simulates_pure (agree a b values)

theorem Simulates.mapFailure (describe : Failure → Failure)
    (first : Simulates related same left right) :
    Simulates related same (left.mapFailure describe) (right.mapFailure describe) := by
  intro s t states
  obtain ⟨alike, onward⟩ := first s t states
  unfold Exchange.mapFailure
  generalize left s = leftDone at alike onward
  generalize right t = rightDone at alike onward
  obtain ⟨leftOutcome, leftState⟩ := leftDone
  obtain ⟨rightOutcome, rightState⟩ := rightDone
  cases alike with
  | ok values => exact ⟨.ok values, onward⟩
  | error failure => exact ⟨.error _, onward⟩

end Exchange

open Exchange (Simulates simulates_pure simulates_lift)

/-- No other question is stored under the key of this one. -/
def Query.OwnsKey (query : Query) : Prop := ∀ other : Query, other.key = query.key → other = query

theorem Query.ownsKey_groups : Query.groups.OwnsKey := by
  intro other same
  cases other <;> simp_all [Query.key]

theorem Query.ownsKey_resources (apiVersion : String) : (Query.resources apiVersion).OwnsKey := by
  intro other same
  cases other <;> simp_all [Query.key]

theorem Query.ownsKey_version : Query.version.OwnsKey := by
  intro other same
  cases other <;> simp_all [Query.key]

theorem Query.ownsKey_schema : Query.schema.OwnsKey := by
  intro other same
  cases other <;> simp_all [Query.key]

namespace Provider

variable {σ τ : Type}

/-- What a provider says of itself in one state is what another one says in a state of its own: every
read, every listing and every resolution of a kind comes to the same value or to the same failure. -/
structure SpeaksLike (left : Provider σ) (s : σ) (right : Provider τ) (t : τ) : Prop where
  groups : Shared.value <$> (left.groups s).1 = Shared.value <$> (right.groups t).1
  resources : ∀ apiVersion,
    Shared.value <$> (left.resources apiVersion s).1 = Shared.value <$> (right.resources apiVersion t).1
  version : Shared.value <$> (left.ask .version s).1 = Shared.value <$> (right.ask .version t).1
  schema : Shared.value <$> (left.ask .schema s).1 = Shared.value <$> (right.ask .schema t).1
  allResources :
    List.map Shared.value <$> (left.allResources s).1 =
      List.map Shared.value <$> (right.allResources t).1
  preferredResources : (left.preferredResources s).1 = (right.preferredResources t).1
  preferredNamespacedResources :
    (left.preferredNamespacedResources s).1 = (right.preferredNamespacedResources t).1
  resourceFor : ∀ kind, (left.resourceFor kind s).1 = (right.resourceFor kind t).1

def AnswersLike (related : σ → τ → Prop) (left : Provider σ) (right : Provider τ) : Prop :=
  ∀ query : Query, query.OwnsKey → Simulates related SameValue (left.ask query) (right.ask query)

namespace AnswersLike

variable {related : σ → τ → Prop} {left : Provider σ} {right : Provider τ}

theorem tour (alike : AnswersLike related left right) (stops : List Stop) :
    Simulates related
      (fun first second : List Visit =>
        first.map (fun visit => (visit.stop, visit.found.value)) =
          second.map fun visit => (visit.stop, visit.found.value))
      (left.tour stops) (right.tour stops) := by
  induction stops with
  | nil => exact simulates_pure rfl
  | cons stop rest ih =>
      refine (alike _ (Query.ownsKey_resources stop.served.groupVersion)).bind ?_
      intro found other same
      refine ih.bind ?_
      intro visits others sameVisits
      have head : found.value = other.value := same
      exact simulates_pure (by rw [List.map_cons, List.map_cons, sameVisits, head])

theorem allResources (alike : AnswersLike related left right) :
    Simulates related (fun first second => first.map Shared.value = second.map Shared.value)
      left.allResources right.allResources := by
  rw [allResources_eq_tour, allResources_eq_tour]
  refine (alike _ Query.ownsKey_groups).bind ?_
  intro groups others same
  have sameGroups : groups.value = others.value := same
  rw [sameGroups]
  refine (alike.tour _).map ?_
  intro visits met sameVisits
  have values := congrArg (List.map Prod.snd) sameVisits
  simpa [Function.comp_def] using values

theorem preferredResources (alike : AnswersLike related left right) :
    Simulates related Eq left.preferredResources right.preferredResources := by
  rw [preferredResources_eq_tour, preferredResources_eq_tour]
  refine (alike _ Query.ownsKey_groups).bind ?_
  intro groups others same
  have sameGroups : groups.value = others.value := same
  rw [sameGroups]
  refine (alike.tour _).map ?_
  intro visits met sameVisits
  -- a ballot takes in the value of an answer and never looks at its label
  have counted : ∀ visits : List Visit, visits.foldl Ballot.visit {} =
      (visits.map fun visit => (visit.stop, visit.found.value)).foldl
        (fun ballot seen => ballot.count seen.1.group seen.1.served seen.2) {} := by
    intro visits
    rw [List.foldl_map]
    rfl
  rw [counted, counted, sameVisits]

theorem preferredNamespacedResources (alike : AnswersLike related left right) :
    Simulates related Eq left.preferredNamespacedResources right.preferredNamespacedResources :=
  alike.preferredResources.map fun _ _ same => congrArg namespacedOnly same

theorem resourceFor (alike : AnswersLike related left right) (kind : GroupVersionKind) :
    Simulates related Eq (left.resourceFor kind) (right.resourceFor kind) := by
  refine ((alike _ (Query.ownsKey_resources kind.apiVersion)).mapFailure _).bind ?_
  intro list other same
  have sameList : list.value = other.value := same
  rw [sameList]
  refine (simulates_lift id _).bind ?_
  intro listed found sameListed
  rw [sameListed]
  exact simulates_lift _ _

theorem speaksLike (alike : AnswersLike related left right) {s : σ} {t : τ} (states : related s t) :
    left.SpeaksLike s right t := by
  have read : ∀ query : Query, query.OwnsKey →
      Shared.value <$> (left.ask query s).1 = Shared.value <$> (right.ask query t).1 := by
    intro query owned
    exact (alike query owned s t states).1.map_eq fun _ _ same => same
  exact
    { groups := read _ Query.ownsKey_groups
      resources := fun apiVersion => read _ (Query.ownsKey_resources apiVersion)
      version := read _ Query.ownsKey_version
      schema := read _ Query.ownsKey_schema
      allResources := (alike.allResources s t states).1.map_eq fun _ _ same => same
      preferredResources := (alike.preferredResources s t states).1.eq
      preferredNamespacedResources := (alike.preferredNamespacedResources s t states).1.eq
      resourceFor := fun kind => (alike.resourceFor kind s t states).1.eq }

end AnswersLike

/-- In every state that satisfies `steady` the provider gives the same answers, and it stays in such
states. -/
structure Constant (provider : Provider σ) (steady : σ → Prop)
    (answers : (query : Query) → Except Failure query.Answer) : Prop where
  answer : ∀ (query : Query) (state : σ), query.OwnsKey → steady state →
    Shared.value <$> (provider.ask query state).1 = answers query
  stays : ∀ (query : Query) (state : σ), steady state → steady (provider.ask query state).2

theorem Constant.answersLike {left : Provider σ} {right : Provider τ} {steady : σ → Prop}
    {calm : τ → Prop} {answers : (query : Query) → Except Failure query.Answer}
    (first : left.Constant steady answers) (second : right.Constant calm answers) :
    AnswersLike (fun s t => steady s ∧ calm t) left right := by
  rintro query owned s t ⟨steadyState, calmState⟩
  have values := (first.answer query s owned steadyState).trans
    (second.answer query t owned calmState).symm
  have states := And.intro (first.stays query s steadyState) (second.stays query t calmState)
  generalize left.ask query s = leftDone at values states ⊢
  generalize right.ask query t = rightDone at values states ⊢
  obtain ⟨leftFailure | leftAnswer, leftState⟩ := leftDone
  · obtain ⟨rightFailure | rightAnswer, rightState⟩ := rightDone
    · cases values
      exact ⟨.error _, states⟩
    · cases values
  · obtain ⟨rightFailure | rightAnswer, rightState⟩ := rightDone
    · cases values
    · exact ⟨.ok (Except.ok.inj values), states⟩

end Provider

def Cache.Faithful (answers : (query : Query) → Except Failure query.Answer) (cache : Cache) : Prop :=
  ∀ (query : Query) (answer : Shared query.Answer), query.OwnsKey →
    cache.find? query.key = some answer → answers query = .ok answer.value

theorem Cache.faithful_empty (answers : (query : Query) → Except Failure query.Answer) :
    Cache.empty.Faithful answers := by
  intro query answer _ held
  rw [Cache.find?_empty] at held
  cases held

theorem Cache.Faithful.fill {answers : (query : Query) → Except Failure query.Answer} {cache : Cache}
    (faithful : cache.Faithful answers) {query : Query} {answer : Shared query.Answer}
    (said : query.OwnsKey → answers query = .ok answer.value) :
    (cache.fill query.key answer).Faithful answers := by
  intro asked held owned found
  by_cases same : asked.key = query.key
  · -- whoever owns the key that was filled is the question that was asked
    have sameQuery : query = asked := owned query same.symm
    subst sameQuery
    rw [Cache.find?_fill_self] at found
    cases found
    exact said owned
  · rw [Cache.find?_fill_of_ne _ _ same] at found
    exact faithful asked held owned found

theorem Provider.Constant.cached {σ : Type} {provider : Provider σ} {steady : σ → Prop}
    {answers : (query : Query) → Except Failure query.Answer}
    (constant : provider.Constant steady answers) :
    provider.cached.Constant (fun held => held.1.Faithful answers ∧ steady held.2) answers := by
  have step : ∀ (query : Query) (held : Cache × σ), held.1.Faithful answers ∧ steady held.2 →
      (query.OwnsKey → Shared.value <$> (provider.cached.ask query held).1 = answers query) ∧
        (provider.cached.ask query held).2.1.Faithful answers ∧
        steady (provider.cached.ask query held).2.2 := by
    rintro query ⟨cache, state⟩ ⟨faithful, steadyState⟩
    have answered := fun owned => constant.answer query state owned steadyState
    have stays := constant.stays query state steadyState
    cases found : cache.find? query.key with
    | some answer =>
        rw [provider.cached_ask_of_held found]
        exact ⟨fun owned => (faithful query answer owned found).symm, faithful, steadyState⟩
    | none =>
        cases asked : provider.ask query state with
        | mk outcome later =>
            rw [asked] at answered stays
            cases outcome with
            | ok answer =>
                rw [provider.cached_ask_of_answered found asked]
                exact ⟨answered, faithful.fill fun owned => (answered owned).symm, stays⟩
            | error failure =>
                rw [provider.cached_ask_of_failed found asked]
                exact ⟨answered, faithful, stays⟩
  exact
    { answer := fun query held owned states => (step query held states).1 owned
      stays := fun query held states => (step query held states).2 }

namespace Stack

variable {σ : Type}

def Faithful (answers : (query : Query) → Except Failure query.Answer) (steady : σ → Prop) :
    (height : Nat) → Stack σ height → Prop
  | 0, state => steady state
  | height + 1, stack => stack.1.Faithful answers ∧ Faithful answers steady height stack.2

theorem constant {base : Provider σ} {steady : σ → Prop}
    {answers : (query : Query) → Except Failure query.Answer}
    (constant : base.Constant steady answers) (height : Nat) :
    (provider base height).Constant (Faithful answers steady height) answers := by
  induction height with
  | zero => exact constant
  | succ height ih => exact ih.cached

inductive Used (base : Provider σ) : (height : Nat) → Stack σ height → Stack σ height → Prop
  | ask {height : Nat} (query : Query) (stack : Stack σ height) :
      Used base height stack ((provider base height).ask query stack).2
  | list {height : Nat} (stack : Stack σ height) :
      Used base height stack ((provider base height).allResources stack).2
  | listPreferred {height : Nat} (stack : Stack σ height) :
      Used base height stack ((provider base height).preferredResources stack).2
  | listNamespaced {height : Nat} (stack : Stack σ height) :
      Used base height stack ((provider base height).preferredNamespacedResources stack).2
  | resolve {height : Nat} (kind : GroupVersionKind) (stack : Stack σ height) :
      Used base height stack ((provider base height).resourceFor kind stack).2
  | forget {height : Nat} (cache : Cache) (below : Stack σ height) :
      Used base (height + 1) (cache, below) (Cache.forget (cache, below))
  | inside {height : Nat} (cache : Cache) {stack next : Stack σ height}
      (used : Used base height stack next) : Used base (height + 1) (cache, stack) (cache, next)

/-- What can become of a provider in its first state, by being wrapped in caches, used in any way, and
taken out of a cache again. A cache with several holders is one cache, whoever uses it. -/
inductive Reached (base : Provider σ) (start : σ) : (height : Nat) → Stack σ height → Prop
  | bare : Reached base start 0 start
  | wrap {height : Nat} {stack : Stack σ height} (reached : Reached base start height stack) :
      Reached base start (height + 1) (Cache.empty, stack)
  | unwrap {height : Nat} {cache : Cache} {stack : Stack σ height}
      (reached : Reached base start (height + 1) (cache, stack)) : Reached base start height stack
  | use {height : Nat} {stack next : Stack σ height} (reached : Reached base start height stack)
      (used : Used base height stack next) : Reached base start height next

variable {base : Provider σ} {steady : σ → Prop}
  {answers : (query : Query) → Except Failure query.Answer}

theorem Used.faithful (constant : base.Constant steady answers) {height : Nat}
    {stack next : Stack σ height} (used : Used base height stack next)
    (faithful : Faithful answers steady height stack) : Faithful answers steady height next := by
  -- a stack is compared with itself: what it is simulated by stays faithful
  have itself := fun height =>
    (Stack.constant constant height).answersLike (Stack.constant constant height)
  induction used with
  | ask query stack => exact (Stack.constant constant _).stays query stack faithful
  | list stack => exact ((itself _).allResources stack stack ⟨faithful, faithful⟩).2.1
  | listPreferred stack => exact ((itself _).preferredResources stack stack ⟨faithful, faithful⟩).2.1
  | listNamespaced stack =>
      exact ((itself _).preferredNamespacedResources stack stack ⟨faithful, faithful⟩).2.1
  | resolve kind stack => exact ((itself _).resourceFor kind stack stack ⟨faithful, faithful⟩).2.1
  | forget cache below => exact ⟨Cache.faithful_empty answers, faithful.2⟩
  | inside cache _ ih => exact ⟨faithful.1, ih faithful.2⟩

theorem Reached.faithful (constant : base.Constant steady answers) {start : σ} (ready : steady start)
    {height : Nat} {stack : Stack σ height} (reached : Reached base start height stack) :
    Faithful answers steady height stack := by
  induction reached with
  | bare => exact ready
  | wrap _ ih => exact ⟨Cache.faithful_empty answers, ih⟩
  | unwrap _ ih => exact ih.2
  | use _ used ih => exact used.faithful constant ih

/-- A stack of caches, whatever has been done with it, says what the provider below it says directly. -/
theorem reached_speaksLike (constant : base.Constant steady answers) {start direct : σ}
    (ready : steady start) (calm : steady direct) {height : Nat} {stack : Stack σ height}
    (reached : Reached base start height stack) :
    (provider base height).SpeaksLike stack base direct := by
  have alike := (Stack.constant constant height).answersLike constant
  exact alike.speaksLike ⟨reached.faithful constant ready, calm⟩

end Stack

theorem Catalogue.constant (catalogue : Catalogue) :
    Catalogue.origin.provider.Constant
      (fun held => held.state.failures = 0 ∧ ∀ query, held.state.lookup query = catalogue.lookup query)
      catalogue.lookup := by
  have asking : ∀ (query : Query) (held : Labelled Catalogue), held.state.failures = 0 →
      Shared.value <$> (Catalogue.origin.provider.ask query held).1 = held.state.lookup query ∧
        (Catalogue.origin.provider.ask query held).2.state =
          { held.state with calls := held.state.calls.count query } := by
    intro query held patient
    have answered : Catalogue.origin.answer query held.state =
        (held.state.lookup query, { held.state with calls := held.state.calls.count query }) := by
      simp only [Catalogue.origin, patient]
      cases query <;> rfl
    simp only [Origin.provider, answered]
    cases held.state.lookup query <;> exact ⟨rfl, rfl⟩
  constructor
  · intro query held _ steady
    rw [(asking query held steady.1).1, steady.2]
  · intro query held steady
    rw [(asking query held steady.1).2]
    refine ⟨steady.1, ?_⟩
    intro asked
    rw [← steady.2]
    cases asked <;> rfl

/-- A cache on a cache: the groups were asked for through both, the inner one was told to forget, and then
the preferred resources were listed through the outer one. -/
def Stack.contestedNested : Stack (Labelled Catalogue) Wrapping.nested.height :=
  let nested := Stack.provider Catalogue.origin.provider Wrapping.nested.height
  let asked := (nested.ask .groups (Stack.build Catalogue.contestedStart Wrapping.nested.height)).2
  (nested.preferredResources (asked.1, Cache.forget asked.2)).2

/-- The inner cache has lost the groups, which the outer one still holds; both hold the resources. -/
theorem Stack.contested_nested_speaksLike :
    let base := Catalogue.origin.provider
    let height := Wrapping.nested.height
    let outer : Cache := contestedNested.1
    let inner : Cache := contestedNested.2.1
    outer.groups = some { label := 0, value := { groups := Catalogue.contested.groups } } ∧
      inner.groups = none ∧ inner.resources = outer.resources ∧
      outer.resources.reverse.map (fun held => (held.1, held.2.value.resources)) =
        Catalogue.contested.resources ∧
      Stack.Reached base Catalogue.contestedStart height contestedNested ∧
      (Stack.provider base height).SpeaksLike contestedNested base Catalogue.contestedStart := by
  intro base height outer inner
  have ready : Catalogue.contestedStart.state.failures = 0 ∧
      ∀ query, Catalogue.contestedStart.state.lookup query = Catalogue.contested.lookup query :=
    ⟨rfl, fun _ => rfl⟩
  have reached : Stack.Reached base Catalogue.contestedStart height contestedNested :=
    .use (.use (.use (.wrap (.wrap .bare)) (.ask .groups _)) (.inside _ (.forget _ _))) (.listPreferred _)
  refine ⟨?groups, ?lost, ?same, ?pages, reached,
    Stack.reached_speaksLike (Catalogue.constant Catalogue.contested) ready ready reached⟩
  all_goals decide +kernel

end ApiDiscovery
