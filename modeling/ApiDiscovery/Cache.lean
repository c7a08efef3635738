import ApiDiscovery.Discovery

/-!
Remembered answers. A cached provider asks the provider below it for what it does not hold, and keeps
every answer, but no failure, until it is told to forget. Caches may stand on caches.
-/

namespace ApiDiscovery

structure Cache where
  groups : Option (Shared GroupList) := none
  resources : List (String × Shared ResourceList) := []
  version : Option (Shared BuildInfo) := none
  declarations : List (String × Shared SwaggerDeclaration) := []
  schema : Option (Shared OpenApiDocument) := none

namespace Cache

def empty : Cache := {}

def find? (cache : Cache) : (key : Key) → Option (Shared key.Answer)
  | .groups => cache.groups
  | .resources apiVersion => cache.resources.lookup apiVersion
  | .version => cache.version
  | .declaration apiVersion => cache.declarations.lookup apiVersion
  | .schema => cache.schema

def fill (cache : Cache) : (key : Key) → Shared key.Answer → Cache
  | .groups, answer => { cache with groups := some answer }
  | .resources apiVersion, answer =>
      { cache with resources := (apiVersion, answer) :: cache.resources }
  | .version, answer => { cache with version := some answer }
  | .declaration apiVersion, answer =>
      { cache with declarations := (apiVersion, answer) :: cache.declarations }
  | .schema, answer => { cache with schema := some answer }

def forget {σ : Type} (held : Cache × σ) : Cache × σ := (empty, held.2)

theorem find?_empty (key : Key) : empty.find? key = none := by
  cases key <;> rfl

theorem lookup_later {α : Type} {name other : String} (value : α) (rest : List (String × α))
    (different : other ≠ name) : ((name, value) :: rest).lookup other = rest.lookup other := by
  have unequal : (other == name) = false := by simpa using different
  rw [List.lookup_cons, unequal]

theorem find?_fill_self (cache : Cache) (key : Key) (answer : Shared key.Answer) :
    (cache.fill key answer).find? key = some answer := by
  cases key with
  | groups => rfl
  | resources apiVersion => exact List.lookup_cons_self
  | version => rfl
  | declaration apiVersion => exact List.lookup_cons_self
  | schema => rfl

theorem find?_fill_of_ne (cache : Cache) {key other : Key} (answer : Shared key.Answer)
    (different : other ≠ key) : (cache.fill key answer).find? other = cache.find? other := by
  cases key <;> cases other
  case resources.resources =>
    exact lookup_later answer cache.resources fun same => different (same ▸ rfl)
  case declaration.declaration =>
    exact lookup_later answer cache.declarations fun same => different (same ▸ rfl)
  all_goals first | rfl | exact absurd rfl different

end Cache

def Provider.cached {σ : Type} (provider : Provider σ) : Provider (Cache × σ) where
  ask query := fun (cache, state) =>
    match cache.find? query.key with
    | some answer => (.ok answer, (cache, state))
    | none =>
        match provider.ask query state with
        | (.ok answer, state) => (.ok answer, (cache.fill query.key answer, state))
        | (.error failure, state) => (.error failure, (cache, state))

namespace Provider

variable {σ : Type} (provider : Provider σ) {query : Query} {cache : Cache}

theorem cached_ask_of_held {answer : Shared query.Answer} (held : cache.find? query.key = some answer)
    (state : σ) : provider.cached.ask query (cache, state) = (.ok answer, (cache, state)) := by
  simp [cached, held]

theorem cached_ask_of_answered (missing : cache.find? query.key = none) {state later : σ}
    {answer : Shared query.Answer} (answered : provider.ask query state = (.ok answer, later)) :
    provider.cached.ask query (cache, state) = (.ok answer, (cache.fill query.key answer, later)) := by
  simp [cached, missing, answered]

theorem cached_ask_of_failed (missing : cache.find? query.key = none) {state later : σ}
    {failure : Failure} (failed : provider.ask query state = (.error failure, later)) :
    provider.cached.ask query (cache, state) = (.error failure, (cache, later)) := by
  simp [cached, missing, failed]

end Provider

/-- The state of a provider below a number of caches, outermost cache first. -/
def Stack (σ : Type) : Nat → Type
  | 0 => σ
  | height + 1 => Cache × Stack σ height

namespace Stack

variable {σ : Type}

def provider (base : Provider σ) : (height : Nat) → Provider (Stack σ height)
  | 0 => base
  | height + 1 => (provider base height).cached

def build (state : σ) : (height : Nat) → Stack σ height
  | 0 => state
  | height + 1 => (Cache.empty, build state height)

def base : (height : Nat) → Stack σ height → σ
  | 0, state => state
  | height + 1, stack => base height stack.2

def replaceBase : (height : Nat) → Stack σ height → σ → Stack σ height
  | 0, _, state => state
  | height + 1, stack, state => (stack.1, replaceBase height stack.2 state)

end Stack

end ApiDiscovery
