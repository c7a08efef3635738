import ApiDiscovery.Client

/-!
The questions of discovery and who answers them. Every answer that a provider hands out is shared: its
label tells answers apart, and handing out an answer again keeps the label.
-/

namespace ApiDiscovery

inductive Key where
  | groups
  | resources (apiVersion : String)
  | version
  | declaration (apiVersion : String)
  | schema
  deriving DecidableEq, Repr

def Key.Answer : Key → Type
  | .groups => GroupList
  | .resources _ => ResourceList
  | .version => BuildInfo
  | .declaration _ => SwaggerDeclaration
  | .schema => OpenApiDocument

inductive Query where
  | groups
  | resources (apiVersion : String)
  | version
  | declaration (groupVersion : GroupVersion)
  | schema
  deriving DecidableEq, Repr

namespace Query

def key : Query → Key
  | .groups => .groups
  | .resources apiVersion => .resources apiVersion
  | .version => .version
  | .declaration groupVersion => .declaration groupVersion.apiVersion
  | .schema => .schema

abbrev Answer (query : Query) : Type := query.key.Answer

end Query

/-- An answer that is handed out, with a label that no other answer has. -/
structure Shared (α : Type) where
  label : Nat
  value : α
  deriving DecidableEq

structure Provider (σ : Type) where
  ask : (query : Query) → Exchange σ (Shared query.Answer)

namespace Provider

variable {σ : Type}

def groups (provider : Provider σ) : Exchange σ (Shared GroupList) := provider.ask .groups

def resources (provider : Provider σ) (apiVersion : String) : Exchange σ (Shared ResourceList) :=
  provider.ask (.resources apiVersion)

end Provider

structure Origin (σ : Type) where
  answer : (query : Query) → Exchange σ query.Answer

structure Labelled (σ : Type) where
  state : σ
  next : Nat

def Origin.provider {σ : Type} (origin : Origin σ) : Provider (Labelled σ) where
  ask query := fun labelled =>
    match origin.answer query labelled.state with
    | (.ok value, state) =>
        (.ok { label := labelled.next, value }, { state, next := labelled.next + 1 })
    | (.error failure, state) => (.error failure, { labelled with state })

theorem Origin.provider_ask_ok {σ : Type} {origin : Origin σ} {query : Query} {labelled : Labelled σ}
    {value : query.Answer} {later : σ} (answered : origin.answer query labelled.state = (.ok value, later)) :
    origin.provider.ask query labelled =
      (.ok { label := labelled.next, value }, { state := later, next := labelled.next + 1 }) := by
  simp only [provider, answered]

def Client.origin {σ : Type} (client : Client σ) : Origin σ where
  answer
    | .groups => client.groups
    | .resources apiVersion => client.resources apiVersion
    | .version => client.buildInfo
    | .declaration groupVersion => client.declaration groupVersion
    | .schema => client.schemaDocument

end ApiDiscovery
