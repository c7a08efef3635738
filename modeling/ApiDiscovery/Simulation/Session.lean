import ApiDiscovery.Cache
import ApiDiscovery.Handle
import ApiDiscovery.Preference
import ApiDiscovery.Simulation.Catalogue
import ApiDiscovery.Simulation.Server

/-!
A session with one client and one provider, which may stand behind caches. Its operations go on from the
state that the last one left, also after a failure.
-/

namespace ApiDiscovery

structure World where
  server : Server := {}
  catalogue : Catalogue := {}
  deriving Inhabited

inductive Wrapping where
  | bare
  | cached
  | sharedCache
  | nested
  deriving DecidableEq, Repr

def Wrapping.height : Wrapping → Nat
  | .bare => 0
  | .cached | .sharedCache => 1
  | .nested => 2

inductive Layer where
  | outer
  | inner
  deriving DecidableEq, Repr

structure Session where
  client : Client Server
  fromCatalogue : Bool
  wrapping : Wrapping
  stack : Stack (Labelled World) wrapping.height

namespace Session

variable {α : Type}

def onServer (exchange : Exchange Server α) : Exchange World α :=
  exchange.within World.server fun world server => { world with server }

def origin (session : Session) : Origin World where
  answer query :=
    if session.fromCatalogue then
      (Catalogue.origin.answer query).within World.catalogue fun world catalogue =>
        { world with catalogue }
    else onServer (session.client.origin.answer query)

def start (client : Client Server) (fromCatalogue : Bool) (wrapping : Wrapping) (world : World) :
    Session :=
  { client, fromCatalogue, wrapping
    stack := Stack.build { state := world, next := 0 } wrapping.height }

def world (session : Session) : World := (Stack.base session.wrapping.height session.stack).state

def withWorld (session : Session) (world : World) : Session :=
  { session with
    stack := Stack.replaceBase session.wrapping.height session.stack
      { Stack.base session.wrapping.height session.stack with state := world } }

def onLayer {σ : Type} (base : Provider σ) (layer : Layer)
    (compute : (τ : Type) → Provider τ → Exchange τ α) :
    (height : Nat) → Exchange (Stack σ height) α
  | 0 => compute σ base
  | height + 1 =>
      match layer with
      | .outer => compute _ (Stack.provider base (height + 1))
      | .inner => fun stack =>
          let (outcome, below) := compute _ (Stack.provider base height) stack.2
          (outcome, (stack.1, below))

def discover (session : Session) (layer : Layer)
    (compute : (τ : Type) → Provider τ → Exchange τ α) : Except Failure α × Session :=
  let (outcome, stack) :=
    onLayer session.origin.provider layer compute session.wrapping.height session.stack
  (outcome, { session with stack })

def request (session : Session) (exchange : Exchange Server α) : Except Failure α × Session :=
  let (outcome, world) := onServer exchange session.world
  (outcome, session.withWorld world)

def forgetStack {σ : Type} (layer : Layer) :
    (height : Nat) → Stack σ height → Option (Stack σ height)
  | 0, _ => none
  | height + 1, stack =>
      match layer, height, stack with
      | .outer, _, stack => some (Cache.forget stack)
      | .inner, 0, _ => none
      | .inner, _ + 1, (outermost, inner) => some (outermost, Cache.forget inner)

def forget? (session : Session) (layer : Layer) : Option Session :=
  (forgetStack layer session.wrapping.height session.stack).map fun stack => { session with stack }

def isFresh? (session : Session) (layer : Layer) : Option Bool :=
  (session.forget? layer).map fun _ => true

def unwrap : Session → Session
  | { client, fromCatalogue, wrapping := .cached, stack } =>
      { client, fromCatalogue, wrapping := .bare, stack := stack.2 }
  | { client, fromCatalogue, wrapping := .nested, stack } =>
      { client, fromCatalogue, wrapping := .sharedCache, stack := stack.2 }
  | session => session

def setRoute (session : Session) (route : String) (replies : List Reply) : Session :=
  let world := session.world
  session.withWorld { world with server := world.server.setRoute route replies }

end Session

end ApiDiscovery
