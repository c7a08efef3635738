import ApiDiscovery.Discovery

/-!
Listings of all resources of a server. A pass asks for the groups and then for the resources under every
version they declare, in order. While the preferred listing goes on, winners and lists stand at fixed
places, and seats and group versions are looked up for theirs.
-/

namespace ApiDiscovery

structure Ballot where
  lists : Array ResourceList := #[]
  listPlaces : List (GroupVersion × Nat) := []
  winners : Array (GroupVersion × ListedResource) := #[]
  winnerPlaces : List (GroupResource × Nat) := []
  deriving Inhabited

namespace Ballot

def openList (ballot : Ballot) (home : GroupVersion) (label : String) : Ballot :=
  match ballot.listPlaces.lookup home with
  | some _ => ballot
  | none =>
      { ballot with
        lists := ballot.lists.push { groupVersion := label }
        listPlaces := (home, ballot.lists.size) :: ballot.listPlaces }

/-- Lets a resource stand for the seat of its name in its group. A free seat is taken; a seat that is
taken passes on only to a resource under the preferred version. -/
def enter (home : GroupVersion) (preferred : Bool) (ballot : Ballot) (listed : ListedResource) : Ballot :=
  let seat : GroupResource := { group := home.group, resource := listed.name }
  match ballot.winnerPlaces.lookup seat with
  | some place =>
      if preferred then
        { ballot with winners := ballot.winners.setIfInBounds place (home, listed) }
      else ballot
  | none =>
      { ballot with
        winners := ballot.winners.push (home, listed)
        winnerPlaces := (seat, ballot.winners.size) :: ballot.winnerPlaces }

def count (ballot : Ballot) (group : Group) (served : ServedVersion) (found : ResourceList) : Ballot :=
  let home : GroupVersion := { group := group.name, version := served.version }
  let preferred := group.preferred.map ServedVersion.version == some served.version
  let standing := found.resources.filter fun listed => !namesSubresource listed.name
  standing.foldl (enter home preferred) (ballot.openList home served.groupVersion)

def settle (ballot : Ballot) (lists : Array ResourceList) (winner : GroupVersion × ListedResource) :
    Array ResourceList :=
  match ballot.listPlaces.lookup winner.1 with
  | some place =>
      lists.modify place fun list => { list with resources := list.resources ++ [winner.2] }
  | none => lists

def result (ballot : Ballot) : List ResourceList :=
  (ballot.winners.foldl ballot.settle ballot.lists).toList

end Ballot

def namespacedOnly (lists : List ResourceList) : List ResourceList :=
  lists.map (ResourceList.filter fun _ listed => listed.namespaced)

namespace Provider

variable {σ : Type}

def allResources (provider : Provider σ) : Exchange σ (List (Shared ResourceList)) := do
  let groups ← provider.groups
  let mut lists := #[]
  for group in groups.value.groups do
    for served in group.versions do
      let found ← provider.resources served.groupVersion
      lists := lists.push found
  return lists.toList

def preferredResources (provider : Provider σ) : Exchange σ (List ResourceList) := do
  let groups ← provider.groups
  let mut ballot : Ballot := {}
  for group in groups.value.groups do
    for served in group.versions do
      let found ← provider.resources served.groupVersion
      ballot := ballot.count group served found.value
  return ballot.result

def preferredNamespacedResources (provider : Provider σ) : Exchange σ (List ResourceList) :=
  namespacedOnly <$> provider.preferredResources

end Provider

end ApiDiscovery
