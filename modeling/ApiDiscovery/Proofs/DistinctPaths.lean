import ApiDiscovery.Handle
import ApiDiscovery.Proofs.WrittenVersion

/-!
What paths lead to. A path is a row of segments, which can be told apart by the slashes in front of them; the
number of segments and the first one say whether a group is named, whether a namespace is, and whether the
path goes on to an object.
-/

namespace ApiDiscovery

def pathOf (segments : List String) : List Char := segments.flatMap fun segment => '/' :: segment.toList

def Unsplit (segments : List String) : Prop := ∀ segment ∈ segments, '/' ∉ segment.toList

theorem pathOf_cons (segment : String) (rest : List String) :
    pathOf (segment :: rest) = '/' :: (segment.toList ++ pathOf rest) := rfl

theorem pathOf_append (front back : List String) : pathOf (front ++ back) = pathOf front ++ pathOf back :=
  List.flatMap_append

theorem takeWhile_segment {segment : String} (whole : '/' ∉ segment.toList) (rest : List String) :
    (segment.toList ++ pathOf rest).takeWhile (!isSlash ·) = segment.toList := by
  cases rest with
  | nil => simpa [pathOf] using not_isSlash_of_mem whole
  | cons next rest => exact takeWhile_slash whole _

theorem pathOf_inj {left right : List String} (leftUnsplit : Unsplit left) (rightUnsplit : Unsplit right)
    (same : pathOf left = pathOf right) : left = right := by
  induction left generalizing right with
  | nil =>
      cases right with
      | nil => rfl
      | cons segment rest => cases same
  | cons segment rest ih =>
      cases right with
      | nil => cases same
      | cons other others =>
          rw [pathOf_cons, pathOf_cons, List.cons.injEq] at same
          obtain ⟨-, tails⟩ := same
          have heads := congrArg (List.takeWhile (!isSlash ·)) tails
          rw [takeWhile_segment (leftUnsplit _ List.mem_cons_self),
            takeWhile_segment (rightUnsplit _ List.mem_cons_self), String.toList_inj] at heads
          subst heads
          have restUnsplit : Unsplit rest := fun _ member => leftUnsplit _ (List.mem_cons_of_mem _ member)
          have othersUnsplit : Unsplit others := fun _ member =>
            rightUnsplit _ (List.mem_cons_of_mem _ member)
          rw [ih restUnsplit othersUnsplit (List.append_cancel_left tails)]

@[ext]
structure Destination where
  group : String
  version : String
  scope : Option String
  plural : String
  object : Option String
  deriving DecidableEq, Repr

namespace Destination

def root (destination : Destination) : List String :=
  if destination.group = "" then ["api", destination.version]
  else ["apis", destination.group, destination.version]

def tail (destination : Destination) : List String :=
  (destination.scope.elim [] fun name => ["namespaces", name]) ++ destination.plural :: destination.object.toList

def segments (destination : Destination) : List String := destination.root ++ destination.tail

variable {left right : Destination}

theorem root_inj {front back : List String} (same : left.root ++ front = right.root ++ back) :
    left.group = right.group ∧ left.version = right.version ∧ front = back := by
  unfold root at same
  by_cases core : left.group = "" <;> by_cases otherCore : right.group = ""
  · simpa [core, otherCore] using same
  · simp [core, otherCore] at same
  · simp [core, otherCore] at same
  · simpa [core, otherCore] using same

theorem tail_inj (same : left.tail = right.tail) :
    left.scope = right.scope ∧ left.plural = right.plural ∧ left.object = right.object := by
  unfold tail at same
  cases scope : left.scope <;> cases otherScope : right.scope <;> cases object : left.object <;>
    cases otherObject : right.object <;>
    simp_all

theorem eq_of_segments_eq (same : left.segments = right.segments) : left = right := by
  obtain ⟨group, version, tails⟩ := root_inj same
  obtain ⟨scope, plural, object⟩ := tail_inj tails
  exact Destination.ext group version scope plural object

end Destination

namespace Resource

/-- How resources come about: with the kind that they serve, or from an entry of a list. -/
inductive Derived : Resource → Prop where
  | ofKind (kind : GroupVersionKind) (plural : String) (namespaced : Bool) :
      Derived (Resource.ofKind kind plural namespaced)
  | ofListed {listed : ListedResource} {text : String} {resource : Resource} :
      Resource.ofListed listed text = .ok resource → Derived resource

theorem Derived.apiVersion_eq {resource : Resource} (derived : Derived resource) :
    resource.apiVersion = GroupVersion.apiVersion { group := resource.group, version := resource.version } := by
  cases derived with
  | ofKind => rfl
  | ofListed made =>
      obtain ⟨underlying, _, same⟩ := Except.bind_eq_ok.mp made
      cases same
      rfl

end Resource

namespace Handle

def pathTo (handle : Handle) : Option String → String
  | none => handle.collectionPath
  | some name => handle.objectPath name

def destination (handle : Handle) (object : Option String) : Destination :=
  { group := handle.resource.group
    version := handle.resource.version
    scope := handle.resource.effectiveNamespace handle.namespace
    plural := handle.resource.plural
    object }

/-- Whether everything that a handle puts into paths is one segment. -/
structure Segmented (handle : Handle) : Prop where
  derived : handle.resource.Derived
  group : '/' ∉ handle.resource.group.toList
  version : '/' ∉ handle.resource.version.toList
  plural : '/' ∉ handle.resource.plural.toList
  scope : ∀ name ∈ handle.namespace, '/' ∉ name.toList

theorem pathOf_root {handle : Handle} (derived : handle.resource.Derived) (object : Option String) :
    pathOf (handle.destination object).root =
      ("/" ++ (if handle.resource.group = "" then "api" else "apis") ++ "/" ++
        handle.resource.apiVersion).toList := by
  rw [derived.apiVersion_eq]
  by_cases core : handle.resource.group = ""
  · simp [pathOf, Destination.root, destination, core, GroupVersion.apiVersion_core]
  · simp [pathOf, Destination.root, destination, core, GroupVersion.apiVersion_named core]

theorem toList_pathTo {handle : Handle} (derived : handle.resource.Derived) (object : Option String) :
    (handle.pathTo object).toList = pathOf (handle.destination object).segments := by
  rw [Destination.segments, pathOf_append, pathOf_root derived]
  cases object <;> cases effective : handle.resource.effectiveNamespace handle.namespace <;>
    simp [pathTo, objectPath, collectionPath, Resource.objectPath, Resource.collectionPath, effective,
      destination, Destination.tail, pathOf]

theorem Segmented.unsplit {handle : Handle} (segmented : handle.Segmented) {object : Option String}
    (named : ∀ name ∈ object, '/' ∉ name.toList) : Unsplit (handle.destination object).segments := by
  have root : Unsplit (handle.destination object).root := by
    unfold Destination.root
    split <;> simp [Unsplit, destination, segmented.group, segmented.version]
  have tail : Unsplit (handle.destination object).tail := by
    intro segment member
    simp only [Destination.tail, destination, List.mem_append, List.mem_cons, Option.mem_toList] at member
    rcases member with scope | rfl | object
    · cases effective : handle.resource.effectiveNamespace handle.namespace with
      | none => simp [effective] at scope
      | some name =>
          have selected := (Resource.effectiveNamespace_eq_some.mp effective).2.1
          simp only [effective, Option.elim_some, List.mem_cons, List.not_mem_nil, or_false] at scope
          rcases scope with rfl | rfl
          · decide
          · exact segmented.scope _ selected
    · exact segmented.plural
    · exact named _ object
  intro segment member
  exact (List.mem_append.mp member).elim (root segment) (tail segment)

/-- Two paths are the same only if they lead to the same collection or object, in the same effective
namespace. -/
theorem paths_tell_destinations_apart :
    (∀ (handle : Handle) (object : Option String) (name : String),
      (handle.destination object).scope = some name ↔
        handle.resource.namespaced = true ∧ handle.namespace = some name ∧ name ≠ "") ∧
    ∀ left right : Handle, left.Segmented → right.Segmented → ∀ object other : Option String,
      (∀ name ∈ object, '/' ∉ name.toList) → (∀ name ∈ other, '/' ∉ name.toList) →
      (left.pathTo object = right.pathTo other ↔ left.destination object = right.destination other) := by
  refine ⟨fun _ _ _ => Resource.effectiveNamespace_eq_some, ?_⟩
  intro left right leftSegmented rightSegmented object other named otherNamed
  rw [← String.toList_inj, toList_pathTo leftSegmented.derived, toList_pathTo rightSegmented.derived]
  constructor
  · intro same
    exact Destination.eq_of_segments_eq
      (pathOf_inj (leftSegmented.unsplit named) (rightSegmented.unsplit otherNamed) same)
  · intro same
    rw [same]

theorem namespace_apart_from_its_pods :
    let namespaces := all (.ofKind { group := "", version := "v1", kind := "Namespace" } "namespaces" false)
    let pods := inNamespace (.ofKind { group := "", version := "v1", kind := "Pod" } "pods" true) "prod"
    namespaces.Segmented ∧ pods.Segmented ∧ namespaces.pathTo (some "prod") = "/api/v1/namespaces/prod" ∧
      pods.pathTo none = "/api/v1/namespaces/prod/pods" ∧
      namespaces.pathTo (some "prod") ≠ pods.pathTo none := by
  intro namespaces pods
  have namespacesSegmented : namespaces.Segmented :=
    { derived := .ofKind _ _ _, group := by decide, version := by decide, plural := by decide
      scope := by simp [namespaces, all] }
  have podsSegmented : pods.Segmented :=
    { derived := .ofKind _ _ _, group := by decide, version := by decide, plural := by decide
      scope := by simp [pods, inNamespace] }
  have apart := (paths_tell_destinations_apart.2 namespaces pods namespacesSegmented podsSegmented
    (some "prod") none (by simp) (by simp)).not.mpr (by decide)
  exact ⟨namespacesSegmented, podsSegmented, rfl, rfl, apart⟩

end Handle

end ApiDiscovery
