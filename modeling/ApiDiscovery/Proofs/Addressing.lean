import ApiDiscovery.Proofs.AddressText
import ApiDiscovery.Proofs.Requests
import ApiDiscovery.Proofs.WrittenVersion
import ApiDiscovery.Simulation.Server

/-!
What the requests of a handle are addressed to. The address of an object is put together as a text and
read again; it comes out as it was meant as long as no part of it begins a query or a fragment.
-/

namespace ApiDiscovery

def Unbroken (text : String) : Prop := ∀ character ∈ text.toList, Target.endsPath character = false

instance (text : String) : Decidable (Unbroken text) :=
  decidable_of_iff (text.toList.all fun character => !Target.endsPath character) (by simp [Unbroken])

theorem unbroken_slash : Unbroken "/" := by decide

theorem unbroken_append {left right : String} :
    Unbroken (left ++ right) ↔ Unbroken left ∧ Unbroken right := by
  simp [Unbroken, String.toList_append, or_imp, forall_and]

def Plain (text : String) : Prop := ∀ character ∈ text.toList, Target.isPathCharacter character = true

instance (text : String) : Decidable (Plain text) :=
  decidable_of_iff (text.toList.all Target.isPathCharacter) (by simp [Plain])

theorem plain_append {left right : String} : Plain (left ++ right) ↔ Plain left ∧ Plain right := by
  simp [Plain, String.toList_append, or_imp, forall_and]

namespace Target

theorem parse_path {characters : List Char} {target : Target} (read : parse characters = .ok target) :
    target.path = String.ofList (characters.takeWhile (!endsPath ·)) := by
  rw [← (readFrom_of_parse read).path, String.ofList_toList]

theorem parse_query {characters : List Char} {target : Target} (read : parse characters = .ok target)
    (unbroken : ∀ character ∈ characters, endsPath character = false) : target.query = none := by
  refine (readFrom_of_parse read).unqueried (List.dropWhile_eq_nil_iff.mpr ?_)
  intro character member
  rw [unbroken character member]
  rfl

theorem parse_of_plain {text : String} {rest : List Char} (rooted : text.toList = '/' :: rest)
    (plain : Plain text) (short : Text.byteLength text.toList ≤ Uri.maximalLength) :
    parse text.toList = .ok { path := text, query := none } := by
  have sound : Sound { path := text, query := none } := { path := plain, query := by rintro _ ⟨⟩ }
  have read := parse_text sound rooted short
  exact read

end Target

theorem Uri.parse_of_plain {text : String} {rest : List Char} (rooted : text.toList = '/' :: rest)
    (plain : Plain text) (short : Text.byteLength text.toList ≤ Uri.maximalLength) :
    Uri.parse text = .ok (.path { path := text, query := none }) := by
  have read := Target.parse_of_plain rooted plain short
  unfold Uri.parse
  simp only [Nat.not_lt.mpr short, ↓reduceIte, read]
  rw [rooted]
  rfl

theorem Uri.parse_eq_ok {text : String} {uri : Uri} {rest : List Char} (rooted : text.toList = '/' :: rest)
    (read : Uri.parse text = .ok uri) : ∃ target, Target.parse text.toList = .ok target ∧ uri = .path target := by
  unfold Uri.parse at read
  simp only [rooted] at read ⊢
  split at read
  · cases read
  · cases parsed : Target.parse ('/' :: rest) with
    | error error =>
        rw [parsed] at read
        cases read
    | ok target =>
        rw [parsed] at read
        cases read
        exact ⟨target, rfl, rfl⟩

theorem Uri.path_of_parse {text : String} {uri : Uri} {rest : List Char}
    (rooted : text.toList = '/' :: rest) (read : Uri.parse text = .ok uri) :
    uri.printedPath = String.ofList (text.toList.takeWhile (!Target.endsPath ·)) ∧
      (uri = .path { path := text, query := none } ↔ Unbroken text) := by
  obtain ⟨target, parsed, rfl⟩ := Uri.parse_eq_ok rooted read
  have path := Target.parse_path parsed
  have filled : target.path ≠ "" := by
    rw [path, rooted, List.takeWhile_cons_of_pos (by decide)]
    simp
  constructor
  · show target.printedPath = _
    rw [Target.printedPath, if_neg filled, path]
  · constructor
    · intro whole
      cases whole
      have taken : text.toList.takeWhile (!Target.endsPath ·) = text.toList := by
        have written := congrArg String.toList path
        rw [String.toList_ofList] at written
        exact written.symm
      intro character member
      simpa using List.takeWhile_eq_self_iff.mp taken character member
    · intro unbroken
      have taken : text.toList.takeWhile (!Target.endsPath ·) = text.toList := by
        rw [List.takeWhile_eq_self_iff]
        intro character member
        rw [unbroken character member]
        rfl
      have query := Target.parse_query parsed unbroken
      rw [taken, String.ofList_toList] at path
      obtain ⟨ownPath, ownQuery⟩ := target
      cases path
      cases query
      rfl

namespace Resource

def root (resource : Resource) : String :=
  (if resource.group = "" then "/api/" else "/apis/") ++ resource.apiVersion ++ "/"

theorem collectionPath_within {resource : Resource} {selected : Option String} {name : String}
    (effective : resource.effectiveNamespace selected = some name) :
    resource.collectionPath selected = resource.root ++ ("namespaces/" ++ name ++ "/" ++ resource.plural) := by
  simp only [collectionPath, effective, root]
  split <;> simp [String.append_assoc]

theorem collectionPath_everywhere {resource : Resource} {selected : Option String}
    (effective : resource.effectiveNamespace selected = none) :
    resource.collectionPath selected = resource.root ++ resource.plural := by
  simp only [collectionPath, effective, root]
  split <;> simp [String.append_assoc]

theorem rooted (resource : Resource) : ∃ rest, resource.root.toList = '/' :: rest := by
  unfold root
  split <;> exact ⟨_, by simp [String.toList_append]; rfl⟩

theorem unbroken_root {resource : Resource} (plain : Unbroken resource.apiVersion) :
    Unbroken resource.root := by
  have front : Unbroken (if resource.group = "" then "/api/" else "/apis/") := by
    split <;> decide
  exact unbroken_append.mpr ⟨unbroken_append.mpr ⟨front, plain⟩, unbroken_slash⟩

theorem unbroken_collectionPath {resource : Resource} (version : Unbroken resource.apiVersion)
    (plural : Unbroken resource.plural) {selected : Option String} :
    Unbroken (resource.collectionPath selected) ↔
      ∀ name, resource.effectiveNamespace selected = some name → Unbroken name := by
  have root := unbroken_root version
  cases effective : resource.effectiveNamespace selected with
  | none =>
      rw [collectionPath_everywhere effective, unbroken_append]
      simp [root, plural]
  | some name =>
      have front : Unbroken "namespaces/" := by decide
      rw [collectionPath_within effective]
      simp [unbroken_append, root, plural, unbroken_slash, front]

end Resource

theorem first_segment_eq {left right xs ys : List Char} (leftWhole : '/' ∉ left) (rightWhole : '/' ∉ right)
    (same : left ++ '/' :: xs = right ++ '/' :: ys) : left = right := by
  have cuts := congrArg (List.takeWhile (!isSlash ·)) same
  rwa [takeWhile_slash leftWhole, takeWhile_slash rightWhole] at cuts

theorem last_segment_eq {left right xs ys : List Char} (leftWhole : '/' ∉ left) (rightWhole : '/' ∉ right)
    (same : xs ++ '/' :: left = ys ++ '/' :: right) : left = right := by
  have reversed := congrArg List.reverse same
  rw [List.reverse_append, List.reverse_append, List.reverse_cons, List.reverse_cons,
    List.append_assoc, List.append_assoc] at reversed
  have ends := first_segment_eq (by simpa using leftWhole) (by simpa using rightWhole) reversed
  exact List.reverse_inj.mp ends

namespace Handle

def NamesUnbroken (handle : Handle) (act : Act) : Prop :=
  (∀ name, handle.resource.effectiveNamespace handle.namespace = some name → Unbroken name) ∧
    ∀ name, act.name? = some name → Unbroken name

theorem unbroken_address {handle : Handle} (version : Unbroken handle.resource.apiVersion)
    (plural : Unbroken handle.resource.plural) (act : Act) :
    Unbroken (handle.address act) ↔ handle.NamesUnbroken act := by
  have collection :
      Unbroken (handle.resource.collectionPath handle.namespace) ↔
        ∀ name, handle.resource.effectiveNamespace handle.namespace = some name → Unbroken name :=
    Resource.unbroken_collectionPath version plural
  unfold NamesUnbroken address
  cases act.name? with
  | none => simp [collection]
  | some name =>
      simp [unbroken_append, collection, unbroken_slash]

theorem address_rooted (handle : Handle) (act : Act) :
    ∃ rest, (handle.address act).toList = '/' :: rest := by
  have collection : ∃ rest, (handle.resource.collectionPath handle.namespace).toList = '/' :: rest := by
    obtain ⟨rest, rooted⟩ := handle.resource.rooted
    cases effective : handle.resource.effectiveNamespace handle.namespace with
    | none =>
        rw [Resource.collectionPath_everywhere effective, String.toList_append, rooted]
        exact ⟨_, rfl⟩
    | some name =>
        rw [Resource.collectionPath_within effective, String.toList_append, rooted]
        exact ⟨_, rfl⟩
  obtain ⟨rest, rooted⟩ := collection
  unfold address
  cases act.name? with
  | none => exact ⟨rest, rooted⟩
  | some name =>
      rw [String.toList_append, String.toList_append, rooted]
      exact ⟨_, rfl⟩

theorem address_within {handle : Handle} {name : String}
    (effective : handle.resource.effectiveNamespace handle.namespace = some name) (act : Act) :
    ∃ rest, (handle.address act).toList =
      handle.resource.root.toList ++ ("namespaces/".toList ++ (name.toList ++ '/' :: rest)) := by
  have collection := Resource.collectionPath_within effective
  unfold address
  cases act.name? with
  | none => exact ⟨handle.resource.plural.toList, by simp [collection, String.toList_append]⟩
  | some object =>
      refine ⟨handle.resource.plural.toList ++ '/' :: object.toList, ?_⟩
      simp [collection, String.toList_append]

theorem address_object {handle : Handle} {act : Act} {name : String} (named : act.name? = some name) :
    ∃ front, (handle.address act).toList = front ++ '/' :: name.toList := by
  refine ⟨(handle.resource.collectionPath handle.namespace).toList, ?_⟩
  simp [address, named, String.toList_append]

theorem namespace_eq_of_address {first second : Handle} {act other : Act} {left right : String}
    (resource : first.resource = second.resource)
    (firstNamespace : first.resource.effectiveNamespace first.namespace = some left)
    (secondNamespace : second.resource.effectiveNamespace second.namespace = some right)
    (leftSegment : '/' ∉ left.toList) (rightSegment : '/' ∉ right.toList)
    (same : first.address act = second.address other) : left = right := by
  obtain ⟨rest, firstAddress⟩ := address_within firstNamespace act
  obtain ⟨others, secondAddress⟩ := address_within secondNamespace other
  rw [same, secondAddress, ← resource] at firstAddress
  have tails := List.append_cancel_left (List.append_cancel_left firstAddress)
  exact (String.toList_injective (first_segment_eq rightSegment leftSegment tails)).symm

theorem name_eq_of_address {first second : Handle} {act other : Act} {left right : String}
    (firstName : act.name? = some left) (secondName : other.name? = some right)
    (leftSegment : '/' ∉ left.toList) (rightSegment : '/' ∉ right.toList)
    (same : first.address act = second.address other) : left = right := by
  have firstObject : ∃ front, (first.address act).toList = front ++ '/' :: left.toList :=
    address_object firstName
  have secondObject : ∃ front, (second.address other).toList = front ++ '/' :: right.toList :=
    address_object secondName
  obtain ⟨front, firstAddress⟩ := firstObject
  obtain ⟨others, secondAddress⟩ := secondObject
  rw [same, secondAddress] at firstAddress
  exact (String.toList_injective (last_segment_eq rightSegment leftSegment firstAddress)).symm

theorem effectiveNamespace_of_namespaced {resource : Resource} {name : String}
    (namespaced : resource.namespaced = true) (filled : name ≠ "") :
    resource.effectiveNamespace (some name) = some name :=
  Resource.effectiveNamespace_eq_some.mpr ⟨namespaced, rfl, filled⟩

/-- At most one request is sent. Its path is the address up to a character that ends a path, so it is the
whole address, without a query, just if the names that are addressed hold no such character. Requests
that are addressed so never meet under different namespaces, or different names, of one segment. -/
theorem requests_reach_their_object {resource : Resource} (version : Unbroken resource.apiVersion)
    (plural : Unbroken resource.plural) {σ : Type} (client : Client σ) :
    (∀ (handle : Handle) (act : Act) (state : σ), handle.resource = resource →
      (handle.sent client act state).length ≤ 1 ∧
      ∀ request ∈ handle.sent client act state,
        request.uri.printedPath =
          String.ofList ((handle.address act).toList.takeWhile (!Target.endsPath ·)) ∧
        (request.uri = .path { path := handle.address act, query := none } ↔
          handle.NamesUnbroken act)) ∧
    (∀ (first second : Handle) (act other : Act) (state later : σ) (request follower : Request),
      first.resource = resource → second.resource = resource → resource.namespaced = true →
      request ∈ first.sent client act state → follower ∈ second.sent client other later →
      first.NamesUnbroken act → second.NamesUnbroken other → request.uri = follower.uri →
      (∀ left right, first.namespace = some left → second.namespace = some right →
        left ≠ "" → right ≠ "" → '/' ∉ left.toList → '/' ∉ right.toList → left = right) ∧
      (∀ left right, act.name? = some left → other.name? = some right →
        '/' ∉ left.toList → '/' ∉ right.toList → left = right)) := by
  have reach : ∀ (handle : Handle) (act : Act) (state : σ) (request : Request),
      handle.resource = resource → request ∈ handle.sent client act state →
      request.uri.printedPath =
          String.ofList ((handle.address act).toList.takeWhile (!Target.endsPath ·)) ∧
        (request.uri = .path { path := handle.address act, query := none } ↔
          handle.NamesUnbroken act) := by
    intro handle act state request own sent
    obtain ⟨rest, rooted⟩ := handle.address_rooted act
    have read := Uri.path_of_parse rooted (mem_sent sent)
    subst own
    rwa [unbroken_address version plural act] at read
  constructor
  · intro handle act state own
    constructor
    · rw [sent_eq]
      cases (handle.requestFor act).toOption <;> simp
    · intro request sent
      exact reach handle act state request own sent
  · intro first second act other state later request follower own ownSecond namespaced sent followed
      unbroken unbrokenSecond sameUri
    have firstUri := (reach first act state request own sent).2.mpr unbroken
    have secondUri := (reach second other later follower ownSecond followed).2.mpr unbrokenSecond
    have same : first.address act = second.address other := by
      rw [firstUri, secondUri] at sameUri
      simpa using sameUri
    constructor
    · intro left right firstNamespace secondNamespace leftFilled rightFilled leftSegment rightSegment
      have effective : first.resource.effectiveNamespace first.namespace = some left := by
        rw [own, firstNamespace]
        exact effectiveNamespace_of_namespaced namespaced leftFilled
      have effectiveSecond : second.resource.effectiveNamespace second.namespace = some right := by
        rw [ownSecond, secondNamespace]
        exact effectiveNamespace_of_namespaced namespaced rightFilled
      exact namespace_eq_of_address (own.trans ownSecond.symm) effective effectiveSecond leftSegment
        rightSegment same
    · intro left right firstName secondName leftSegment rightSegment
      exact name_eq_of_address firstName secondName leftSegment rightSegment same

def prodPods : Handle :=
  inNamespace (Resource.ofKind { group := "", version := "v1", kind := "Pod" } "pods" true) "prod"

def scriptedClient : Client Server := { service := Server.service, defaultNamespace := "default" }

theorem prodPods_reach_own :
    ∃ request follower, prodPods.sent scriptedClient (.delete "web") {} = [request] ∧
      prodPods.sent scriptedClient (.delete "db") {} = [follower] ∧
      request.uri = .path { path := "/api/v1/namespaces/prod/pods/web", query := none } ∧
      request.uri ≠ follower.uri := by
  let deleting (path : String) : Request :=
    { method := "DELETE", uri := .path { path, query := none }, headers := [Request.acceptJson], body := [] }
  have web : prodPods.sent scriptedClient (.delete "web") {} =
      [deleting "/api/v1/namespaces/prod/pods/web"] := by
    decide +kernel
  have db : prodPods.sent scriptedClient (.delete "db") {} =
      [deleting "/api/v1/namespaces/prod/pods/db"] := by
    decide +kernel
  have version : Unbroken prodPods.resource.apiVersion := by decide
  have plural : Unbroken prodPods.resource.plural := by decide
  have prod : Unbroken "prod" := by decide
  have unbroken : ∀ name, Unbroken name → prodPods.NamesUnbroken (.delete name) := by
    intro name whole
    constructor
    · rintro _ ⟨⟩
      exact prod
    · rintro _ ⟨⟩
      exact whole
  have webUnbroken := unbroken "web" (by decide)
  have dbUnbroken := unbroken "db" (by decide)
  have webSent := web ▸ List.mem_cons_self
  have dbSent := db ▸ List.mem_cons_self
  obtain ⟨reach, apart⟩ := requests_reach_their_object version plural scriptedClient
  refine ⟨_, _, web, db, ((reach prodPods _ {} rfl).2 _ webSent).2.mpr webUnbroken, ?_⟩
  intro sameUri
  have sameName := (apart prodPods prodPods _ _ {} {} _ _ rfl rfl rfl webSent dbSent webUnbroken dbUnbroken
    sameUri).2 "web" "db" rfl rfl (by decide) (by decide)
  exact absurd sameName (by decide)

/-- A name with a question mark reaches the object before it, and names that differ after a hash reach
the same object. -/
theorem prodPods_broken_names :
    (∃ request, prodPods.sent scriptedClient (.delete "web?dryRun=All") {} = [request] ∧
      request.uri = .path { path := "/api/v1/namespaces/prod/pods/web", query := some "dryRun=All" } ∧
      request.uri.printedPath ≠ prodPods.address (.delete "web?dryRun=All")) ∧
    ∃ request, prodPods.sent scriptedClient (.delete "web#a") {} = [request] ∧
      prodPods.sent scriptedClient (.delete "web#b") {} = [request] := by
  let deleting (query : Option String) : Request :=
    { method := "DELETE"
      uri := .path { path := "/api/v1/namespaces/prod/pods/web", query }
      headers := [Request.acceptJson]
      body := [] }
  constructor
  · exact ⟨deleting (some "dryRun=All"), by decide +kernel, rfl, by decide +kernel⟩
  · exact ⟨deleting none, by decide +kernel, by decide +kernel⟩

end Handle

end ApiDiscovery
