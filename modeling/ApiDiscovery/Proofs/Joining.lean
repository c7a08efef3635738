import ApiDiscovery.Cluster
import ApiDiscovery.Proofs.AddressText
import Mathlib.Data.List.DropRight

/-!
Requests behind a base address. The joined text of a base with a place for paths and of a request reads back
as the path of the one in front of the path of the other; a base without such a place takes every request to
itself.
-/

namespace ApiDiscovery

namespace Uri

theorem trimSlashes_eq (path : List Char) : trimSlashes path = path.rdropWhile (· == '/') := rfl

theorem trimSlashes_prefix (path : List Char) : trimSlashes path <+: path :=
  List.rdropWhile_prefix _ path

theorem trimSlashes_append (path : List Char) :
    ∃ slashes, path = trimSlashes path ++ List.replicate slashes '/' := by
  have only : ∀ character ∈ path.rtakeWhile (· == '/'), character = '/' := by
    intro character member
    simpa using List.mem_rtakeWhile_imp member
  refine ⟨(path.rtakeWhile (· == '/')).length, ?_⟩
  rw [← List.eq_replicate_of_mem only, trimSlashes_eq, List.rdropWhile_append_rtakeWhile]

theorem getLast?_trimSlashes (path : List Char) : (trimSlashes path).getLast? ≠ some '/' := by
  rw [trimSlashes_eq]
  by_cases empty : path.rdropWhile (· == '/') = []
  · simp [empty]
  · rw [List.getLast?_eq_some_getLast empty, Ne, Option.some.injEq]
    intro slash
    exact List.rdropWhile_last_not _ _ empty (beq_iff_eq.mpr slash)

end Uri

namespace Target

def behind (base request : Target) : Target :=
  { path := String.ofList (Uri.trimSlashes base.printedPath.toList) ++ request.printedPath
    query := request.query }

variable {base request : Target}

theorem toList_path_behind : (base.behind request).path.toList =
    Uri.trimSlashes base.printedPath.toList ++ request.printedPath.toList := by
  simp [behind]

theorem joined_eq_text : Uri.joined (some base) (some request) = (base.behind request).text.toList := by
  have printed : request.print.toList =
      request.printedPath.toList ++ request.query.elim [] fun query => '?' :: query.toList := by
    unfold print
    cases request.query <;> simp
  rw [toList_text, toList_path_behind, List.append_assoc]
  exact congrArg (Uri.trimSlashes base.printedPath.toList ++ ·) printed

theorem isPathCharacter_of_mem_printedPath (sound : base.Sound) :
    ∀ character ∈ base.printedPath.toList, isPathCharacter character = true := by
  unfold printedPath
  split
  · intro character member
    obtain rfl : character = '/' := by simpa using member
    rfl
  · exact sound.path

theorem sound_behind (baseSound : base.Sound) (requestSound : request.Sound) :
    (base.behind request).Sound := by
  refine { path := ?_, query := requestSound.query }
  rw [toList_path_behind]
  intro character member
  rcases List.mem_append.mp member with front | back
  · exact isPathCharacter_of_mem_printedPath baseSound character ((Uri.trimSlashes_prefix _).subset front)
  · exact isPathCharacter_of_mem_printedPath requestSound character back

theorem rooted_behind (baseRooted : base.Rooted) (requestRooted : request.Rooted) :
    ∃ rest, (base.behind request).path.toList = '/' :: rest := by
  rw [toList_path_behind]
  cases trimmed : Uri.trimSlashes base.printedPath.toList with
  | nil => exact List.head?_eq_some_iff.mp requestRooted
  | cons first front =>
      -- what is left of the path of the base begins as the whole path did
      obtain ⟨slashes, whole⟩ := trimmed ▸ Uri.trimSlashes_prefix base.printedPath.toList
      rw [Rooted, ← whole] at baseRooted
      cases baseRooted
      exact ⟨_, rfl⟩

end Target

namespace Uri

def Fits (base request : Uri) : Prop :=
  Text.byteLength (joined base.target? request.target?) ≤ maximalLength

instance (base request : Uri) : Decidable (Fits base request) :=
  inferInstanceAs (Decidable (_ ≤ _))

def SameTarget (left right : Uri) : Prop :=
  left.printedPath = right.printedPath ∧ left.query? = right.query?

instance (left right : Uri) : Decidable (SameTarget left right) :=
  inferInstanceAs (Decidable (_ ∧ _))

variable {base request : Uri}

theorem ofParts?_of_target {start : Target} (based : base.target? = some start) (target : Target) :
    ∃ uri, ofParts? base.scheme? base.authority? (some target) = some uri ∧ uri.scheme? = base.scheme? ∧
      uri.authority? = base.authority? ∧ uri.target? = some target := by
  cases base with
  | path _ => exact ⟨.path target, rfl, rfl, rfl, rfl⟩
  | absolute scheme name _ => exact ⟨.absolute scheme name target, rfl, rfl, rfl, rfl⟩
  | authority _ => cases based

/-- What a request is behind a base: the joined text was read, and the parts made an address. -/
structure Joins (base request : Uri) (forwarded : Target) : Prop where
  read : Target.parse (joined base.target? request.target?) = .ok forwarded
  assembled : ofParts? base.scheme? base.authority? (some forwarded) = some (base.behind request)
  scheme : (base.behind request).scheme? = base.scheme?
  authority : (base.behind request).authority? = base.authority?
  target : (base.behind request).target? = some forwarded

theorem joins_of_anchored {start target : Target} (based : base.target? = some start)
    (requested : request.target? = some target) (startSound : start.Sound) (startRooted : start.Rooted)
    (targetSound : target.Sound) (targetRooted : target.Rooted) (short : base.Fits request) :
    base.Joins request (start.behind target) := by
  obtain ⟨_, rooted⟩ := Target.rooted_behind startRooted targetRooted
  have read : Target.parse (joined base.target? request.target?) = .ok (start.behind target) := by
    rw [Fits, based, requested, Target.joined_eq_text] at short
    rw [based, requested, Target.joined_eq_text]
    exact Target.parse_text (Target.sound_behind startSound targetSound) rooted short
  obtain ⟨uri, assembled, scheme, authority, kept⟩ := ofParts?_of_target based (start.behind target)
  have forwarded : base.behind request = uri := by
    rw [behind, joinedTarget?, read]
    simp only [assembled, Option.getD_some]
  exact
    { read
      assembled := by rw [assembled, forwarded]
      scheme := by rw [forwarded, scheme]
      authority := by rw [forwarded, authority]
      target := by rw [forwarded, kept] }

theorem Anchored.joins (anchored : base.Anchored) (requestAnchored : request.Anchored)
    (short : base.Fits request) :
    ∃ forwarded, base.Joins request forwarded ∧
      (base.behind request).printedPath =
        String.ofList (trimSlashes base.printedPath.toList) ++ request.printedPath ∧
      (base.behind request).query? = request.query? := by
  obtain ⟨start, based, startSound, startRooted⟩ := anchored
  obtain ⟨target, requested, targetSound, targetRooted⟩ := requestAnchored
  have joins := joins_of_anchored based requested startSound startRooted targetSound targetRooted short
  obtain ⟨_, rooted⟩ := Target.rooted_behind startRooted targetRooted
  have filled : (start.behind target).path ≠ "" := by
    intro empty
    simp [empty] at rooted
  refine ⟨_, joins, ?_, ?_⟩
  · simp only [printedPath, joins.target, based, requested, Option.map_some, Option.getD_some]
    exact if_neg filled
  · simp only [query?, joins.target, requested, Option.bind_some]
    rfl

theorem behind_of_not_anchored {text : String} (read : parse text = .ok base) (bare : ¬base.Anchored)
    (requestAnchored : request.Anchored) : base.behind request = base := by
  rcases (not_anchored_iff read).mp bare with ⟨name, rfl⟩ | rfl
  · unfold behind
    cases joinedTarget? (authority name).target? request.target? <;> rfl
  · obtain ⟨target, requested, _, rooted⟩ := requestAnchored
    obtain ⟨rest, slashed⟩ := List.head?_eq_some_iff.mp rooted
    have spelled : joined star.target? request.target? = '*' :: '/' :: (rest ++
        target.query.elim [] fun query => '?' :: query.toList) := by
      rw [requested, star, target?, Target.joined_eq_text, Target.toList_text, Target.toList_path_behind,
        slashed]
      rfl
    have unread : joinedTarget? star.target? request.target? = star.target? := by
      unfold joinedTarget?
      split
      · rename_i parsed
        have begins := (Target.readFrom_of_parse parsed).begins
        rw [spelled] at begins
        cases begins
      · rfl
    rw [behind, unread]
    rfl

/-- Behind a base with a place for paths an address has the base's scheme and authority, the base's path
without the slashes at its end in front of the request's path, and the request's query. Every address that is
read with a scheme or as a path from the root has such a place. -/
theorem behind_keeps_base_and_request :
    (∀ text uri, parse text = .ok uri → uri.scheme?.isSome ∨ uri.printedPath.toList.head? = some '/' →
      uri.Anchored) ∧
    ∀ base request : Uri, base.Anchored → request.Anchored → base.Fits request →
      ∃ front slashes forwarded, base.printedPath.toList = front ++ List.replicate slashes '/' ∧
        front.getLast? ≠ some '/' ∧
        Target.parse (joined base.target? request.target?) = .ok forwarded ∧
        ofParts? base.scheme? base.authority? (some forwarded) = some (base.behind request) ∧
        (base.behind request).scheme? = base.scheme? ∧ (base.behind request).authority? = base.authority? ∧
        (base.behind request).printedPath = String.ofList front ++ request.printedPath ∧
        (base.behind request).query? = request.query? := by
  refine ⟨fun _ _ => anchored_of_parse, ?_⟩
  intro base request anchored requestAnchored short
  obtain ⟨forwarded, joins, path, query⟩ := anchored.joins requestAnchored short
  obtain ⟨slashes, whole⟩ := trimSlashes_append base.printedPath.toList
  exact ⟨_, slashes, forwarded, whole, getLast?_trimSlashes _, joins.read, joins.assembled, joins.scheme,
    joins.authority, path, query⟩

theorem full_request_behind_slashed_base :
    let base := absolute "https" "example.com" { path := "/foo/bar//", query := some "x=1" }
    let request := absolute "http" "other" { path := "/api/v1", query := some "limit=1" }
    parse "https://example.com/foo/bar//?x=1#top" = .ok base ∧
      parse "http://other/api/v1?limit=1" = .ok request ∧ base.Fits request ∧
      (base.behind request).scheme? = some "https" ∧ (base.behind request).authority? = some "example.com" ∧
      (base.behind request).printedPath = "/foo/bar/api/v1" ∧
      (base.behind request).query? = some "limit=1" := by
  intro base request
  have baseRead : parse "https://example.com/foo/bar//?x=1#top" = .ok base := by decide +kernel
  have requestRead : parse "http://other/api/v1?limit=1" = .ok request := by decide +kernel
  have short : base.Fits request := by decide +kernel
  obtain ⟨anchored, behind⟩ := behind_keeps_base_and_request
  obtain ⟨_, _, _, _, _, _, _, scheme, authority, _, query⟩ := behind base request
    (anchored _ _ baseRead (Or.inl rfl)) (anchored _ _ requestRead (Or.inl rfl)) short
  exact ⟨baseRead, requestRead, short, scheme, authority, by decide +kernel, query⟩

end Uri

namespace Cluster

theorem parse_eq_ok {text : String} {cluster : Cluster} (read : parse text = .ok cluster) :
    Uri.parse text = .ok cluster.url := by
  obtain ⟨url, parsed, rfl⟩ := Except.map_eq_ok.mp (Except.mapError_eq_ok.mp read)
  exact parsed

/-- Requests for different targets come together on their way to a cluster exactly if its address has no
place for paths, so that it is a bare authority or the star. -/
theorem requests_come_together_iff {text : String} {cluster : Cluster} (read : parse text = .ok cluster) :
    (¬cluster.url.Anchored ↔ (∃ name, cluster.url = .authority name) ∨ cluster.url = Uri.star) ∧
    (∀ left right : Uri, left.Anchored → right.Anchored → cluster.url.Fits left → cluster.url.Fits right →
      ¬left.SameTarget right →
      ((cluster.addressOf left).SameTarget (cluster.addressOf right) ↔ ¬cluster.url.Anchored)) ∧
    ∀ request : Uri, request.Anchored →
      (¬cluster.url.Anchored → cluster.addressOf request = cluster.url) ∧
      (cluster.url.Anchored → cluster.url.Fits request →
        ∃ front, (cluster.addressOf request).printedPath = front ++ request.printedPath ∧
          (cluster.addressOf request).query? = request.query?) := by
  have urlRead := parse_eq_ok read
  refine ⟨Uri.not_anchored_iff urlRead, ?_, ?_⟩
  · intro left right leftAnchored rightAnchored leftShort rightShort apart
    constructor
    · intro same anchored
      obtain ⟨_, _, leftPath, leftQuery⟩ := anchored.joins leftAnchored leftShort
      obtain ⟨_, _, rightPath, rightQuery⟩ := anchored.joins rightAnchored rightShort
      obtain ⟨paths, queries⟩ := same
      rw [addressOf, addressOf, leftPath, rightPath, ← String.toList_inj, String.toList_append,
        String.toList_append] at paths
      rw [addressOf, addressOf, leftQuery, rightQuery] at queries
      exact apart ⟨String.toList_injective (List.append_cancel_left paths), queries⟩
    · intro bare
      rw [addressOf, addressOf, Uri.behind_of_not_anchored urlRead bare leftAnchored,
        Uri.behind_of_not_anchored urlRead bare rightAnchored]
      exact ⟨rfl, rfl⟩
  · intro request requestAnchored
    refine ⟨fun bare => Uri.behind_of_not_anchored urlRead bare requestAnchored, ?_⟩
    intro anchored short
    obtain ⟨_, _, path, query⟩ := anchored.joins requestAnchored short
    exact ⟨_, path, query⟩

theorem prefixed_requests_stay_apart :
    let cluster := ofUrl (.absolute "https" "10.0.0.1:6443" { path := "/k8s/", query := none })
    let api := Uri.path { path := "/api", query := none }
    let apis := Uri.path { path := "/apis", query := none }
    parse "https://10.0.0.1:6443/k8s/" = .ok cluster ∧ api.Anchored ∧ apis.Anchored ∧
      cluster.url.Fits api ∧ cluster.url.Fits apis ∧ ¬api.SameTarget apis ∧
      ¬(cluster.addressOf api).SameTarget (cluster.addressOf apis) := by
  intro cluster api apis
  have read : parse "https://10.0.0.1:6443/k8s/" = .ok cluster := by decide +kernel
  have apiRead : Uri.parse "/api" = .ok api := by decide +kernel
  have apisRead : Uri.parse "/apis" = .ok apis := by decide +kernel
  have apiAnchored := Uri.anchored_of_parse apiRead (Or.inr (by decide))
  have apisAnchored := Uri.anchored_of_parse apisRead (Or.inr (by decide))
  have anchored := Uri.anchored_of_parse (parse_eq_ok read) (Or.inl rfl)
  have apiShort : cluster.url.Fits api := by decide +kernel
  have apisShort : cluster.url.Fits apis := by decide +kernel
  have apart : ¬api.SameTarget apis := by decide
  refine ⟨read, apiAnchored, apisAnchored, apiShort, apisShort, apart, ?_⟩
  rw [(requests_come_together_iff read).2.1 api apis apiAnchored apisAnchored apiShort apisShort apart]
  exact not_not.mpr anchored

/-- A bare authority, and the star, are accepted as addresses of clusters; requests for different paths come
together there, and their paths are lost. -/
theorem bare_addresses_lose_paths :
    let server := ofUrl (.authority "10.0.0.1:6443")
    let api := Uri.path { path := "/api", query := none }
    let apis := Uri.path { path := "/apis", query := none }
    parse "10.0.0.1:6443" = .ok server ∧ parse "*" = .ok (ofUrl .star) ∧ api.Anchored ∧ apis.Anchored ∧
      ¬api.SameTarget apis ∧
      (server.url.Fits api ∧ server.url.Fits apis ∧ server.addressOf api = server.addressOf apis ∧
        (server.addressOf api).printedPath = "") ∧
      (ofUrl .star).url.Fits api ∧ (ofUrl .star).url.Fits apis ∧
        (ofUrl .star).addressOf api = (ofUrl .star).addressOf apis ∧
        ((ofUrl .star).addressOf api).printedPath = "*" := by
  intro server api apis
  have apiRead : Uri.parse "/api" = .ok api := by decide +kernel
  have apisRead : Uri.parse "/apis" = .ok apis := by decide +kernel
  refine ⟨by decide +kernel, by decide +kernel, Uri.anchored_of_parse apiRead (Or.inr (by decide)),
    Uri.anchored_of_parse apisRead (Or.inr (by decide)), by decide, ?_, ?_⟩
  · decide +kernel
  · decide +kernel

end Cluster

end ApiDiscovery
