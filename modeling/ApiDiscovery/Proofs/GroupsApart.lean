import ApiDiscovery.Proofs.Transparency

/-!
Groups of different names have nothing to do with each other: neither their lists nor their seats ever
meet. So the preferred listing of some groups and then of others is that of the ones, followed by that of
the others.
-/

namespace ApiDiscovery

theorem foldl_append_of_apart {α κ : Type} [DecidableEq κ] {step : List α → α → List α} {key : α → κ}
    (past : ∀ front kept item, key item ∉ front.map key →
      step (front ++ kept) item = front ++ step kept item)
    {first second : List α} (covered : (first.foldl step []).map key = (first.map key).eraseDups)
    (apart : ∀ item ∈ second, key item ∉ first.map key) :
    (first ++ second).foldl step [] = first.foldl step [] ++ second.foldl step [] := by
  -- what the first list has come to stays in front while the second one goes on
  have onward : ∀ kept, second.foldl step (first.foldl step [] ++ kept) =
      first.foldl step [] ++ second.foldl step kept := by
    induction second with
    | nil => exact fun _ => rfl
    | cons item rest ih =>
        intro kept
        have fresh : key item ∉ (first.foldl step []).map key := by
          rw [covered, List.mem_eraseDups]
          exact apart item List.mem_cons_self
        rw [List.foldl_cons, List.foldl_cons, past _ _ _ fresh]
        exact ih (fun other member => apart other (List.mem_cons_of_mem item member)) _
  have last := onward []
  rwa [List.append_nil, ← List.foldl_append] at last

theorem mem_map_append_of_fresh {α κ : Type} {front : List α} {key : α → κ} {name : κ}
    (fresh : name ∉ front.map key) (kept : List α) :
    name ∈ (front ++ kept).map key ↔ name ∈ kept.map key := by
  rw [List.map_append, List.mem_append, or_iff_right fresh]

theorem openAt_past (front opened : List Stop) (stop : Stop) (fresh : stop.home ∉ front.map Stop.home) :
    openAt (front ++ opened) stop = front ++ openAt opened stop := by
  have known := mem_map_append_of_fresh fresh opened
  rw [openAt, openAt]
  by_cases met : stop.home ∈ opened.map Stop.home
  · rw [if_pos met, if_pos (known.mpr met)]
  · rw [if_neg met, if_neg (mt known.mp met), List.append_assoc]

theorem handOver_of_fresh {front : List Candidate} {candidate : Candidate}
    (fresh : candidate.seat ∉ front.map Candidate.seat) : handOver front candidate = front := by
  refine (List.map_congr_left fun holder holds => if_neg ?_).trans (List.map_id front)
  intro same
  exact fresh (same ▸ List.mem_map_of_mem holds)

theorem elect_past (front elected : List Candidate) (candidate : Candidate)
    (fresh : candidate.seat ∉ front.map Candidate.seat) :
    elect (front ++ elected) candidate = front ++ elect elected candidate := by
  have known := mem_map_append_of_fresh fresh elected
  have handed : handOver (front ++ elected) candidate = front ++ handOver elected candidate := by
    rw [handOver, List.map_append]
    exact congrArg (· ++ _) (handOver_of_fresh fresh)
  rw [elect, elect]
  by_cases met : candidate.seat ∈ elected.map Candidate.seat
  · rw [if_pos met, if_pos (known.mpr met), handed]
    split <;> rfl
  · rw [if_neg met, if_neg (mt known.mp met), List.append_assoc]

theorem group_of_opened {visits : List Visit} {stop : Stop}
    (opens : stop ∈ openAll (visits.map Visit.stop)) :
    ∃ visit ∈ visits, visit.stop.group.name = stop.home.group := by
  obtain ⟨visit, visited, rfl⟩ := List.mem_map.mp (List.mem_of_find?_eq_some (find?_of_mem_openAll opens))
  exact ⟨visit, visited, rfl⟩

theorem group_of_candidate {visits : List Visit} {candidate : Candidate}
    (stands : candidate ∈ visits.flatMap Visit.candidates) :
    ∃ visit ∈ visits, visit.stop.group.name = candidate.home.group := by
  obtain ⟨visit, visited, found⟩ := List.mem_flatMap.mp stands
  refine ⟨visit, visited, ?_⟩
  rw [(Visit.mem_candidates.mp found).1]
  rfl

/-- The visits are in groups of different names. -/
def VisitsApart (first second : List Visit) : Prop :=
  ∀ visit ∈ first, ∀ other ∈ second, visit.stop.group.name ≠ other.stop.group.name

namespace VisitsApart

variable {first second : List Visit}

theorem symm (apart : VisitsApart first second) : VisitsApart second first :=
  fun other otherVisited visit visited => (apart visit visited other otherVisited).symm

theorem opened (apart : VisitsApart first second) :
    openAll ((first ++ second).map Visit.stop) =
      openAll (first.map Visit.stop) ++ openAll (second.map Visit.stop) := by
  rw [List.map_append]
  refine foldl_append_of_apart openAt_past (map_home_openAll _) fun stop stops met => ?_
  obtain ⟨other, otherVisited, rfl⟩ := List.mem_map.mp stops
  obtain ⟨earlier, before, same⟩ := List.mem_map.mp met
  obtain ⟨visit, visited, rfl⟩ := List.mem_map.mp before
  exact apart visit visited other otherVisited (congrArg GroupVersion.group same)

theorem elected (apart : VisitsApart first second) :
    electAll ((first ++ second).flatMap Visit.candidates) =
      electAll (first.flatMap Visit.candidates) ++ electAll (second.flatMap Visit.candidates) := by
  rw [List.flatMap_append]
  refine foldl_append_of_apart elect_past (map_seat_electAll _) fun candidate stands met => ?_
  obtain ⟨other, otherVisited, named⟩ := group_of_candidate stands
  obtain ⟨earlier, before, same⟩ := List.mem_map.mp met
  obtain ⟨visit, visited, earlierNamed⟩ := group_of_candidate before
  have groups : earlier.home.group = candidate.home.group := congrArg GroupResource.group same
  exact apart visit visited other otherVisited (earlierNamed.trans (groups.trans named.symm))

theorem filter_elected (apart : VisitsApart first second) {stop : Stop}
    (opens : stop ∈ openAll (first.map Visit.stop)) :
    (electAll (second.flatMap Visit.candidates)).filter (·.home = stop.home) = [] := by
  rw [List.filter_eq_nil_iff]
  intro candidate elected here
  have same : candidate.home = stop.home := decide_eq_true_iff.mp here
  obtain ⟨visit, visited, named⟩ := group_of_opened opens
  obtain ⟨other, otherVisited, otherNamed⟩ := group_of_candidate (mem_of_mem_electAll elected)
  rw [same] at otherNamed
  exact apart visit visited other otherVisited (named.trans otherNamed.symm)

theorem result (apart : VisitsApart first second) :
    ((first ++ second).foldl Ballot.visit {}).result =
      (first.foldl Ballot.visit {}).result ++ (second.foldl Ballot.visit {}).result := by
  rw [(Ballot.matches_visits _).result, (Ballot.matches_visits first).result,
    (Ballot.matches_visits second).result, apart.opened, apart.elected, List.map_append]
  congr 1
  · refine List.map_congr_left fun stop opens => ?_
    rw [List.filter_append, apart.filter_elected opens, List.append_nil]
  · refine List.map_congr_left fun stop opens => ?_
    rw [List.filter_append, apart.symm.filter_elected opens, List.nil_append]

theorem of_groups {groups others : List Group}
    (apart : ∀ group ∈ groups, ∀ other ∈ others, group.name ≠ other.name)
    (stops : first.map Visit.stop = groups.flatMap Group.stops)
    (otherStops : second.map Visit.stop = others.flatMap Group.stops) : VisitsApart first second := by
  have declared : ∀ {visits : List Visit} {list : List Group},
      visits.map Visit.stop = list.flatMap Group.stops → ∀ visit ∈ visits, visit.stop.group ∈ list := by
    intro visits list stops visit visited
    have stopped : visit.stop ∈ GroupList.stops { groups := list } := by
      rw [GroupList.stops, ← stops]
      exact List.mem_map_of_mem visited
    exact (GroupList.mem_stops.mp stopped).1
  intro visit visited other otherVisited
  exact apart _ (declared stops visit visited) _ (declared otherStops other otherVisited)

end VisitsApart

def declaring (groups : List Group) (answers : (query : Query) → Except Failure query.Answer) :
    (query : Query) → Except Failure query.Answer
  | .groups => .ok ({ groups } : GroupList)
  | .resources apiVersion => answers (.resources apiVersion)
  | .version => answers .version
  | .declaration groupVersion => answers (.declaration groupVersion)
  | .schema => answers .schema

namespace Provider

variable {σ τ υ : Type}

def saying (answers : (query : Query) → Except Failure query.Answer) : Provider Unit where
  ask query := fun state => (({ label := 0, value := · }) <$> answers query, state)

theorem constant_saying (answers : (query : Query) → Except Failure query.Answer) :
    (saying answers).Constant (fun _ => True) answers := by
  constructor
  · intro query _ _ _
    simp only [saying]
    cases answers query <;> rfl
  · intro query _ _
    trivial

variable {answers : (query : Query) → Except Failure query.Answer}

theorem tour_saying_declaring (groups : List Group) (stops : List Stop) :
    (saying (declaring groups answers)).tour stops = (saying answers).tour stops := by
  induction stops with
  | nil => rfl
  | cons stop rest ih =>
      rw [tour, tour, ih]
      rfl

theorem Constant.preferredResources {provider : Provider σ} {steady : σ → Prop} {groups : List Group}
    (constant : provider.Constant steady (declaring groups answers)) {state : σ} (ready : steady state) :
    (provider.preferredResources state).1 =
      (fun visits => (visits.foldl Ballot.visit {}).result) <$>
        ((saying answers).tour (groups.flatMap Group.stops) ()).1 := by
  have alike := constant.answersLike (constant_saying (declaring groups answers))
  rw [(alike.preferredResources state () ⟨ready, trivial⟩).1.eq, preferredResources_eq_tour,
    ← tour_saying_declaring groups]
  exact Exchange.map_outcome _ _ ()

theorem tour_saying_append (first second : List Stop) :
    ((saying answers).tour (first ++ second) ()).1 = do
      let visits ← ((saying answers).tour first ()).1
      let others ← ((saying answers).tour second ()).1
      return visits ++ others := by
  rw [tour_append, Exchange.bind_apply]
  rcases (saying answers).tour first () with ⟨failure | visits, middle⟩
  · rfl
  · exact Exchange.map_outcome _ _ ()

/-- Where there is one answer to each question, the preferred listing of some groups and of others with
other names is that of the ones and then that of the others; it fails as the first of the two that fails. -/
theorem preferredResources_of_groups_apart {first second : List Group}
    (apart : ∀ group ∈ first, ∀ other ∈ second, group.name ≠ other.name)
    {whole : Provider σ} {front : Provider τ} {back : Provider υ}
    {steady : σ → Prop} {calm : τ → Prop} {still : υ → Prop}
    (wholeConstant : whole.Constant steady (declaring (first ++ second) answers))
    (frontConstant : front.Constant calm (declaring first answers))
    (backConstant : back.Constant still (declaring second answers))
    {s : σ} {t : τ} {u : υ} (wholeReady : steady s) (frontReady : calm t) (backReady : still u) :
    (whole.preferredResources s).1 = do
      let lists ← (front.preferredResources t).1
      let others ← (back.preferredResources u).1
      return lists ++ others := by
  rw [wholeConstant.preferredResources wholeReady, frontConstant.preferredResources frontReady,
    backConstant.preferredResources backReady, List.flatMap_append, tour_saying_append]
  cases toured : (saying answers).tour (first.flatMap Group.stops) () with
  | mk outcome middle =>
      cases outcome with
      | error failure => rfl
      | ok visits =>
          cases touredOn : (saying answers).tour (second.flatMap Group.stops) () with
          | mk outcome last =>
              cases outcome with
              | error failure => rfl
              | ok others =>
                  have visitsApart : VisitsApart visits others :=
                    .of_groups apart (tour_eq_ok toured) (tour_eq_ok touredOn)
                  exact congrArg Except.ok visitsApart.result

end Provider

def Catalogue.eventful (groups : List Group) : Catalogue :=
  { groups
    resources :=
      [("v1", [resource "pods" "Pod" true, resource "events" "Event" true]),
        ("events.k8s.io/v1beta1", [resource "events" "Event" true]),
        ("events.k8s.io/v1", [resource "events" "Event" true])] }

theorem Catalogue.constant_eventful (groups : List Group) :
    Catalogue.origin.provider.Constant
      (fun held => held.state.failures = 0 ∧
        ∀ query, held.state.lookup query = (Catalogue.eventful groups).lookup query)
      (declaring groups (Catalogue.eventful []).lookup) := by
  have answers : declaring groups (Catalogue.eventful []).lookup = (Catalogue.eventful groups).lookup := by
    funext query
    cases query <;> rfl
  rw [answers]
  exact Catalogue.constant (Catalogue.eventful groups)

theorem Catalogue.eventful_groups_apart :
    let first := [group "" ["v1"] (some "v1")]
    let second := [group "events.k8s.io" ["v1beta1", "v1"] (some "v1")]
    let listing := fun groups =>
      (Catalogue.origin.provider.preferredResources { state := eventful groups, next := 0 }).1
    (∀ group ∈ first, ∀ other ∈ second, group.name ≠ other.name) ∧
      listing (first ++ second) = (do
        let lists ← listing first
        let others ← listing second
        return lists ++ others) ∧
      (listing (first ++ second)).map
          (List.map fun list => (list.groupVersion, list.resources.map ListedResource.name)) =
        .ok [("v1", ["pods", "events"]), ("events.k8s.io/v1beta1", []),
          ("events.k8s.io/v1", ["events"])] := by
  intro first second listing
  have apart : ∀ group ∈ first, ∀ other ∈ second, group.name ≠ other.name := by decide
  have ready : ∀ groups : List Group, (Catalogue.eventful groups).failures = 0 ∧
      ∀ query, (Catalogue.eventful groups).lookup query = (Catalogue.eventful groups).lookup query :=
    fun _ => ⟨rfl, fun _ => rfl⟩
  refine ⟨apart, ?_, by decide +kernel⟩
  exact Provider.preferredResources_of_groups_apart apart (constant_eventful (first ++ second))
    (constant_eventful first) (constant_eventful second) (ready _) (ready _) (ready _)

end ApiDiscovery
