import ApiDiscovery.Format.Record
import Mathlib.Data.List.Basic

/-!
What a record is read as. Only the members under the names of the layout matter, and of each of them only the
one member of its name, so that neither the order of the members nor members of other names change anything.
-/

namespace ApiDiscovery

variable {members given others : List (String × Json)}

def named (name : String) (members : List (String × Json)) : List (String × Json) :=
  members.filter (·.1 = name)

theorem named_append (name : String) :
    named name (members ++ others) = named name members ++ named name others :=
  List.filter_append ..

theorem named_eq_nil_iff {name : String} : named name members = [] ↔ ∀ member ∈ members, member.1 ≠ name := by
  simp [named, List.filter_eq_nil_iff]

theorem named_cons_self (name : String) (document : Json) :
    named name ((name, document) :: members) = (name, document) :: named name members :=
  List.filter_cons_of_pos (by simp)

theorem named_cons_of_ne {name : String} {member : String × Json} (other : member.1 ≠ name) :
    named name (member :: members) = named name members :=
  List.filter_cons_of_neg (by simpa using other)

theorem named_filter_self (name : String) : named name (members.filter (·.1 ≠ name)) = [] := by
  rw [named_eq_nil_iff]
  intro member isLeft
  simpa using List.of_mem_filter isLeft

theorem named_filter_of_ne {name other : String} (apart : name ≠ other) :
    named name (members.filter (·.1 ≠ other)) = named name members := by
  rw [named, named, List.filter_filter]
  refine List.filter_congr fun member _ => ?_
  by_cases isNamed : member.1 = name <;> simp [isNamed, apart]

theorem named_eq_nil_of_unknown {name : String} {names : List String} (known : name ∈ names)
    (unknown : ∀ member ∈ members, member.1 ∉ names) : named name members = [] := by
  rw [named_eq_nil_iff]
  rintro member isMember rfl
  exact unknown member isMember known

/-- What a slot holds is what the members say of its field: nothing where no member bears its name, and
otherwise what the only member of its name is read as. -/
def Field.Finds {α : Type} (field : Field α) (members : List (String × Json)) : Option α → Prop
  | none => named field.name members = []
  | some value => ∃ document, named field.name members = [(field.name, document)] ∧
      field.read document.source = .ok (some value)

theorem Field.Finds.congr {α : Type} {field : Field α} {slot : Option α} (finds : field.Finds members slot)
    (same : (named field.name given).Perm (named field.name members)) : field.Finds given slot := by
  cases slot with
  | none =>
      rw [Finds] at finds ⊢
      rw [finds] at same
      exact same.eq_nil
  | some value =>
      obtain ⟨document, only, read⟩ := finds
      rw [only] at same
      exact ⟨document, List.perm_singleton.mp same, read⟩

namespace Layout

variable {τ : Type}

def Finds (members : List (String × Json)) : {τ : Type} → (layout : Layout τ) → layout.Slots → Prop
  | _, .done, _ => True
  | _, .field first rest, slots => first.Finds members slots.1 ∧ Finds members rest slots.2

def full : {τ : Type} → (layout : Layout τ) → τ → layout.Slots
  | _, .done, _ => ()
  | _, .field _ rest, values => (some values.1, full rest values.2)

def clear (name : String) : {τ : Type} → (layout : Layout τ) → layout.Slots → layout.Slots
  | _, .done, slots => slots
  | _, .field first rest, slots => (if first.name = name then none else slots.1, clear name rest slots.2)

theorem Finds.congr {layout : Layout τ} {slots : layout.Slots} (finds : layout.Finds members slots)
    (same : ∀ name ∈ layout.names, (named name given).Perm (named name members)) :
    layout.Finds given slots := by
  induction layout with
  | done => trivial
  | field first rest ih =>
      obtain ⟨here, later⟩ := finds
      exact ⟨here.congr (same _ List.mem_cons_self),
        ih later fun name member => same name (List.mem_cons_of_mem _ member)⟩

theorem Finds.perm {layout : Layout τ} {slots : layout.Slots} (finds : layout.Finds members slots)
    (perm : given.Perm (members ++ others)) (unknown : ∀ other ∈ others, other.1 ∉ layout.names) :
    layout.Finds given slots := by
  refine finds.congr fun name isField => ?_
  have same : (named name given).Perm (named name (members ++ others)) := perm.filter _
  rwa [named_append, named_eq_nil_of_unknown isField unknown, List.append_nil] at same

theorem Finds.without {layout : Layout τ} {slots : layout.Slots} (finds : layout.Finds members slots)
    (name : String) : layout.Finds (members.filter (·.1 ≠ name)) (layout.clear name slots) := by
  induction layout with
  | done => trivial
  | field first rest ih =>
      obtain ⟨here, later⟩ := finds
      refine ⟨?_, ih later⟩
      simp only [clear]
      by_cases same : first.name = name
      · rw [if_pos same, same.symm]
        exact named_filter_self first.name
      · rw [if_neg same]
        exact here.congr (.of_eq (named_filter_of_ne same))

def Reads (name : String) (document : Json) : {τ : Type} → (layout : Layout τ) → layout.Slots → Prop
  | _, .done, _ => True
  | _, .field first rest, slots =>
      (first.name = name →
        ∃ value, slots.1 = some value ∧ first.read document.source = .ok (some value)) ∧
      Reads name document rest slots.2

theorem Finds.replace {layout : Layout τ} {slots : layout.Slots} (finds : layout.Finds members slots)
    (name : String) (document : Json) (reads : layout.Reads name document slots) :
    layout.Finds ((name, document) :: members.filter (·.1 ≠ name)) slots := by
  induction layout with
  | done => trivial
  | field first rest ih =>
      obtain ⟨here, later⟩ := finds
      obtain ⟨readsHere, readsLater⟩ := reads
      refine ⟨?_, ih later readsLater⟩
      by_cases same : first.name = name
      · obtain ⟨value, held, read⟩ := readsHere same
        rw [held, ← same]
        exact ⟨document, by rw [named_cons_self, named_filter_self], read⟩
      · refine here.congr (.of_eq ?_)
        rw [named_cons_of_ne (Ne.symm same), named_filter_of_ne same]

theorem finish_full (layout : Layout τ) (values : τ) : layout.finish (layout.full values) = .ok values := by
  induction layout with
  | done => rfl
  | field first rest ih =>
      simp only [full, finish]
      rw [ih]
      rfl

section Placing

variable {strictness : Strictness} {α β : Type} {first : Field α} {rest : Layout β}

theorem placeAll_append (layout : Layout τ) (slots : layout.Slots)
    (front back : List (Option String × Source)) :
    layout.placeAll strictness slots (front ++ back) =
      layout.placeAll strictness slots front >>= fun placed => layout.placeAll strictness placed back := by
  induction front generalizing slots with
  | nil => rfl
  | cons member others ih =>
      obtain ⟨name, source⟩ := member
      simp only [List.cons_append, placeAll, ih, bind_assoc]

theorem placeAll_done (slots : Layout.done.Slots) (members : List (String × Json)) :
    Layout.done.placeAll strictness slots (Json.memberSources members) = .ok slots := by
  induction members with
  | nil => rfl
  | cons member others ih =>
      refine Except.bind_eq_ok.mpr ⟨member.1, rfl, Except.bind_eq_ok.mpr ⟨slots, ?_, ih⟩⟩
      exact Except.bind_eq_ok.mpr ⟨(), Json.skip_source member.2, rfl⟩

theorem placeAll_of_others (apart : ∀ member ∈ members, member.1 ≠ first.name) (slot : Option α)
    {slots placed : rest.Slots}
    (placesRest : rest.placeAll strictness slots (Json.memberSources members) = .ok placed) :
    (Layout.field first rest).placeAll strictness (slot, slots) (Json.memberSources members) =
      .ok (slot, placed) := by
  induction members generalizing slots with
  | nil =>
      cases placesRest
      rfl
  | cons member others ih =>
      simp only [List.mem_cons, forall_eq_or_imp] at apart
      obtain ⟨_, ⟨⟩, placesAll⟩ := Except.bind_eq_ok.mp placesRest
      obtain ⟨next, placesOne, placesOthers⟩ := Except.bind_eq_ok.mp placesAll
      refine Except.bind_eq_ok.mpr ⟨member.1, rfl, Except.bind_eq_ok.mpr
        ⟨(slot, next), ?_, ih apart.2 placesOthers⟩⟩
      simp only [place, Ne.symm apart.1]
      exact Except.bind_eq_ok.mpr ⟨next, placesOne, rfl⟩

theorem placeAll_of_only {document : Json} {value : α} {before after : List (String × Json)}
    (apart : ∀ member ∈ before ++ after, member.1 ≠ first.name)
    (read : first.read document.source = .ok (some value)) {slots placed : rest.Slots}
    (placesRest : rest.placeAll strictness slots (Json.memberSources (before ++ after)) = .ok placed) :
    (Layout.field first rest).placeAll strictness (none, slots)
      (Json.memberSources (before ++ (first.name, document) :: after)) = .ok (some value, placed) := by
  simp only [List.mem_append, or_imp, forall_and] at apart
  rw [Json.memberSources_append, placeAll_append] at placesRest
  obtain ⟨between, placesBefore, placesAfter⟩ := Except.bind_eq_ok.mp placesRest
  have taken : (Layout.field first rest).place strictness first.name document.source (none, between) =
      .ok (some value, between) := by
    simp only [place, Option.isSome_none, Bool.and_false]
    exact Except.bind_eq_ok.mpr ⟨some value, read, rfl⟩
  rw [Json.memberSources_append]
  refine (placeAll_append (.field first rest) _ _ _).trans ?_
  exact Except.bind_eq_ok.mpr ⟨(none, between), placeAll_of_others apart.1 none placesBefore,
    Except.bind_eq_ok.mpr ⟨first.name, rfl, Except.bind_eq_ok.mpr
      ⟨(some value, between), taken, placeAll_of_others apart.2 (some value) placesAfter⟩⟩⟩

end Placing

theorem placeAll_of_finds (strictness : Strictness) {layout : Layout τ} (distinct : layout.names.Nodup)
    {slots : layout.Slots} (finds : layout.Finds members slots) :
    layout.placeAll strictness layout.emptySlots (Json.memberSources members) = .ok slots := by
  -- by the fields: the first one takes its member out, and the others find theirs in what is left
  induction layout generalizing members with
  | done => exact placeAll_done slots members
  | field first rest ih =>
      obtain ⟨slot, slots⟩ := slots
      obtain ⟨fresh, distinct⟩ := List.nodup_cons.mp distinct
      obtain ⟨here, later⟩ := finds
      cases slot with
      | none => exact placeAll_of_others (named_eq_nil_iff.mp here) none (ih distinct later)
      | some value =>
          obtain ⟨document, only, read⟩ := here
          have isMember : (first.name, document) ∈ members :=
            List.mem_of_mem_filter (only ▸ List.mem_singleton_self _)
          obtain ⟨before, after, rfl⟩ := List.append_of_mem isMember
          have apart : named first.name (before ++ after) = [] := by
            have one := congrArg List.length only
            rw [named_append, named_cons_self, List.length_append, List.length_cons,
              List.length_singleton] at one
            rw [← List.length_eq_zero_iff, named_append, List.length_append]
            omega
          have others : rest.Finds (before ++ after) slots := by
            refine later.congr fun name isField => ?_
            have other : first.name ≠ name := by
              rintro rfl
              exact fresh isField
            rw [named_append, named_append, named_cons_of_ne other]
          exact placeAll_of_only (named_eq_nil_iff.mp apart) read (ih distinct others)

theorem readJson_of_finds {α : Type} {strictness : Strictness} {layout : Layout τ} {make : τ → α}
    {parts : α → τ} (distinct : layout.names.Nodup) {slots : layout.Slots}
    (finds : layout.Finds members slots) :
    (Format.record strictness layout make parts).readJson (.record members) = make <$> layout.finish slots := by
  have read : layout.read strictness (.record (Json.memberSources members) none) = layout.finish slots := by
    rw [Layout.read, placeAll_of_finds strictness distinct finds]
    rfl
  exact congrArg (make <$> ·) read

end Layout

end ApiDiscovery
