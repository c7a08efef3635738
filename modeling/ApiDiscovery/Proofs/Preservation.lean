import Mathlib.Data.List.Nodup
import ApiDiscovery.Proofs.Writing

/-!
What an object keeps when it is read and written back. Metadata is written from what was read, members
outside the type block are kept as they are, and a type block is kept if it is whole: with both of its
members, and both of them texts. Of a block that is not whole, reading loses the members up to and
including the first that is no text.
-/

namespace ApiDiscovery

theorem Json.canonicalMembers_eq_map (members : List (String × Json)) :
    canonicalMembers members = members.map fun member => (member.1, member.2.canonical) := by
  induction members with
  | nil => rfl
  | cons first rest ih => simp [canonicalMembers, ih]

theorem Json.canonicalMembers_append (members rest : List (String × Json)) :
    canonicalMembers (members ++ rest) = canonicalMembers members ++ canonicalMembers rest := by
  simp only [canonicalMembers_eq_map, List.map_append]

theorem Json.map_fst_canonicalMembers (members : List (String × Json)) :
    (canonicalMembers members).map Prod.fst = members.map Prod.fst := by
  simp [canonicalMembers_eq_map, Function.comp_def]

theorem Json.perm_canonicalMembers {left right : List (String × Json)} (perm : left.Perm right) :
    (canonicalMembers left).Perm (canonicalMembers right) := by
  simpa only [canonicalMembers_eq_map] using perm.map _

theorem Source.map_fst_of_memberValues {members : List (Option String × Source)} :
    ∀ {values : List (String × Json)}, memberValues members = .ok values →
      members.map Prod.fst = values.map fun value => some value.1 := by
  induction members with
  | nil =>
      intro values read
      cases read
      rfl
  | cons first rest ih =>
      intro values read
      obtain ⟨name, named, read⟩ := Except.bind_eq_ok.mp read
      obtain ⟨value, _, read⟩ := Except.bind_eq_ok.mp read
      obtain ⟨others, readRest, made⟩ := Except.bind_eq_ok.mp read
      cases made
      simp [memberName_eq_ok.mp named, ih readRest]

theorem Source.nodup_of_memberValues {members : List (Option String × Source)}
    {values : List (String × Json)} (read : memberValues members = .ok values)
    (distinct : (members.map Prod.fst).Nodup) : (values.map Prod.fst).Nodup := by
  rw [map_fst_of_memberValues read] at distinct
  refine List.Nodup.of_map some ?_
  simpa [Function.comp_def] using distinct

namespace Manifest

def isTypeMember (member : String × Json) : Bool := member.1 = "apiVersion" || member.1 = "kind"

def holdsText (member : String × Json) : Bool :=
  match member.2 with
  | .text _ => true
  | _ => false

/-- What reading loses of the members of an object, its metadata aside: the members of a type block that
is not whole, up to and including the first that is no text. -/
def lost (members : List (String × Json)) : List (String × Json) :=
  let block := members.filter isTypeMember
  if block.length = 2 && block.all holdsText then []
  else block.take ((block.takeWhile holdsText).length + 1)

theorem takeTypes_apiVersion (kind : Option String) (found : String) (rest : List (String × Json)) :
    takeTypes none kind (("apiVersion", .text found) :: rest) = takeTypes (some found) kind rest := rfl

theorem takeTypes_kind (apiVersion : Option String) (found : String) (rest : List (String × Json)) :
    takeTypes apiVersion none (("kind", .text found) :: rest) = takeTypes apiVersion (some found) rest := rfl

theorem takeTypes_cons (apiVersion kind : Option String) (name : String) (value : Json)
    (rest : List (String × Json)) :
    takeTypes apiVersion kind ((name, value) :: rest) =
      if name = "apiVersion" then
        match apiVersion, value with
        | none, .text found => takeTypes (some found) kind rest
        | _, _ => (none, rest)
      else if name = "kind" then
        match kind, value with
        | none, .text found => takeTypes apiVersion (some found) rest
        | _, _ => (none, rest)
      else
        ((takeTypes apiVersion kind rest).1, (name, value) :: (takeTypes apiVersion kind rest).2) := rfl

theorem isTypeMember_iff {member : String × Json} :
    isTypeMember member = true ↔ member.1 = "apiVersion" ∨ member.1 = "kind" := by
  simp [isTypeMember]

theorem holdsText_iff {member : String × Json} :
    holdsText member = true ↔ ∃ found, .text found = member.2 := by
  obtain ⟨name, value⟩ := member
  cases value <;> simp [holdsText]

theorem takeTypes_stop (apiVersion kind : Option String) {member : String × Json}
    (typed : isTypeMember member = true) (other : holdsText member = false)
    (rest : List (String × Json)) : takeTypes apiVersion kind (member :: rest) = (none, rest) := by
  obtain ⟨name, value⟩ := member
  rcases isTypeMember_iff.mp typed with rfl | rfl
  · rw [takeTypes_cons, if_pos rfl]
    cases apiVersion <;> cases value <;> simp_all [holdsText]
  · rw [takeTypes_cons, if_neg (by decide), if_pos rfl]
    cases kind <;> cases value <;> simp_all [holdsText]

theorem takeTypes_typed (apiVersion kind : Option String) {member : String × Json}
    (typed : isTypeMember member = true) :
    (∃ nextVersion nextKind, ∀ rest,
      takeTypes apiVersion kind (member :: rest) = takeTypes nextVersion nextKind rest) ∨
      ∀ rest, takeTypes apiVersion kind (member :: rest) = (none, rest) := by
  cases text : holdsText member with
  | false => exact Or.inr (takeTypes_stop apiVersion kind typed text)
  | true =>
      obtain ⟨name, value⟩ := member
      obtain ⟨found, rfl⟩ : ∃ found, .text found = value := holdsText_iff.mp text
      rcases isTypeMember_iff.mp typed with rfl | rfl
      · cases apiVersion with
        | none => exact Or.inl ⟨some found, kind, fun rest => rfl⟩
        | some earlier => exact Or.inr fun rest => rfl
      · cases kind with
        | none => exact Or.inl ⟨apiVersion, some found, fun rest => rfl⟩
        | some earlier => exact Or.inr fun rest => rfl

theorem takeTypes_untyped (apiVersion kind : Option String) {member : String × Json}
    (untyped : isTypeMember member = false) (rest : List (String × Json)) :
    takeTypes apiVersion kind (member :: rest) =
      ((takeTypes apiVersion kind rest).1, member :: (takeTypes apiVersion kind rest).2) := by
  simp only [isTypeMember, Bool.or_eq_false_iff, decide_eq_false_iff_not] at untyped
  rw [takeTypes_cons, if_neg untyped.1, if_neg untyped.2]

theorem takeTypes_filter (members : List (String × Json)) : ∀ apiVersion kind,
    (takeTypes apiVersion kind members).1 = (takeTypes apiVersion kind (members.filter isTypeMember)).1 ∧
      (takeTypes apiVersion kind members).2.Perm
        ((takeTypes apiVersion kind (members.filter isTypeMember)).2 ++
          members.filter fun member => !isTypeMember member) := by
  -- both searches take the same steps, and where one ends the other ends
  induction members with
  | nil =>
      intro apiVersion kind
      cases apiVersion <;> cases kind <;> exact ⟨rfl, List.Perm.refl _⟩
  | cons member rest ih =>
      intro apiVersion kind
      cases typed : isTypeMember member with
      | true =>
          simp only [List.filter_cons, typed, Bool.not_true, if_true, Bool.false_eq_true, if_false]
          rcases takeTypes_typed apiVersion kind typed with ⟨nextVersion, nextKind, taken⟩ | stopped
          · simpa only [taken] using ih nextVersion nextKind
          · simp only [stopped, true_and]
            exact (List.filter_append_perm isTypeMember rest).symm
      | false =>
          have later := ih apiVersion kind
          simp only [List.filter_cons, typed, takeTypes_untyped _ _ typed, Bool.not_false, if_true,
            Bool.false_eq_true, if_false]
          exact ⟨later.1, (later.2.cons member).trans List.perm_middle.symm⟩

theorem typeBlock_cases {block : List (String × Json)}
    (typed : ∀ member ∈ block, isTypeMember member = true) (distinct : (block.map Prod.fst).Nodup) :
    block = [] ∨ (∃ name value, block = [(name, value)]) ∨
      ∃ firstName first secondName second, block = [(firstName, first), (secondName, second)] ∧
        (firstName = "apiVersion" ∧ secondName = "kind" ∨
          firstName = "kind" ∧ secondName = "apiVersion") := by
  match block with
  | [] => exact Or.inl rfl
  | [(name, value)] => exact Or.inr (Or.inl ⟨name, value, rfl⟩)
  | [(firstName, first), (secondName, second)] =>
      refine Or.inr (Or.inr ⟨firstName, first, secondName, second, rfl, ?_⟩)
      simp only [List.mem_cons, List.not_mem_nil, or_false, forall_eq_or_imp, forall_eq,
        isTypeMember_iff] at typed
      obtain ⟨rfl | rfl, rfl | rfl⟩ := typed
      · simp at distinct
      · exact Or.inl ⟨rfl, rfl⟩
      · exact Or.inr ⟨rfl, rfl⟩
      · simp at distinct
  | first :: second :: third :: rest =>
      -- a third member of the block would bear one of the two names again
      simp only [List.mem_cons, forall_eq_or_imp, isTypeMember_iff] at typed
      simp only [List.map_cons, List.nodup_cons, List.mem_cons, not_or] at distinct
      grind

theorem lost_filter (members : List (String × Json)) :
    lost (members.filter isTypeMember) = lost members := by
  have twice : (members.filter isTypeMember).filter isTypeMember = members.filter isTypeMember := by
    simp [List.filter_filter]
  simp only [lost, twice]

theorem lost_single {member : String × Json} (typed : isTypeMember member = true) :
    lost [member] = [member] := by
  cases text : holdsText member <;> simp [lost, typed, text]

theorem lost_pair {first second : String × Json} (typedFirst : isTypeMember first = true)
    (typedSecond : isTypeMember second = true) :
    lost [first, second] =
      if holdsText first then if holdsText second then [] else [first, second] else [first] := by
  cases textFirst : holdsText first <;> cases textSecond : holdsText second <;>
    simp [lost, typedFirst, typedSecond, textFirst, textSecond]

theorem perm_takeTypes_block {block : List (String × Json)}
    (typed : ∀ member ∈ block, isTypeMember member = true) (distinct : (block.map Prod.fst).Nodup) :
    (lost block ++ (typeMembers (takeTypes none none block).1 ++ (takeTypes none none block).2)).Perm
      block := by
  rcases typeBlock_cases typed distinct with
    rfl | ⟨name, value, rfl⟩ | ⟨firstName, first, secondName, second, rfl, names⟩
  · exact List.Perm.refl _
  · have typedOne := typed (name, value) List.mem_cons_self
    rw [lost_single typedOne]
    cases text : holdsText (name, value) with
    | false => simp [takeTypes_stop _ _ typedOne text, typeMembers]
    | true =>
        obtain ⟨found, rfl⟩ : ∃ found, .text found = value := holdsText_iff.mp text
        rcases isTypeMember_iff.mp typedOne with rfl | rfl
        all_goals exact List.Perm.refl _
  · have typedFirst := typed (firstName, first) List.mem_cons_self
    have typedSecond := typed (secondName, second) (List.mem_cons_of_mem _ List.mem_cons_self)
    rw [lost_pair typedFirst typedSecond]
    cases textFirst : holdsText (firstName, first) with
    | false => simp [takeTypes_stop _ _ typedFirst textFirst, typeMembers]
    | true =>
        obtain ⟨found, rfl⟩ : ∃ found, .text found = first := holdsText_iff.mp textFirst
        cases textSecond : holdsText (secondName, second) with
        | false =>
            have ended := fun apiVersion kind => takeTypes_stop apiVersion kind typedSecond textSecond []
            rcases names with ⟨rfl, rfl⟩ | ⟨rfl, rfl⟩
            all_goals simp [takeTypes_apiVersion, takeTypes_kind, ended, typeMembers]
        | true =>
            obtain ⟨other, rfl⟩ : ∃ other, .text other = second := holdsText_iff.mp textSecond
            rcases names with ⟨rfl, rfl⟩ | ⟨rfl, rfl⟩
            · exact List.Perm.refl _
            · exact List.Perm.swap ..

theorem perm_takeTypes {members : List (String × Json)} (distinct : (members.map Prod.fst).Nodup) :
    (lost members ++ (typeMembers (takeTypes none none members).1 ++ (takeTypes none none members).2)).Perm
      members := by
  obtain ⟨types, others⟩ := takeTypes_filter members none none
  have block := perm_takeTypes_block (fun _ member => List.of_mem_filter member)
    (distinct.sublist (List.filter_sublist.map Prod.fst))
  rw [lost_filter, ← types] at block
  have split := (others.append_left (typeMembers (takeTypes none none members).1)).append_left (lost members)
  have joined := block.append_right (members.filter fun member => !isTypeMember member)
  simp only [List.append_assoc] at joined
  exact split.trans (joined.trans (List.filter_append_perm isTypeMember members))

theorem lost_block_eq_nil_iff {block : List (String × Json)}
    (typed : ∀ member ∈ block, isTypeMember member = true) (distinct : (block.map Prod.fst).Nodup) :
    lost block = [] ↔ block = [] ∨
      ∃ version kind, ("apiVersion", .text version) ∈ block ∧ ("kind", .text kind) ∈ block := by
  rcases typeBlock_cases typed distinct with
    rfl | ⟨name, value, rfl⟩ | ⟨firstName, first, secondName, second, rfl, names⟩
  · simp [lost]
  · rw [lost_single (typed _ List.mem_cons_self)]
    suffices ¬∃ version kind, ("apiVersion", Json.text version) ∈ [(name, value)] ∧
        ("kind", Json.text kind) ∈ [(name, value)] by simpa using this
    rintro ⟨version, kind, isVersion, isKind⟩
    cases List.mem_singleton.mp isVersion
    exact absurd (List.mem_singleton.mp isKind) (by simp)
  · have typedSecond := typed _ (List.mem_cons_of_mem _ List.mem_cons_self)
    have bothTexts : lost [(firstName, first), (secondName, second)] = [] ↔
        (∃ found, .text found = first) ∧ ∃ found, .text found = second := by
      rw [lost_pair (typed _ List.mem_cons_self) typedSecond]
      rw [← @holdsText_iff (firstName, first), ← @holdsText_iff (secondName, second)]
      split <;> simp_all
    rw [bothTexts]
    rcases names with ⟨rfl, rfl⟩ | ⟨rfl, rfl⟩
    · simp
    · simp [and_comm]

theorem lost_eq_nil_iff {members : List (String × Json)} (distinct : (members.map Prod.fst).Nodup) :
    lost members = [] ↔
      (∀ member ∈ members, member.1 ≠ "apiVersion" ∧ member.1 ≠ "kind") ∨
        ∃ version kind, ("apiVersion", .text version) ∈ members ∧ ("kind", .text kind) ∈ members := by
  have absent : (∀ member ∈ members, member.1 ≠ "apiVersion" ∧ member.1 ≠ "kind") ↔
      members.filter isTypeMember = [] := by
    simp [List.filter_eq_nil_iff, isTypeMember]
  have version : ∀ value, ("apiVersion", value) ∈ members ↔
      ("apiVersion", value) ∈ members.filter isTypeMember := by
    simp [List.mem_filter, isTypeMember]
  have kind : ∀ value, ("kind", value) ∈ members ↔ ("kind", value) ∈ members.filter isTypeMember := by
    simp [List.mem_filter, isTypeMember]
  rw [← lost_filter, absent]
  simp only [version, kind]
  exact lost_block_eq_nil_iff (fun _ member => List.of_mem_filter member)
    (distinct.sublist (List.filter_sublist.map Prod.fst))

section Reading

variable {found metadata : Option ObjectMeta} {others : List (String × Json)}
  {rest : List (Option String × Source)} {source : Source}

theorem readMembers_metadata (read : readMembers found ((some "metadata", source) :: rest) =
      .ok (metadata, others)) :
    found = none ∧ ∃ value, ObjectMeta.format.read source = .ok value ∧
      readMembers (some value) rest = .ok (metadata, others) := by
  obtain ⟨_, named, readOn⟩ := Except.bind_eq_ok.mp read
  cases named
  rw [if_pos rfl] at readOn
  cases found with
  | some earlier => simp at readOn
  | none => exact ⟨rfl, Except.bind_eq_ok.mp readOn⟩

theorem readMembers_other {name : Option String} (other : name ≠ some "metadata")
    (read : readMembers found ((name, source) :: rest) = .ok (metadata, others)) :
    ∃ text value values, name = some text ∧ source.value = .ok value ∧
      readMembers found rest = .ok (metadata, values) ∧ others = (text, value) :: values := by
  obtain ⟨text, named, readOn⟩ := Except.bind_eq_ok.mp read
  have written := Source.memberName_eq_ok.mp named
  have isOther : text ≠ "metadata" := fun same => other (written.trans (congrArg some same))
  rw [if_neg isOther] at readOn
  obtain ⟨value, readValue, readOn⟩ := Except.bind_eq_ok.mp readOn
  obtain ⟨⟨_, values⟩, readRest, made⟩ := Except.bind_eq_ok.mp readOn
  cases made
  exact ⟨text, value, values, written, readValue, readRest, rfl⟩

end Reading

theorem readMembers_eq_ok {members : List (Option String × Source)} :
    ∀ {found metadata : Option ObjectMeta} {others : List (String × Json)},
      readMembers found members = .ok (metadata, others) →
        Source.memberValues (members.filter fun member => member.1 ≠ some "metadata") = .ok others ∧
        (∀ source, (some "metadata", source) ∈ members →
          found = none ∧ ∃ read, ObjectMeta.format.read source = .ok read ∧ metadata = some read) ∧
        ((∀ source, (some "metadata", source) ∉ members) → metadata = found) := by
  -- by induction on the members, for any metadata that has been found before them
  induction members with
  | nil =>
      intro found metadata others read
      cases read
      exact ⟨rfl, by simp, fun _ => rfl⟩
  | cons first rest ih =>
      intro found metadata others read
      obtain ⟨name, source⟩ := first
      by_cases isMetadata : name = some "metadata"
      · subst isMetadata
        obtain ⟨rfl, value, readValue, readRest⟩ := readMembers_metadata read
        obtain ⟨values, later, otherwise⟩ := ih readRest
        -- the rest holds no second metadata, or reading would have failed there
        have absent : ∀ source, (some "metadata", source) ∉ rest := fun source member =>
          nomatch (later source member).1
        refine ⟨by simpa using values, ?_, fun none => absurd List.mem_cons_self (none source)⟩
        intro other member
        rcases List.mem_cons.mp member with same | member
        · cases same
          exact ⟨rfl, value, readValue, otherwise absent⟩
        · exact absurd member (absent other)
      · obtain ⟨text, value, values, rfl, readValue, readRest, rfl⟩ := readMembers_other isMetadata read
        obtain ⟨readValues, later, otherwise⟩ := ih readRest
        have inRest : ∀ other, (some "metadata", other) ∈ (some text, source) :: rest ↔
            (some "metadata", other) ∈ rest := by
          intro other
          simp [Ne.symm isMetadata]
        simp only [inRest]
        refine ⟨?_, later, otherwise⟩
        rw [List.filter_cons_of_pos (by simpa using isMetadata)]
        exact Except.bind_eq_ok.mpr ⟨text, rfl, Except.bind_eq_ok.mpr
          ⟨value, readValue, Except.bind_eq_ok.mpr ⟨values, readValues, rfl⟩⟩⟩

theorem read_eq_ok {members : List (Option String × Source)} {close : Option Break} {manifest : Manifest}
    (read : Manifest.format.read (.record members close) = .ok manifest) :
    ∃ metadata others, readMembers none members = .ok (metadata, others) ∧
      manifest =
        { types := (takeTypes none none others).1
          metadata := metadata.getD default
          data := Value.ofJson (.record (takeTypes none none others).2) } := by
  obtain ⟨⟨metadata, others⟩, readAll, readOn⟩ := Except.bind_eq_ok.mp read
  obtain ⟨_, _, made⟩ := Except.bind_eq_ok.mp readOn
  cases made
  exact ⟨metadata, others, readAll, rfl⟩

theorem canonicalMembers_typeMembers (types : Option TypeBlock) :
    Json.canonicalMembers (typeMembers types) = typeMembers types := by
  cases types <;> rfl

theorem write_perm (types : Option TypeBlock) (metadata : ObjectMeta) {rest : List (String × Json)}
    (distinct : (rest.map Prod.fst).Nodup) :
    ∃ document written, ObjectMeta.format.write metadata = .ok document ∧
      Manifest.format.write { types, metadata, data := Value.ofJson (.record rest) } = .ok (.record written) ∧
      written.Perm (("metadata", document) :: Json.canonicalMembers (typeMembers types ++ rest)) := by
  obtain ⟨document, wrote⟩ := ObjectMeta.format_total metadata
  refine ⟨document, _, wrote, Except.bind_eq_ok.mpr ⟨document, wrote, rfl⟩, ?_⟩
  have data : (Table.ofList (Json.canonicalMembers rest)).entries.Perm (Json.canonicalMembers rest) :=
    Table.perm_entries_ofList (by rwa [Json.map_fst_canonicalMembers])
  rw [Json.canonicalMembers_append, canonicalMembers_typeMembers]
  exact List.perm_middle.trans ((data.append_left _).cons _)

/-- Every object that can be read can be written again, with the metadata that was read for it and with
all its other members as they were, those aside that are lost of a type block that is not whole. -/
theorem write_read_members {members : List (Option String × Source)} {close : Option Break}
    {manifest : Manifest} (distinct : (members.map Prod.fst).Nodup)
    (read : Manifest.format.read (.record members close) = .ok manifest) :
    ∃ others metadata written,
      Source.memberValues (members.filter fun member => member.1 ≠ some "metadata") = .ok others ∧
      (∀ source, (some "metadata", source) ∈ members →
        ObjectMeta.format.read source = .ok manifest.metadata) ∧
      ((∀ source, (some "metadata", source) ∉ members) → manifest.metadata = default) ∧
      ObjectMeta.format.write manifest.metadata = .ok metadata ∧
      Manifest.format.write manifest = .ok (.record written) ∧
      (∃ kept, (lost others ++ kept).Perm others ∧
        written.Perm (("metadata", metadata) :: Json.canonicalMembers kept)) ∧
      (written.Perm (("metadata", metadata) :: Json.canonicalMembers others) ↔
        (∀ member ∈ others, member.1 ≠ "apiVersion" ∧ member.1 ≠ "kind") ∨
          ∃ version kind, ("apiVersion", .text version) ∈ others ∧ ("kind", .text kind) ∈ others) := by
  obtain ⟨found, others, readAll, rfl⟩ := read_eq_ok read
  obtain ⟨values, present, missing⟩ := readMembers_eq_ok readAll
  have names : (others.map Prod.fst).Nodup :=
    Source.nodup_of_memberValues values (distinct.sublist (List.filter_sublist.map Prod.fst))
  have parts := perm_takeTypes names
  -- the names of the data are distinct too, so that no entry of their table is replaced
  have restNames : ((takeTypes none none others).2.map Prod.fst).Nodup := by
    refine ((parts.map Prod.fst).nodup_iff.mpr names).sublist (List.Sublist.map Prod.fst ?_)
    exact (List.sublist_append_right _ _).trans (List.sublist_append_right _ _)
  obtain ⟨metadata, written, wroteMetadata, wrote, perm⟩ :=
    write_perm (takeTypes none none others).1 (found.getD default) restNames
  refine ⟨others, metadata, written, values, ?_, ?_, wroteMetadata, wrote, ⟨_, parts, perm⟩, ?_⟩
  · intro source member
    obtain ⟨_, value, readValue, rfl⟩ := present source member
    exact readValue
  · intro none
    rw [missing none]
    rfl
  · rw [← lost_eq_nil_iff names]
    constructor
    · intro whole
      have written := (perm.symm.trans whole).length_eq
      have all := parts.length_eq
      simp only [Json.canonicalMembers_eq_map, List.length_cons, List.length_map, List.length_append]
        at written all
      exact List.length_eq_zero_iff.mp (by omega)
    · intro nothing
      rw [nothing] at parts
      exact perm.trans ((Json.perm_canonicalMembers parts).cons _)

def numberedPod : List (String × Json) :=
  [("spec", .record [("b", .null), ("a", .bool true)]), ("apiVersion", .number (.integer 1)),
    ("metadata", .record [("name", .text "web")]), ("kind", .text "Pod")]

theorem numberedPod_write_read :
    ((Json.memberSources numberedPod).map Prod.fst).Nodup ∧
      ∃ manifest written, Manifest.format.read (.record (Json.memberSources numberedPod) none) = .ok manifest ∧
        Manifest.format.write manifest = .ok (.record written) ∧
        written.Perm [("metadata", .record [("name", .text "web")]),
          ("spec", .record [("a", .bool true), ("b", .null)]), ("kind", .text "Pod")] := by
  have distinct : ((Json.memberSources numberedPod).map Prod.fst).Nodup := by decide
  let manifest : Manifest :=
    { types := none
      metadata := { name := some "web" }
      data := Value.ofJson
        (.record [("spec", .record [("b", .null), ("a", .bool true)]), ("kind", .text "Pod")]) }
  have read : Manifest.format.read (.record (Json.memberSources numberedPod) none) = .ok manifest := rfl
  obtain ⟨others, metadata, written, values, _, _, wroteMetadata, wrote, ⟨kept, parts, perm⟩, _⟩ :=
    write_read_members distinct read
  cases values
  cases wroteMetadata
  -- of the members besides the metadata only the API version is lost
  have keptTwo : kept.Perm [("spec", .record [("b", .null), ("a", .bool true)]), ("kind", .text "Pod")] :=
    (List.perm_cons ("apiVersion", Json.number (.integer 1))).mp (parts.trans (List.Perm.swap ..))
  exact ⟨distinct, manifest, written, read, wrote,
    perm.trans ((Json.perm_canonicalMembers keptTwo).cons _)⟩

def loneKind : List (String × Json) :=
  [("kind", .text "Pod"), ("metadata", .record [("name", .text "web")]),
    ("spec", .record [("a", .number (.integer 1))])]

/-- What is read of such an object is written back without the kind. -/
theorem loneKind_lost :
    (loneKind.map Prod.fst).Nodup ∧
      ∃ manifest metadata written, Manifest.format.readJson (.record loneKind) = .ok manifest ∧
        ObjectMeta.format.write manifest.metadata = .ok metadata ∧
        Manifest.format.write manifest = .ok (.record written) ∧
        written.map Prod.fst = ["metadata", "spec"] ∧
        ¬written.Perm (("metadata", metadata) ::
          Json.canonicalMembers (loneKind.filter fun member => member.1 ≠ "metadata")) := by
  let manifest : Manifest :=
    { types := none
      metadata := { name := some "web" }
      data := Value.ofJson (.record [("spec", .record [("a", .number (.integer 1))])]) }
  refine ⟨by decide, manifest, _, _, rfl, rfl, rfl, rfl, ?_⟩
  intro perm
  exact absurd perm.length_eq (by decide)

end Manifest

end ApiDiscovery
