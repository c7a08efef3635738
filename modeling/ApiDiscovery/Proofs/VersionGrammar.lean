import ApiDiscovery.Proofs.WrittenVersion

/-!
The grammar of written group versions. The texts that are read are those that are not empty and hold at most
one slash, not at their end; what is written and read again comes back if group and version are one segment
each.
-/

namespace ApiDiscovery

namespace GroupVersion

structure Grammatical (text : String) : Prop where
  filled : text ≠ ""
  single : text.toList.count '/' ≤ 1
  closed : text.toList.getLast? ≠ some '/'

/-- A text falls into a group and a version at its first slash; without one, all of it is the version. -/
inductive Divides (text : String) : GroupVersion → Prop where
  | core : '/' ∉ text.toList → Divides text { group := "", version := text }
  | named {group version : String} : text = group ++ "/" ++ version → '/' ∉ group.toList →
      Divides text { group, version }

theorem grammatical_slashless {text : String} (slashless : '/' ∉ text.toList) :
    Grammatical text ↔ text ≠ "" := by
  refine ⟨Grammatical.filled, fun filled => ⟨filled, ?_, ?_⟩⟩
  · rw [List.count_eq_zero.mpr slashless]
    exact Nat.zero_le 1
  · intro last
    exact slashless (List.mem_of_getLast? last)

theorem grammatical_slash {text : String} {group version : List Char}
    (split : text.toList = group ++ '/' :: version) (first : '/' ∉ group) :
    Grammatical text ↔ version ≠ [] ∧ '/' ∉ version := by
  have slashes : text.toList.count '/' = version.count '/' + 1 := by
    rw [split, List.count_append, List.count_eq_zero.mpr first, List.count_cons_self, Nat.zero_add]
  have last : text.toList.getLast? = some (version.getLast?.getD '/') := by
    rw [split, List.getLast?_append, List.getLast?_cons, Option.some_or]
  constructor
  · intro grammatical
    have single := grammatical.single
    have closed := grammatical.closed
    rw [slashes] at single
    rw [last] at closed
    refine ⟨?_, List.count_eq_zero.mp (by omega)⟩
    rintro rfl
    exact closed rfl
  · rintro ⟨filled, whole⟩
    refine { filled := ?_, single := ?_, closed := ?_ }
    · rintro rfl
      simp at split
    · rw [slashes, List.count_eq_zero.mpr whole]
    · -- the last character is one of the version, which has no slash
      rw [last, List.getLast?_eq_some_getLast filled, Option.getD_some, Ne, Option.some.injEq]
      intro slash
      exact whole (slash ▸ List.getLast_mem filled)

theorem parse_of_grammatical {text : String} (grammatical : Grammatical text) :
    ∃ groupVersion, parse text = .ok groupVersion ∧ Divides text groupVersion := by
  by_cases slashed : '/' ∈ text.toList
  · obtain ⟨group, version, split, first⟩ := List.eq_append_cons_of_mem slashed
    obtain ⟨filled, whole⟩ := (grammatical_slash split first).mp grammatical
    have sound : ¬(version.isEmpty || version.any isSlash) = true := by
      rw [Bool.or_eq_true, not_or, any_isSlash, List.isEmpty_iff]
      exact ⟨filled, whole⟩
    refine ⟨_, (parse_slash split first).trans (if_neg sound), .named ?_ (by simpa using first)⟩
    rw [← String.toList_inj, toList_slash, String.toList_ofList, String.toList_ofList, split]
  · have filled := (grammatical_slashless slashed).mp grammatical
    exact ⟨_, (parse_slashless slashed).trans (if_neg filled), .core slashed⟩

theorem parse_of_not_grammatical {text : String} (broken : ¬Grammatical text) :
    parse text = .error { text } := by
  by_cases slashed : '/' ∈ text.toList
  · obtain ⟨group, version, split, first⟩ := List.eq_append_cons_of_mem slashed
    rw [grammatical_slash split first, not_and_or, not_not, not_not] at broken
    rw [parse_slash split first, if_pos]
    rwa [Bool.or_eq_true, any_isSlash, List.isEmpty_iff]
  · rw [grammatical_slashless slashed, not_not] at broken
    rw [parse_slashless slashed, if_pos broken]

theorem apiVersion_of_parse {text : String} {groupVersion : GroupVersion}
    (read : parse text = .ok groupVersion) :
    text = if text.toList.head? = some '/' then "/" ++ groupVersion.apiVersion else groupVersion.apiVersion := by
  have grammatical : Grammatical text := by
    by_contra broken
    cases (parse_of_not_grammatical broken).symm.trans read
  obtain ⟨found, parsed, divides⟩ := parse_of_grammatical grammatical
  cases parsed.symm.trans read
  cases divides with
  | core slashless =>
      rw [apiVersion_core, if_neg]
      intro front
      exact slashless (List.mem_of_head? front)
  | @named group version written first =>
      have characters : text.toList = group.toList ++ '/' :: version.toList := by
        rw [written, toList_slash]
      by_cases core : group = ""
      · subst core
        rw [apiVersion_core, if_pos (by rw [characters]; rfl), written]
        rfl
      · rw [apiVersion_named core, if_neg, written]
        obtain ⟨character, rest, spelled⟩ :=
          List.exists_cons_of_ne_nil (mt String.toList_eq_nil_iff.mp core)
        rw [characters, spelled]
        rintro ⟨⟩
        exact first (spelled ▸ List.mem_cons_self)

theorem parse_apiVersion_iff {groupVersion : GroupVersion} :
    parse groupVersion.apiVersion = .ok groupVersion ↔ groupVersion.Separable :=
  ⟨separable_of_parse, parse_apiVersion⟩

theorem eq_of_apiVersion_eq {left right : GroupVersion} (leftWhole : '/' ∉ left.version.toList)
    (rightWhole : '/' ∉ right.version.toList) (same : left.apiVersion = right.apiVersion) :
    left = right := by
  rcases apiVersion_eq_iff.mp same with equal | absorbs | absorbs
  · exact equal
  · exact absurd absorbs.slash leftWhole
  · exact absurd absorbs.slash rightWhole

end GroupVersion

theorem GroupVersionKind.ofApiVersion_apiVersion_iff {kind : GroupVersionKind} {name : String} :
    ofApiVersion kind.apiVersion name = .ok { kind with kind := name } ↔ kind.groupVersion.Separable := by
  rw [← GroupVersion.parse_apiVersion_iff, ofApiVersion, Except.map_eq_ok]
  constructor
  · rintro ⟨⟨group, version⟩, read, same⟩
    cases same
    exact read
  · intro read
    exact ⟨_, read, rfl⟩

/-- What is read as a group version, and what survives being written and read again. -/
theorem GroupVersion.grammar_and_round_trips :
    (∀ text, Grammatical text → ∃ groupVersion, parse text = .ok groupVersion ∧ Divides text groupVersion) ∧
    (∀ text, ¬Grammatical text → parse text = .error { text }) ∧
    (∀ text groupVersion, parse text = .ok groupVersion → text =
      if text.toList.head? = some '/' then "/" ++ groupVersion.apiVersion else groupVersion.apiVersion) ∧
    (∀ groupVersion, parse groupVersion.apiVersion = .ok groupVersion ↔
      '/' ∉ groupVersion.group.toList ∧ groupVersion.version ≠ "" ∧ '/' ∉ groupVersion.version.toList) ∧
    (∀ left right : GroupVersion, '/' ∉ left.version.toList → '/' ∉ right.version.toList →
      left.apiVersion = right.apiVersion → left = right) ∧
    ∀ (kind : GroupVersionKind) (name : String),
      GroupVersionKind.ofApiVersion kind.apiVersion name = .ok { kind with kind := name } ↔
        '/' ∉ kind.group.toList ∧ kind.version ≠ "" ∧ '/' ∉ kind.version.toList := by
  have parts : ∀ groupVersion : GroupVersion, groupVersion.Separable ↔
      '/' ∉ groupVersion.group.toList ∧ groupVersion.version ≠ "" ∧ '/' ∉ groupVersion.version.toList :=
    fun groupVersion => ⟨fun separable => ⟨separable.group, separable.versioned, separable.version⟩,
      fun ⟨group, versioned, version⟩ => { group, version, versioned }⟩
  refine ⟨fun _ => parse_of_grammatical, fun _ => parse_of_not_grammatical, fun _ _ => apiVersion_of_parse,
    fun groupVersion => parse_apiVersion_iff.trans (parts groupVersion), fun _ _ => eq_of_apiVersion_eq,
    fun kind name => ?_⟩
  exact GroupVersionKind.ofApiVersion_apiVersion_iff.trans (parts kind.groupVersion)

end ApiDiscovery
