import ApiDiscovery.GroupVersion
import Mathlib.Data.List.TakeWhile

/-!
Group versions and their written forms. What is read from a text can be written and read again, as group
and version stay apart in the text.
-/

namespace ApiDiscovery

/-- Whether group and version can be told apart in the written group version. -/
structure GroupVersion.Separable (groupVersion : GroupVersion) : Prop where
  group : '/' ∉ groupVersion.group.toList
  version : '/' ∉ groupVersion.version.toList
  versioned : groupVersion.version ≠ ""

theorem isSlash_eq_false {character : Char} : isSlash character = false ↔ character ≠ '/' := by
  simp [isSlash]

theorem any_isSlash {characters : List Char} : characters.any isSlash = true ↔ '/' ∈ characters := by
  simp [isSlash]

theorem not_isSlash_of_mem {segment : List Char} (whole : '/' ∉ segment) :
    ∀ character ∈ segment, (!isSlash character) = true := by
  intro character member
  rw [Bool.not_eq_true', isSlash_eq_false]
  intro slash
  exact whole (slash ▸ member)

theorem takeWhile_slashless {segment : List Char} (whole : '/' ∉ segment) (rest : List Char) :
    (segment ++ rest).takeWhile (!isSlash ·) = segment ++ rest.takeWhile (!isSlash ·) :=
  List.takeWhile_append_of_pos (not_isSlash_of_mem whole)

theorem takeWhile_slash {segment : List Char} (whole : '/' ∉ segment) (rest : List Char) :
    (segment ++ '/' :: rest).takeWhile (!isSlash ·) = segment := by
  rw [takeWhile_slashless whole, List.takeWhile_cons_of_neg (by decide), List.append_nil]

theorem toList_slash (front back : String) :
    (front ++ "/" ++ back).toList = front.toList ++ '/' :: back.toList := by
  simp [String.toList_append]

theorem isEmpty_toList {text : String} : text.toList.isEmpty = true ↔ text = "" := by
  rw [List.isEmpty_iff, String.toList_eq_nil_iff]

namespace GroupVersion

theorem parse_slash {text : String} {group version : List Char}
    (split : text.toList = group ++ '/' :: version) (first : '/' ∉ group) :
    parse text =
      if version.isEmpty || version.any isSlash then .error { text }
      else .ok { group := String.ofList group, version := String.ofList version } := by
  have front : text.toList.takeWhile (!isSlash ·) = group := by
    rw [split, takeWhile_slash first]
  have back : text.toList.dropWhile (!isSlash ·) = '/' :: version := by
    rw [split, List.dropWhile_append_of_pos (not_isSlash_of_mem first),
      List.dropWhile_cons_of_neg (by decide)]
  simp only [parse, back, front]

theorem parse_slashless {text : String} (slashless : '/' ∉ text.toList) :
    parse text = if text = "" then .error { text } else .ok { group := "", version := text } := by
  have back : text.toList.dropWhile (!isSlash ·) = [] :=
    List.dropWhile_eq_nil_iff.mpr (not_isSlash_of_mem slashless)
  simp only [parse, back, isEmpty_toList]

theorem text_of_parse_error {text : String} {error : GroupVersionError}
    (invalid : parse text = .error error) : error.text = text := by
  by_cases slashed : '/' ∈ text.toList
  · obtain ⟨group, version, split, first⟩ := List.eq_append_cons_of_mem slashed
    rw [parse_slash split first] at invalid
    split at invalid <;> cases invalid
    rfl
  · rw [parse_slashless slashed] at invalid
    split at invalid <;> cases invalid
    rfl

theorem separable_of_parse {text : String} {groupVersion : GroupVersion}
    (read : parse text = .ok groupVersion) : groupVersion.Separable := by
  by_cases slashed : '/' ∈ text.toList
  · obtain ⟨group, version, split, first⟩ := List.eq_append_cons_of_mem slashed
    rw [parse_slash split first] at read
    split at read
    · cases read
    · rename_i sound
      rw [Bool.or_eq_true, not_or, any_isSlash, List.isEmpty_iff] at sound
      cases read
      exact
        { group := by simpa using first
          version := by simpa using sound.2
          versioned := by simpa [← String.toList_eq_nil_iff] using sound.1 }
  · rw [parse_slashless slashed] at read
    split at read
    · cases read
    · rename_i filled
      cases read
      exact { group := by simp, version := slashed, versioned := filled }

theorem apiVersion_core (version : String) : apiVersion { group := "", version } = version := rfl

theorem apiVersion_named {group version : String} (named : group ≠ "") :
    apiVersion { group, version } = group ++ "/" ++ version := if_neg named

theorem parse_apiVersion {groupVersion : GroupVersion} (separable : groupVersion.Separable) :
    parse groupVersion.apiVersion = .ok groupVersion := by
  obtain ⟨group, version⟩ := groupVersion
  have slashless : '/' ∉ version.toList := separable.version
  have versioned : version ≠ "" := separable.versioned
  by_cases core : group = ""
  · subst core
    rw [apiVersion_core, parse_slashless slashless, if_neg versioned]
  · have sound : ¬(version.toList.isEmpty || version.toList.any isSlash) = true := by
      rw [Bool.or_eq_true, not_or, isEmpty_toList, any_isSlash]
      exact ⟨versioned, slashless⟩
    rw [apiVersion_named core, parse_slash (toList_slash group version) separable.group, if_neg sound,
      String.ofList_toList, String.ofList_toList]

theorem separable_of_parse_apiVersion {groupVersion read : GroupVersion}
    (segment : '/' ∉ groupVersion.version.toList) (parsed : parse groupVersion.apiVersion = .ok read) :
    groupVersion.Separable := by
  obtain ⟨group, version⟩ := groupVersion
  by_cases core : group = ""
  · subst core
    rw [apiVersion_core, parse_slashless segment] at parsed
    split at parsed
    · cases parsed
    · rename_i filled
      exact { group := by simp, version := segment, versioned := filled }
  · rw [apiVersion_named core] at parsed
    by_cases slashed : '/' ∈ group.toList
    · -- the first slash is one of the group, so that another one is left for the version
      obtain ⟨front, back, split, first⟩ := List.eq_append_cons_of_mem slashed
      have cut : (group ++ "/" ++ version).toList =
          front ++ '/' :: (back ++ '/' :: version.toList) := by
        rw [toList_slash, split, List.append_assoc, List.cons_append]
      have broken : ((back ++ '/' :: version.toList).isEmpty ||
          (back ++ '/' :: version.toList).any isSlash) = true := by
        rw [Bool.or_eq_true, any_isSlash]
        exact Or.inr (List.mem_append_right _ List.mem_cons_self)
      rw [parse_slash cut first, if_pos broken] at parsed
      cases parsed
    · rw [parse_slash (toList_slash group version) slashed] at parsed
      split at parsed
      · cases parsed
      · rename_i sound
        rw [Bool.or_eq_true, not_or, isEmpty_toList] at sound
        exact { group := slashed, version := segment, versioned := sound.1 }

/-- The left one is written like the right one, but counts the end of its group to the version. -/
def Absorbs (left right : GroupVersion) : Prop :=
  right.group ≠ "" ∧ ∃ taken, right.group = apiVersion { group := left.group, version := taken } ∧
    left.version = taken ++ "/" ++ right.version

theorem Absorbs.slash {left right : GroupVersion} (absorbs : left.Absorbs right) :
    '/' ∈ left.version.toList := by
  obtain ⟨_, taken, _, version⟩ := absorbs
  simp [version, String.toList_append]

theorem Absorbs.apiVersion_eq {left right : GroupVersion} (absorbs : left.Absorbs right) :
    left.apiVersion = right.apiVersion := by
  obtain ⟨group, version⟩ := left
  obtain ⟨named, taken, longer, shorter⟩ := absorbs
  have written : right.apiVersion = right.group ++ "/" ++ right.version := apiVersion_named named
  dsimp only at longer shorter
  rw [written, longer, shorter]
  by_cases core : group = ""
  · rw [core, apiVersion_core, apiVersion_core]
  · rw [apiVersion_named core, apiVersion_named core]
    simp only [String.append_assoc]

theorem eq_or_absorbs_of_longer {left right : GroupVersion} {more : List Char} (named : left.group ≠ "")
    (longer : right.group.toList = left.group.toList ++ more)
    (rest : '/' :: left.version.toList = more ++ '/' :: right.version.toList) :
    left = right ∨ left.Absorbs right := by
  obtain ⟨group, version⟩ := left
  obtain ⟨otherGroup, otherVersion⟩ := right
  dsimp only at named longer rest
  cases more with
  | nil =>
      rw [List.append_nil, String.toList_inj] at longer
      rw [List.nil_append, List.cons.injEq, String.toList_inj] at rest
      exact Or.inl (by rw [longer, rest.2])
  | cons first taken =>
      rw [List.cons_append] at rest
      obtain ⟨rfl, later⟩ := List.cons.inj rest
      refine Or.inr ⟨?_, String.ofList taken, ?_, ?_⟩
      · rintro rfl
        simp at longer
      · rw [apiVersion_named named, ← String.toList_inj, toList_slash, String.toList_ofList]
        exact longer
      · rw [← String.toList_inj, toList_slash, String.toList_ofList]
        exact later

theorem apiVersion_eq_iff {left right : GroupVersion} :
    left.apiVersion = right.apiVersion ↔ left = right ∨ left.Absorbs right ∨ right.Absorbs left := by
  constructor
  · intro same
    obtain ⟨group, version⟩ := left
    obtain ⟨otherGroup, otherVersion⟩ := right
    by_cases core : group = "" <;> by_cases otherCore : otherGroup = ""
    · subst core otherCore
      rw [apiVersion_core, apiVersion_core] at same
      exact Or.inl (by rw [same])
    · subst core
      rw [apiVersion_core, apiVersion_named otherCore] at same
      exact Or.inr (Or.inl ⟨otherCore, otherGroup, rfl, same⟩)
    · subst otherCore
      rw [apiVersion_core, apiVersion_named core] at same
      exact Or.inr (Or.inr ⟨core, group, rfl, same.symm⟩)
    · -- both have a slash between group and version, and one of the two comes first in the text
      rw [apiVersion_named core, apiVersion_named otherCore, ← String.toList_inj, toList_slash,
        toList_slash] at same
      rcases List.append_eq_append_iff.mp same with ⟨more, longer, rest⟩ | ⟨more, longer, rest⟩
      · exact (eq_or_absorbs_of_longer core longer rest).imp_right Or.inl
      · exact (eq_or_absorbs_of_longer otherCore longer rest).imp Eq.symm Or.inr
  · rintro (rfl | absorbs | absorbs)
    · rfl
    · exact absorbs.apiVersion_eq
    · exact absorbs.apiVersion_eq.symm

end GroupVersion

end ApiDiscovery
