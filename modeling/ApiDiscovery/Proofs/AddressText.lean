import ApiDiscovery.Json.Source
import ApiDiscovery.Uri.Grammar
import Mathlib.Data.List.TakeWhile

/-!
Addresses and their texts. What is read as a target holds only characters that are admitted where they stand;
such a target, with a path from the root, can be written and read again. Every address that is read has one,
but for bare authorities and the star.
-/

namespace ApiDiscovery

namespace Target

theorem endsPath_of_isPathCharacter {character : Char} (admitted : isPathCharacter character = true) :
    endsPath character = false := by
  rw [endsPath, Bool.or_eq_false_iff, beq_eq_false_iff_ne, beq_eq_false_iff_ne]
  constructor <;> rintro rfl <;> cases admitted

structure Sound (target : Target) : Prop where
  path : ∀ character ∈ target.path.toList, isPathCharacter character = true
  query : ∀ query ∈ target.query, ∀ character ∈ query.toList, isQueryCharacter character = true

def Rooted (target : Target) : Prop := target.printedPath.toList.head? = some '/'

instance (target : Target) : Decidable target.Rooted :=
  inferInstanceAs (Decidable (target.printedPath.toList.head? = some '/'))

theorem toList_text (target : Target) :
    target.text.toList = target.path.toList ++ target.query.elim [] fun query => '?' :: query.toList := by
  unfold text
  cases target.query <;> simp

/-- How a target comes from the text it was read from. -/
structure ReadFrom (characters : List Char) (target : Target) : Prop where
  begins : beginsWell characters = true
  path : target.path.toList = characters.takeWhile (!endsPath ·)
  unqueried : characters.dropWhile (!endsPath ·) = [] → target.query = none
  sound : target.Sound
  short : Text.byteLength target.text.toList ≤ Uri.maximalLength

theorem readFrom_of_parse {characters : List Char} {target : Target}
    (read : parse characters = .ok target) : ReadFrom characters target := by
  simp only [parse] at read
  split at read
  · cases read
  rename_i notLong
  split at read
  · cases read
  split at read
  · cases read
  rename_i wellBegun allAdmitted
  have begins : beginsWell characters = true := by simpa using wellBegun
  have admitted : ∀ character ∈ (String.ofList (characters.takeWhile (!endsPath ·))).toList,
      isPathCharacter character = true := by
    simpa using allAdmitted
  have shortened : ∀ {front : List Char}, front <+: characters →
      Text.byteLength front ≤ Uri.maximalLength := by
    rintro front ⟨back, whole⟩
    rw [← whole, Text.byteLength_append] at notLong
    omega
  split at read
  · rename_i rest later
    split at read
    · rename_i queried
      cases read
      have query : ∀ character ∈ (String.ofList (rest.takeWhile (· != '#'))).toList,
          isQueryCharacter character = true := by
        simpa using queried
      have kept : characters.takeWhile (!endsPath ·) ++ '?' :: rest.takeWhile (· != '#') <+: characters := by
        obtain ⟨fragment, whole⟩ := List.takeWhile_prefix (l := rest) (· != '#')
        refine ⟨fragment, ?_⟩
        rw [List.append_assoc, List.cons_append, whole, ← later, List.takeWhile_append_dropWhile]
      exact
        { begins
          path := String.toList_ofList
          unqueried := by simp [later]
          sound := { path := admitted, query := by rintro _ ⟨⟩; exact query }
          short := by simpa [toList_text] using shortened kept }
    · cases read
  · cases read
    exact
      { begins
        path := String.toList_ofList
        unqueried := fun _ => rfl
        sound := { path := admitted, query := by rintro _ ⟨⟩ }
        short := by simpa [toList_text] using shortened (List.takeWhile_prefix _) }

theorem rooted_of_slash {target : Target} {rest : List Char} (path : target.path.toList = '/' :: rest) :
    target.Rooted := by
  have filled : target.path ≠ "" := by
    rintro empty
    simp [empty] at path
  rw [Rooted, printedPath, if_neg filled, path]
  rfl

theorem rooted_of_empty {target : Target} (path : target.path = "") : target.Rooted := by
  rw [Rooted, printedPath, if_pos path]
  rfl

theorem ReadFrom.rooted {characters : List Char} {target : Target} (read : ReadFrom characters target)
    (starless : characters ≠ ['*']) : target.Rooted := by
  have begins := read.begins
  have path := read.path
  unfold beginsWell at begins
  split at begins
  · exact rooted_of_empty (String.toList_eq_nil_iff.mp path)
  · exact absurd rfl starless
  · rename_i first rest _
    rw [Bool.or_eq_true, beq_iff_eq] at begins
    rcases begins with rfl | ends
    · exact rooted_of_slash (path.trans (List.takeWhile_cons_of_pos (by decide)))
    · rw [List.takeWhile_cons_of_neg (by simp [ends])] at path
      exact rooted_of_empty (String.toList_eq_nil_iff.mp path)

theorem parse_text {target : Target} {rest : List Char} (sound : target.Sound)
    (rooted : target.path.toList = '/' :: rest)
    (short : Text.byteLength target.text.toList ≤ Uri.maximalLength) :
    parse target.text.toList = .ok target := by
  have goesOn : ∀ character ∈ target.path.toList, (!endsPath character) = true := by
    intro character member
    rw [endsPath_of_isPathCharacter (sound.path character member)]
    rfl
  have begins : beginsWell target.text.toList = true := by
    rw [toList_text, rooted]
    rfl
  have admitted : target.path.toList.all isPathCharacter = true := List.all_eq_true.mpr sound.path
  obtain ⟨path, query⟩ := target
  cases query with
  | none =>
      have front : (text ⟨path, none⟩).toList.takeWhile (!endsPath ·) = path.toList :=
        List.takeWhile_eq_self_iff.mpr goesOn
      have back : (text ⟨path, none⟩).toList.dropWhile (!endsPath ·) = [] :=
        List.dropWhile_eq_nil_iff.mpr goesOn
      simp [parse, front, back, begins, admitted, Nat.not_lt.mpr short]
  | some query =>
      have split : (text ⟨path, some query⟩).toList = path.toList ++ '?' :: query.toList := toList_text _
      have front : (text ⟨path, some query⟩).toList.takeWhile (!endsPath ·) = path.toList := by
        rw [split, List.takeWhile_append_of_pos goesOn, List.takeWhile_cons_of_neg (by decide),
          List.append_nil]
      have back : (text ⟨path, some query⟩).toList.dropWhile (!endsPath ·) = '?' :: query.toList := by
        rw [split, List.dropWhile_append_of_pos goesOn, List.dropWhile_cons_of_neg (by decide)]
      have queried : query.toList.all isQueryCharacter = true :=
        List.all_eq_true.mpr (sound.query query rfl)
      -- no character of a query begins a fragment
      have whole : query.toList.takeWhile (· != '#') = query.toList := by
        rw [List.takeWhile_eq_self_iff]
        intro character member
        rw [bne_iff_ne]
        rintro rfl
        cases sound.query query rfl _ member
      simp [parse, front, back, begins, admitted, queried, whole, Nat.not_lt.mpr short]

end Target

namespace Uri

/-- Whether an address has a place for the paths of requests: an admitted path from the root. -/
def Anchored (uri : Uri) : Prop := ∃ target, uri.target? = some target ∧ target.Sound ∧ target.Rooted

def star : Uri := .path { path := "*", query := none }

theorem parseFull_cases {characters : List Char} {uri : Uri} (read : parseFull characters = .ok uri) :
    (∃ name, uri = .authority name) ∨ uri.Anchored := by
  obtain ⟨scheme?, _, read⟩ := Except.bind_eq_ok.mp read
  cases scheme? with
  | none =>
      obtain ⟨_, _, read⟩ := Except.bind_eq_ok.mp read
      split at read
      · cases read
      · cases read
        exact Or.inl ⟨_, rfl⟩
  | some schemed =>
      obtain ⟨scheme, rest⟩ := schemed
      dsimp only at read
      split at read
      · cases read
      obtain ⟨_, _, read⟩ := Except.bind_eq_ok.mp read
      split at read
      · cases read
      obtain ⟨target, parsed, read⟩ := Except.bind_eq_ok.mp read
      cases read
      -- what is left begins with an end of the authority, and a star is none
      have starless : rest.dropWhile (!Authority.isEnd ·) ≠ ['*'] := by
        intro starred
        have ends := List.head?_dropWhile_not (!Authority.isEnd ·) rest
        rw [starred] at ends
        cases ends
      have readFrom := Target.readFrom_of_parse parsed
      exact Or.inr ⟨target, rfl, readFrom.sound, readFrom.rooted starless⟩

theorem parse_cases {text : String} {uri : Uri} (read : parse text = .ok uri) :
    (∃ name, uri = .authority name) ∨ uri = star ∨ uri.Anchored := by
  unfold parse at read
  dsimp only at read
  split at read
  · cases read
  split at read
  · cases read
  · cases read
    exact Or.inr (Or.inl rfl)
  · cases read
  · cases read
  · rename_i rest slashed
    obtain ⟨target, parsed, rfl⟩ := Except.map_eq_ok.mp read
    have readFrom := Target.readFrom_of_parse parsed
    exact Or.inr (Or.inr ⟨target, rfl, readFrom.sound, readFrom.rooted (by simp [slashed])⟩)
  · exact (parseFull_cases read).imp_right Or.inr

theorem not_anchored_authority (name : String) : ¬(authority name).Anchored := by
  rintro ⟨_, ⟨⟩, _⟩

theorem not_anchored_star : ¬star.Anchored := by
  rintro ⟨_, ⟨⟩, _, rooted⟩
  exact absurd rooted (by decide)

theorem not_anchored_iff {text : String} {uri : Uri} (read : parse text = .ok uri) :
    ¬uri.Anchored ↔ (∃ name, uri = .authority name) ∨ uri = star := by
  constructor
  · intro unanchored
    rcases parse_cases read with bare | starred | anchored
    · exact Or.inl bare
    · exact Or.inr starred
    · exact absurd anchored unanchored
  · rintro (⟨name, rfl⟩ | rfl)
    · exact not_anchored_authority name
    · exact not_anchored_star

theorem anchored_of_parse {text : String} {uri : Uri} (read : parse text = .ok uri)
    (placed : uri.scheme?.isSome ∨ uri.printedPath.toList.head? = some '/') : uri.Anchored := by
  rcases parse_cases read with ⟨name, rfl⟩ | rfl | anchored
  · rcases placed with schemed | rooted
    · cases schemed
    · cases rooted
  · rcases placed with schemed | rooted
    · cases schemed
    · exact absurd rooted (by decide)
  · exact anchored

end Uri

end ApiDiscovery
