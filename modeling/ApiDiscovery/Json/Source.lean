import ApiDiscovery.Json.Basic

/-!
A JSON text as it is found, faults included. Which fault a reader reports depends on what it asks of
the text: a value that is read must be sound in every respect, a value that is skipped only in its
grammar. So a `Source` keeps each fault at the place where it is met, and `Source.value` and
`Source.skip` go through the text in reading order and report the first fault that concerns them.
-/

namespace ApiDiscovery

namespace Except

variable {ε φ α β : Type}

theorem bind_eq_ok {first : Except ε α} {next : α → Except ε β} {result : β} :
    first >>= next = .ok result ↔ ∃ value, first = .ok value ∧ next value = .ok result := by
  cases first with
  | error fault => exact ⟨nofun, nofun⟩
  | ok value => exact ⟨fun made => ⟨value, rfl, made⟩, fun ⟨_, same, made⟩ => by cases same; exact made⟩

theorem map_eq_ok {map : α → β} {first : Except ε α} {result : β} :
    map <$> first = .ok result ↔ ∃ value, first = .ok value ∧ map value = result := by
  cases first with
  | error fault => exact ⟨nofun, nofun⟩
  | ok value =>
      exact ⟨fun made => ⟨value, rfl, by cases made; rfl⟩, fun ⟨_, same, made⟩ => by
        cases same; exact congrArg Except.ok made⟩

theorem mapError_eq_ok {wrap : ε → φ} {first : Except ε α} {result : α} :
    first.mapError wrap = .ok result ↔ first = .ok result := by
  cases first with
  | error fault => exact ⟨nofun, nofun⟩
  | ok value => exact ⟨fun made => by cases made; rfl, fun made => by cases made; rfl⟩

end Except

inductive Fault where
  | ended
  | malformed
  | mismatch
  deriving DecidableEq, Repr, Inhabited

instance {α : Type} [DecidableEq α] : DecidableEq (Except Fault α)
  | .ok left, .ok right =>
      if same : left = right then isTrue (same ▸ rfl) else isFalse (by simpa using same)
  | .error left, .error right =>
      if same : left = right then isTrue (same ▸ rfl) else isFalse (by simpa using same)
  | .ok _, .error _ => isFalse nofun
  | .error _, .ok _ => isFalse nofun

/-- A place where the text breaks off: the fault for one who reads it and for one who skips it. -/
structure Break where
  reading : Fault
  skipping : Fault
  deriving DecidableEq, Repr

def Break.plain (fault : Fault) : Break := { reading := fault, skipping := fault }

/-- A value as it stands in a text. -/
inductive Source where
  | null
  | bool (value : Bool)
  /-- A numeral; none if its value is beyond the finite doubles. -/
  | number (value : Option Number)
  /-- A text; none if it holds a half of a surrogate pair alone. -/
  | text (value : Option String)
  | list (items : List Source) (close : Option Break)
  | record (members : List (Option String × Source)) (close : Option Break)
  /-- A container nested too deeply to be read; the fault met in skipping it, if any. -/
  | deep (fault : Option Fault)
  | broken (place : Break)
  deriving Repr, Inhabited

namespace Source

def skipClose : Option Break → Except Fault Unit
  | none => .ok ()
  | some place => .error place.skipping

def readClose : Option Break → Except Fault Unit
  | none => .ok ()
  | some place => .error place.reading

mutual

def skip : Source → Except Fault Unit
  | .null | .bool _ | .number _ | .text _ => .ok ()
  | .list items close => do
      skipItems items
      skipClose close
  | .record members close => do
      skipMembers members
      skipClose close
  | .deep none => .ok ()
  | .deep (some fault) => .error fault
  | .broken place => .error place.skipping

def skipItems : List Source → Except Fault Unit
  | [] => .ok ()
  | item :: rest => do
      item.skip
      skipItems rest

def skipMembers : List (Option String × Source) → Except Fault Unit
  | [] => .ok ()
  | (_, value) :: rest => do
      value.skip
      skipMembers rest

end

def memberName : Option String → Except Fault String
  | some name => .ok name
  | none => .error .malformed

theorem memberName_eq_ok {name : Option String} {text : String} :
    memberName name = .ok text ↔ name = some text := by
  cases name <;> simp [memberName]

mutual

def value : Source → Except Fault Json
  | .null => .ok .null
  | .bool value => .ok (.bool value)
  | .number (some value) => .ok (.number value)
  | .text (some value) => .ok (.text value)
  | .list items close => do
      let values ← itemValues items
      readClose close
      return .list values
  | .record members close => do
      let values ← memberValues members
      readClose close
      return .record values
  | .number none | .text none | .deep _ => .error .malformed
  | .broken place => .error place.reading

def itemValues : List Source → Except Fault (List Json)
  | [] => .ok []
  | item :: rest => do
      let value ← item.value
      let values ← itemValues rest
      return value :: values

def memberValues : List (Option String × Source) → Except Fault (List (String × Json))
  | [] => .ok []
  | (name, source) :: rest => do
      let name ← memberName name
      let value ← source.value
      let values ← memberValues rest
      return (name, value) :: values

end

/-- The fault of a value that is not of the form asked for. Texts and numerals are read before their
form is judged, containers are judged by their opening bracket. -/
def unexpected : Source → Fault
  | .number none | .text none => .malformed
  | .broken place => place.reading
  | _ => .mismatch

end Source

namespace Json

mutual

def source : Json → Source
  | .null => .null
  | .bool value => .bool value
  | .number value => .number (some value)
  | .text value => .text (some value)
  | .list items => .list (itemSources items) none
  | .record members => .record (memberSources members) none

def itemSources : List Json → List Source
  | [] => []
  | item :: rest => item.source :: itemSources rest

def memberSources : List (String × Json) → List (Option String × Source)
  | [] => []
  | (name, value) :: rest => (some name, value.source) :: memberSources rest

end

theorem memberSources_append (members rest : List (String × Json)) :
    memberSources (members ++ rest) = memberSources members ++ memberSources rest := by
  induction members with
  | nil => rfl
  | cons first others ih => simp [memberSources, ih]

mutual

theorem value_source : (document : Json) → document.source.value = .ok document
  | .null | .bool _ | .number _ | .text _ => rfl
  | .list items => by
      simp [source, Source.value, itemValues_itemSources items, Source.readClose, bind, Except.bind,
        pure, Except.pure]
  | .record members => by
      simp [source, Source.value, memberValues_memberSources members, Source.readClose, bind,
        Except.bind, pure, Except.pure]

theorem itemValues_itemSources :
    (items : List Json) → Source.itemValues (itemSources items) = .ok items
  | [] => rfl
  | item :: rest => by
      simp [itemSources, Source.itemValues, value_source item, itemValues_itemSources rest, bind,
        Except.bind, pure, Except.pure]

theorem memberValues_memberSources :
    (members : List (String × Json)) → Source.memberValues (memberSources members) = .ok members
  | [] => rfl
  | (_, value) :: rest => by
      simp [memberSources, Source.memberValues, Source.memberName, value_source value,
        memberValues_memberSources rest, bind, Except.bind, pure, Except.pure]

end

mutual

theorem skip_source : (document : Json) → document.source.skip = .ok ()
  | .null | .bool _ | .number _ | .text _ => rfl
  | .list items => Except.bind_eq_ok.mpr ⟨(), skipItems_itemSources items, rfl⟩
  | .record members => Except.bind_eq_ok.mpr ⟨(), skipMembers_memberSources members, rfl⟩

theorem skipItems_itemSources : (items : List Json) → Source.skipItems (itemSources items) = .ok ()
  | [] => rfl
  | item :: rest => Except.bind_eq_ok.mpr ⟨(), skip_source item, skipItems_itemSources rest⟩

theorem skipMembers_memberSources :
    (members : List (String × Json)) → Source.skipMembers (memberSources members) = .ok ()
  | [] => rfl
  | (_, value) :: rest => Except.bind_eq_ok.mpr ⟨(), skip_source value, skipMembers_memberSources rest⟩

end

end Json

end ApiDiscovery
