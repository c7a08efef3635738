import ApiDiscovery.Decimal.Double
import ApiDiscovery.Table

/-!
JSON documents. A `Json` keeps the members of a record in the order they are written in, and may
repeat a name; a `Value` is what a document means where order and repetition mean nothing: every record
in it is sorted by name and the last of several members with one name has been kept.
-/

namespace ApiDiscovery

inductive Number where
  | integer (value : Int)
  | double (value : Double)
  deriving DecidableEq, Repr

inductive Json where
  | null
  | bool (value : Bool)
  | number (value : Number)
  | text (value : String)
  | list (items : List Json)
  | record (members : List (String × Json))
  deriving Repr, Inhabited

namespace Json

mutual

def decideEq : (left right : Json) → Decidable (left = right)
  | .null, .null => isTrue rfl
  | .bool left, .bool right =>
      if same : left = right then isTrue (same ▸ rfl) else isFalse (by simpa using same)
  | .number left, .number right =>
      if same : left = right then isTrue (same ▸ rfl) else isFalse (by simpa using same)
  | .text left, .text right =>
      if same : left = right then isTrue (same ▸ rfl) else isFalse (by simpa using same)
  | .list left, .list right =>
      match decideItemsEq left right with
      | isTrue same => isTrue (same ▸ rfl)
      | isFalse different => isFalse (by simpa using different)
  | .record left, .record right =>
      match decideMembersEq left right with
      | isTrue same => isTrue (same ▸ rfl)
      | isFalse different => isFalse (by simpa using different)
  | .null, .bool _ | .null, .number _ | .null, .text _ | .null, .list _ | .null, .record _
  | .bool _, .null | .bool _, .number _ | .bool _, .text _ | .bool _, .list _ | .bool _, .record _
  | .number _, .null | .number _, .bool _ | .number _, .text _ | .number _, .list _
  | .number _, .record _
  | .text _, .null | .text _, .bool _ | .text _, .number _ | .text _, .list _ | .text _, .record _
  | .list _, .null | .list _, .bool _ | .list _, .number _ | .list _, .text _ | .list _, .record _
  | .record _, .null | .record _, .bool _ | .record _, .number _ | .record _, .text _
  | .record _, .list _ => isFalse nofun

def decideItemsEq : (left right : List Json) → Decidable (left = right)
  | [], [] => isTrue rfl
  | [], _ :: _ => isFalse nofun
  | _ :: _, [] => isFalse nofun
  | left :: lefts, right :: rights =>
      match decideEq left right, decideItemsEq lefts rights with
      | isTrue first, isTrue rest => isTrue (by rw [first, rest])
      | isFalse different, _ => isFalse (by simp_all)
      | _, isFalse different => isFalse (by simp_all)

def decideMembersEq : (left right : List (String × Json)) → Decidable (left = right)
  | [], [] => isTrue rfl
  | [], _ :: _ => isFalse nofun
  | _ :: _, [] => isFalse nofun
  | (leftName, left) :: lefts, (rightName, right) :: rights =>
      if names : leftName = rightName then
        match decideEq left right, decideMembersEq lefts rights with
        | isTrue first, isTrue rest => isTrue (by rw [names, first, rest])
        | isFalse different, _ => isFalse (by simp_all)
        | _, isFalse different => isFalse (by simp_all)
      else isFalse (by simp_all)

end

instance : DecidableEq Json := decideEq

mutual

def canonical : Json → Json
  | .list items => .list (canonicalItems items)
  | .record members => .record (Table.ofList (canonicalMembers members)).entries
  | .null => .null
  | .bool value => .bool value
  | .number value => .number value
  | .text value => .text value

def canonicalItems : List Json → List Json
  | [] => []
  | item :: rest => item.canonical :: canonicalItems rest

def canonicalMembers : List (String × Json) → List (String × Json)
  | [] => []
  | (name, value) :: rest => (name, value.canonical) :: canonicalMembers rest

end

mutual

def isCanonical : Json → Bool
  | .list items => itemsCanonical items
  | .record members => decide (Ascending members) && membersCanonical members
  | .null | .bool _ | .number _ | .text _ => true

def itemsCanonical : List Json → Bool
  | [] => true
  | item :: rest => item.isCanonical && itemsCanonical rest

def membersCanonical : List (String × Json) → Bool
  | [] => true
  | (_, value) :: rest => value.isCanonical && membersCanonical rest

end

theorem membersCanonical_iff {members : List (String × Json)} :
    membersCanonical members = true ↔ ∀ entry ∈ members, entry.2.isCanonical = true := by
  induction members with
  | nil => simp [membersCanonical]
  | cons first rest ih => simp [membersCanonical, ih]

mutual

theorem isCanonical_canonical : (document : Json) → document.canonical.isCanonical = true
  | .list items => itemsCanonical_canonicalItems items
  | .record members => by
      simp only [canonical, isCanonical, Bool.and_eq_true, decide_eq_true_eq]
      refine ⟨Table.ascending _, membersCanonical_iff.mpr fun entry member => ?_⟩
      exact membersCanonical_iff.mp (membersCanonical_canonicalMembers members) entry
        (Table.mem_of_mem_entries_ofList member)
  | .null | .bool _ | .number _ | .text _ => rfl

theorem itemsCanonical_canonicalItems :
    (items : List Json) → itemsCanonical (canonicalItems items) = true
  | [] => rfl
  | item :: rest => by
      simp [canonicalItems, itemsCanonical, isCanonical_canonical item,
        itemsCanonical_canonicalItems rest]

theorem membersCanonical_canonicalMembers :
    (members : List (String × Json)) → membersCanonical (canonicalMembers members) = true
  | [] => rfl
  | (_, value) :: rest => by
      simp [canonicalMembers, membersCanonical, isCanonical_canonical value,
        membersCanonical_canonicalMembers rest]

end

mutual

theorem canonical_of_isCanonical : (document : Json) → document.isCanonical = true →
    document.canonical = document
  | .list items, sorted => congrArg Json.list (canonicalItems_of_itemsCanonical items sorted)
  | .record members, sorted => by
      simp only [isCanonical, Bool.and_eq_true, decide_eq_true_eq] at sorted
      rw [canonical, canonicalMembers_of_membersCanonical members sorted.2]
      exact congrArg (fun table : Table Json => Json.record table.entries)
        (Table.ofList_entries { entries := members, ascending := sorted.1 })
  | .null, _ | .bool _, _ | .number _, _ | .text _, _ => rfl

theorem canonicalItems_of_itemsCanonical : (items : List Json) → itemsCanonical items = true →
    canonicalItems items = items
  | [], _ => rfl
  | item :: rest, sorted => by
      simp only [itemsCanonical, Bool.and_eq_true] at sorted
      rw [canonicalItems, canonical_of_isCanonical item sorted.1,
        canonicalItems_of_itemsCanonical rest sorted.2]

theorem canonicalMembers_of_membersCanonical : (members : List (String × Json)) →
    membersCanonical members = true → canonicalMembers members = members
  | [], _ => rfl
  | (_, value) :: rest, sorted => by
      simp only [membersCanonical, Bool.and_eq_true] at sorted
      rw [canonicalMembers, canonical_of_isCanonical value sorted.1,
        canonicalMembers_of_membersCanonical rest sorted.2]

end

end Json

/-- A document up to the order and the repetition of members. -/
structure Value where
  json : Json
  canonical : json.isCanonical = true

namespace Value

def ofJson (document : Json) : Value :=
  { json := document.canonical, canonical := document.isCanonical_canonical }

def null : Value := { json := .null, canonical := rfl }

instance : Inhabited Value := ⟨null⟩

theorem json_injective {left right : Value} (same : left.json = right.json) : left = right := by
  cases left
  cases right
  simp_all

theorem ofJson_json (value : Value) : ofJson value.json = value :=
  json_injective (Json.canonical_of_isCanonical value.json value.canonical)

instance : DecidableEq Value := fun left right =>
  if same : left.json = right.json then isTrue (json_injective same)
  else isFalse fun equal => same (equal ▸ rfl)

end Value

end ApiDiscovery
