import ApiDiscovery.Format.Basic

/-!
Records with fields of fixed names. One layout, a list of fields, drives both directions: reading puts
each member into the slot of its field and fills the empty slots at the end, writing puts the fields
out in the order of the layout.
-/

namespace ApiDiscovery

structure Field (α : Type) where
  name : String
  read : Source → Except Fault (Option α)
  /-- What a missing member stands for; none if it must not be missing. -/
  absent : Option α
  write : α → Except Fault (Option Json)

namespace Field

variable {α : Type}

def required (name : String) (format : Format α) : Field α where
  name
  read source := some <$> format.read source
  absent := none
  write value := some <$> format.write value

def defaulted (name : String) (format : Format α) (fallback : α) : Field α :=
  { required name format with absent := some fallback }

def lenient (name : String) (format : Format α) (fallback : α) : Field α where
  name
  read
    | .null => .ok none
    | source => some <$> format.read source
  absent := some fallback
  write value := some <$> format.write value

def optional (name : String) (format : Format α) : Field (Option α) where
  name
  read
    | .null => .ok none
    | source => (some ∘ some) <$> format.read source
  absent := some none
  write
    | none => .ok none
    | some value => some <$> format.write value

def fixed (name content : String) : Field Unit where
  name
  read source := do
    let found ← Format.text.read source
    if found = content then .ok (some ()) else .error .mismatch
  absent := some ()
  write _ := .ok (some (.text content))

end Field

/-- The fields of a record in the order they are written in; the index is the type of their values. -/
inductive Layout : Type → Type 1 where
  | done : Layout Unit
  | field {α β : Type} (first : Field α) (rest : Layout β) : Layout (α × β)

inductive Strictness where
  /-- No field may occur twice; a list of the fields' values in layout order is read as well. -/
  | strict
  /-- Of fields with one name the last counts; only records are read. -/
  | lenient
  deriving DecidableEq, Repr

namespace Layout

def Slots : {τ : Type} → Layout τ → Type
  | _, .done => Unit
  | _, .field (α := α) _ rest => Option α × Slots rest

def emptySlots : {τ : Type} → (layout : Layout τ) → layout.Slots
  | _, .done => ()
  | _, .field _ rest => (none, emptySlots rest)

def names : {τ : Type} → Layout τ → List String
  | _, .done => []
  | _, .field first rest => first.name :: names rest

def place (strictness : Strictness) (name : String) (source : Source) :
    {τ : Type} → (layout : Layout τ) → layout.Slots → Except Fault layout.Slots
  | _, .done, slots => do
      source.skip
      return slots
  | _, .field first rest, slots =>
      if first.name = name then
        if strictness = .strict && slots.1.isSome then .error .mismatch
        else do
          let found ← first.read source
          return (found, slots.2)
      else do
        let others ← place strictness name source rest slots.2
        return (slots.1, others)

def placeAll (strictness : Strictness) {τ : Type} (layout : Layout τ) (slots : layout.Slots) :
    List (Option String × Source) → Except Fault layout.Slots
  | [] => .ok slots
  | (name, source) :: rest => do
      let name ← Source.memberName name
      let slots ← layout.place strictness name source slots
      placeAll strictness layout slots rest

def finish : {τ : Type} → (layout : Layout τ) → layout.Slots → Except Fault τ
  | _, .done, _ => .ok ()
  | _, .field first rest, slots =>
      match slots.1 <|> first.absent with
      | none => .error .mismatch
      | some value => do
          let values ← finish rest slots.2
          return (value, values)

/-- The values of all fields from a list of them in layout order. Missing items at the end count as
missing fields, an item too many is malformed. -/
def finishItems : {τ : Type} → (layout : Layout τ) → List Source → Option Break → Except Fault τ
  | _, .done, [], close => Source.readClose close
  | _, .done, _ :: _, _ => .error .malformed
  | _, .field first rest, [], close => do
      Source.readClose close
      match first.absent with
      | none => .error .mismatch
      | some value => do
          let values ← finishItems rest [] close
          return (value, values)
  | _, .field first rest, item :: items, close => do
      let found ← first.read item
      match found <|> first.absent with
      | none => .error .mismatch
      | some value => do
          let values ← finishItems rest items close
          return (value, values)

def read (strictness : Strictness) {τ : Type} (layout : Layout τ) : Source → Except Fault τ
  | .record members close => do
      let slots ← layout.placeAll strictness layout.emptySlots members
      Source.readClose close
      layout.finish slots
  | .list items close =>
      match strictness with
      | .strict => layout.finishItems items close
      | .lenient => .error .mismatch
  | source => .error source.unexpected

def write : {τ : Type} → (layout : Layout τ) → τ → Except Fault (List (String × Json))
  | _, .done, () => .ok []
  | _, .field first rest, (value, values) => do
      let document ← first.write value
      let members ← write rest values
      match document with
      | none => return members
      | some document => return (first.name, document) :: members

end Layout

def Format.record {τ α : Type} (strictness : Strictness) (layout : Layout τ) (make : τ → α)
    (parts : α → τ) : Format α where
  read source := make <$> layout.read strictness source
  write value := .record <$> layout.write (parts value)

end ApiDiscovery
