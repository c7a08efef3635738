import ApiDiscovery.Json.Source

/-!
How values of a type stand in documents. A format reads from a text as it is found, so that the first
fault in reading order is the one reported, and writes a document; some values cannot be written.
-/

namespace ApiDiscovery

structure Format (α : Type) where
  read : Source → Except Fault α
  write : α → Except Fault Json

namespace Format

variable {α : Type}

def readJson (format : Format α) (document : Json) : Except Fault α := format.read document.source

def text : Format String where
  read
    | .text (some value) => .ok value
    | source => .error source.unexpected
  write value := .ok (.text value)

def flag : Format Bool where
  read
    | .bool value => .ok value
    | source => .error source.unexpected
  write value := .ok (.bool value)

def word : Format UInt16 where
  read
    | .number (some (.integer value)) =>
        if 0 ≤ value ∧ value < 65536 then .ok (UInt16.ofNat value.toNat) else .error .mismatch
    | source => .error source.unexpected
  write value := .ok (.number (.integer value.toNat))

theorem read_word {value : Int} (inRange : 0 ≤ value ∧ value < 65536) :
    word.read (.number (some (.integer value))) = .ok (UInt16.ofNat value.toNat) :=
  if_pos inRange

def integer : Format Int64 where
  read
    | .number (some (.integer value)) =>
        if Int64.minValue.toInt ≤ value ∧ value ≤ Int64.maxValue.toInt then .ok (Int64.ofInt value)
        else .error .mismatch
    | source => .error source.unexpected
  write value := .ok (.number (.integer value.toInt))

def value : Format Value where
  read source := Value.ofJson <$> source.value
  write value := .ok value.json

def parsed (parse : String → Option α) (print : α → String) : Format α where
  read source := do
    let content ← text.read source
    match parse content with
    | some value => .ok value
    | none => .error .mismatch
  write value := .ok (.text (print value))

def readItems (read : Source → Except Fault α) : List Source → Except Fault (List α)
  | [] => .ok []
  | item :: rest => do
      let value ← read item
      let values ← readItems read rest
      return value :: values

def writeItems (write : α → Except Fault Json) : List α → Except Fault (List Json)
  | [] => .ok []
  | value :: rest => do
      let item ← write value
      let items ← writeItems write rest
      return item :: items

def list (item : Format α) : Format (List α) where
  read
    | .list items close => do
        let values ← readItems item.read items
        Source.readClose close
        return values
    | source => .error source.unexpected
  write values := .list <$> writeItems item.write values

def readEntries (read : Source → Except Fault α) :
    List (Option String × Source) → Except Fault (List (String × α))
  | [] => .ok []
  | (name, source) :: rest => do
      let name ← Source.memberName name
      let value ← read source
      let entries ← readEntries read rest
      return (name, value) :: entries

def writeEntries (write : α → Except Fault Json) :
    List (String × α) → Except Fault (List (String × Json))
  | [] => .ok []
  | (name, value) :: rest => do
      let document ← write value
      let members ← writeEntries write rest
      return (name, document) :: members

def table (entry : Format α) : Format (Table α) where
  read
    | .record members close => do
        let entries ← readEntries entry.read members
        Source.readClose close
        return Table.ofList entries
    | source => .error source.unexpected
  write values := .record <$> writeEntries entry.write values.entries

end Format

end ApiDiscovery
