import ApiDiscovery.Manifest

/-!
Which formats can write all their values. Totality goes through a format part by part, as the format
itself is put together; the metadata of objects can always be written.
-/

namespace ApiDiscovery

variable {α : Type}

def Format.Total (format : Format α) : Prop := ∀ value, ∃ document, format.write value = .ok document

def Field.Total (field : Field α) : Prop := ∀ value, ∃ document, field.write value = .ok document

def Layout.Total {τ : Type} (layout : Layout τ) : Prop :=
  ∀ values, ∃ members, layout.write values = .ok members

namespace Format.Total

theorem text : Format.text.Total := fun value => ⟨.text value, rfl⟩

theorem flag : Format.flag.Total := fun value => ⟨.bool value, rfl⟩

theorem integer : Format.integer.Total := fun value => ⟨.number (.integer value.toInt), rfl⟩

theorem value : Format.value.Total := fun value => ⟨value.json, rfl⟩

theorem parsed (parse : String → Option α) (print : α → String) : (Format.parsed parse print).Total :=
  fun value => ⟨.text (print value), rfl⟩

theorem list {item : Format α} (total : item.Total) : (Format.list item).Total := by
  intro values
  have written : ∃ items, writeItems item.write values = .ok items := by
    induction values with
    | nil => exact ⟨[], rfl⟩
    | cons value rest ih =>
        obtain ⟨first, wroteFirst⟩ := total value
        obtain ⟨items, wroteRest⟩ := ih
        exact ⟨first :: items,
          Except.bind_eq_ok.mpr ⟨first, wroteFirst, Except.bind_eq_ok.mpr ⟨items, wroteRest, rfl⟩⟩⟩
  obtain ⟨items, wrote⟩ := written
  exact ⟨.list items, Except.map_eq_ok.mpr ⟨items, wrote, rfl⟩⟩

theorem table {entry : Format α} (total : entry.Total) : (Format.table entry).Total := by
  intro values
  have written : ∀ entries, ∃ members, writeEntries entry.write entries = .ok members := by
    intro entries
    induction entries with
    | nil => exact ⟨[], rfl⟩
    | cons first rest ih =>
        obtain ⟨document, wroteFirst⟩ := total first.2
        obtain ⟨members, wroteRest⟩ := ih
        exact ⟨(first.1, document) :: members,
          Except.bind_eq_ok.mpr ⟨document, wroteFirst, Except.bind_eq_ok.mpr ⟨members, wroteRest, rfl⟩⟩⟩
  obtain ⟨members, wrote⟩ := written values.entries
  exact ⟨.record members, Except.map_eq_ok.mpr ⟨members, wrote, rfl⟩⟩

theorem record {τ : Type} {strictness : Strictness} {layout : Layout τ} {make : τ → α} {parts : α → τ}
    (total : layout.Total) : (Format.record strictness layout make parts).Total := by
  intro value
  obtain ⟨members, wrote⟩ := total (parts value)
  exact ⟨.record members, Except.map_eq_ok.mpr ⟨members, wrote, rfl⟩⟩

end Format.Total

namespace Field.Total

theorem required {name : String} {format : Format α} (total : format.Total) :
    (Field.required name format).Total := by
  intro value
  obtain ⟨document, wrote⟩ := total value
  exact ⟨some document, Except.map_eq_ok.mpr ⟨document, wrote, rfl⟩⟩

theorem lenient {name : String} {format : Format α} {fallback : α} (total : format.Total) :
    (Field.lenient name format fallback).Total :=
  -- a lenient field differs from a required one in reading only
  (required total : (Field.required name format).Total)

theorem optional {name : String} {format : Format α} (total : format.Total) :
    (Field.optional name format).Total
  | none => ⟨none, rfl⟩
  | some value => (required total : (Field.required name format).Total) value

end Field.Total

namespace Layout.Total

theorem done : Layout.done.Total := fun _ => ⟨[], rfl⟩

theorem field {β : Type} {first : Field α} {rest : Layout β} (totalFirst : first.Total)
    (totalRest : rest.Total) : (Layout.field first rest).Total := by
  intro (value, values)
  obtain ⟨document, wroteFirst⟩ := totalFirst value
  obtain ⟨members, wroteRest⟩ := totalRest values
  cases document with
  | none =>
      exact ⟨members,
        Except.bind_eq_ok.mpr ⟨none, wroteFirst, Except.bind_eq_ok.mpr ⟨members, wroteRest, rfl⟩⟩⟩
  | some document =>
      exact ⟨(first.name, document) :: members,
        Except.bind_eq_ok.mpr ⟨some document, wroteFirst, Except.bind_eq_ok.mpr ⟨members, wroteRest, rfl⟩⟩⟩

end Layout.Total

theorem Timestamp.format_total : Timestamp.format.Total := .parsed _ _

theorem ManagedFields.format_total : ManagedFields.format.Total :=
  .record <| .field (.optional .text) <| .field (.optional .text) <| .field (.optional .value) <|
    .field (.optional .text) <| .field (.optional .text) <| .field (.optional .text) <|
    .field (.optional Timestamp.format_total) .done

theorem OwnerReference.format_total : OwnerReference.format.Total :=
  .record <| .field (.lenient .text) <| .field (.optional .flag) <| .field (.optional .flag) <|
    .field (.lenient .text) <| .field (.lenient .text) <| .field (.lenient .text) .done

theorem ObjectMeta.format_total : ObjectMeta.format.Total :=
  .record <| .field (.optional (.table .text)) <| .field (.optional Timestamp.format_total) <|
    .field (.optional .integer) <| .field (.optional Timestamp.format_total) <|
    .field (.optional (.list .text)) <| .field (.optional .text) <| .field (.optional .integer) <|
    .field (.optional (.table .text)) <| .field (.optional (.list ManagedFields.format_total)) <|
    .field (.optional .text) <| .field (.optional .text) <|
    .field (.optional (.list OwnerReference.format_total)) <| .field (.optional .text) <|
    .field (.optional .text) <| .field (.optional .text) .done

end ApiDiscovery
