import ApiDiscovery.ApiStatus
import ApiDiscovery.Schema
import ApiDiscovery.Proofs.RecordReading
import ApiDiscovery.Proofs.Restoration

/-!
What the types of the wire bear. What is written is read again, in whatever order its members come and whatever
members of other names come with them; where a member is missing, the value falls back on the default of its
field, and without a default nothing is read.
-/

namespace ApiDiscovery

variable {α : Type}

def Format.Lawful (format : Format α) : Prop := ∀ value, format.Survives value

theorem Format.survives_iff {format : Format α} {value : α} : format.Survives value ↔
    ∃ document, format.write value = .ok document ∧ format.readJson document.canonical = .ok value := by
  constructor
  · rintro ⟨_, encoded, reads⟩
    obtain ⟨document, wrote, rfl⟩ := Except.map_eq_ok.mp encoded
    exact ⟨document, wrote, reads⟩
  · rintro ⟨document, wrote, reads⟩
    exact ⟨_, Except.map_eq_ok.mpr ⟨document, wrote, rfl⟩, reads⟩

theorem Json.canonical_record {members : List (String × Json)} (sorted : Ascending members) :
    (Json.record members).canonical = .record (canonicalMembers members) := by
  have ascending : Ascending (canonicalMembers members) := by
    rw [canonicalMembers_eq_map]
    exact List.Pairwise.map _ (fun _ _ before => before) sorted
  exact congrArg (fun table : Table Json => Json.record table.entries)
    (Table.ofList_entries { entries := canonicalMembers members, ascending })

namespace Format.Lawful

theorem text : Format.text.Lawful := fun value => survives_iff.mpr ⟨.text value, rfl, rfl⟩

theorem flag : Format.flag.Lawful := fun value => survives_iff.mpr ⟨.bool value, rfl, rfl⟩

theorem word : Format.word.Lawful := by
  intro value
  have small := value.toNat_lt
  have inRange : 0 ≤ (value.toNat : Int) ∧ (value.toNat : Int) < 65536 := by omega
  have reads := read_word inRange
  rw [Int.toNat_natCast, UInt16.ofNat_toNat] at reads
  refine survives_iff.mpr ⟨.number (.integer value.toNat), rfl, ?_⟩
  -- by rewriting: evaluation would go down from 65536 in steps of one
  rw [readJson, Json.canonical, Json.source]
  exact reads

theorem value : Format.value.Lawful := by
  intro value
  refine survives_iff.mpr ⟨value.json, rfl, ?_⟩
  rw [Json.canonical_of_isCanonical _ value.canonical]
  exact Except.map_eq_ok.mpr ⟨value.json, Json.value_source _, value.ofJson_json⟩

theorem list {item : Format α} (lawful : item.Lawful) : (Format.list item).Lawful := by
  intro values
  have written : ∃ items, writeItems item.write values = .ok items ∧
      readItems item.read (Json.itemSources (Json.canonicalItems items)) = .ok values := by
    induction values with
    | nil => exact ⟨[], rfl, rfl⟩
    | cons value rest ih =>
        obtain ⟨document, wrote, reads⟩ := survives_iff.mp (lawful value)
        obtain ⟨items, wroteRest, readsRest⟩ := ih
        refine ⟨document :: items, ?_, ?_⟩
        · exact Except.bind_eq_ok.mpr ⟨document, wrote, Except.bind_eq_ok.mpr ⟨items, wroteRest, rfl⟩⟩
        · exact Except.bind_eq_ok.mpr ⟨value, reads, Except.bind_eq_ok.mpr ⟨rest, readsRest, rfl⟩⟩
  obtain ⟨items, wrote, reads⟩ := written
  refine survives_iff.mpr ⟨.list items, Except.map_eq_ok.mpr ⟨items, wrote, rfl⟩, ?_⟩
  exact Except.bind_eq_ok.mpr ⟨values, reads, rfl⟩

theorem table {entry : Format α} (lawful : entry.Lawful) : (Format.table entry).Lawful := by
  intro values
  have written : ∀ entries, ∃ members, writeEntries entry.write entries = .ok members ∧
      members.map Prod.fst = entries.map Prod.fst ∧
      readEntries entry.read (Json.memberSources (Json.canonicalMembers members)) = .ok entries := by
    intro entries
    induction entries with
    | nil => exact ⟨[], rfl, rfl, rfl⟩
    | cons first rest ih =>
        obtain ⟨document, wrote, reads⟩ := survives_iff.mp (lawful first.2)
        obtain ⟨members, wroteRest, names, readsRest⟩ := ih
        refine ⟨(first.1, document) :: members, ?_, by simp [names], ?_⟩
        · exact Except.bind_eq_ok.mpr ⟨document, wrote, Except.bind_eq_ok.mpr ⟨members, wroteRest, rfl⟩⟩
        · exact Except.bind_eq_ok.mpr ⟨first.1, rfl, Except.bind_eq_ok.mpr
            ⟨first.2, reads, Except.bind_eq_ok.mpr ⟨rest, readsRest, rfl⟩⟩⟩
  obtain ⟨members, wrote, names, reads⟩ := written values.entries
  have sorted : Ascending members := by
    have ascending := List.pairwise_map.mpr values.ascending
    rw [← names] at ascending
    exact List.pairwise_map.mp ascending
  refine survives_iff.mpr ⟨.record members, Except.map_eq_ok.mpr ⟨members, wrote, rfl⟩, ?_⟩
  rw [Json.canonical_record sorted]
  refine Except.bind_eq_ok.mpr ⟨values.entries, reads, Except.bind_eq_ok.mpr ⟨(), rfl, ?_⟩⟩
  exact congrArg Except.ok values.ofList_entries

end Format.Lawful

def Field.Restores (field : Field α) : Prop := ∀ value, ∃ document,
  field.write value = .ok (some document) ∧ field.read document.canonical.source = .ok (some value)

namespace Field.Restores

theorem required {name : String} {format : Format α} (lawful : format.Lawful) :
    (Field.required name format).Restores := by
  intro value
  obtain ⟨document, wrote, reads⟩ := Format.survives_iff.mp (lawful value)
  exact ⟨document, Except.map_eq_ok.mpr ⟨document, wrote, rfl⟩, Except.map_eq_ok.mpr ⟨value, reads, rfl⟩⟩

theorem defaulted {name : String} {format : Format α} {fallback : α} (lawful : format.Lawful) :
    (Field.defaulted name format fallback).Restores :=
  -- the default plays no part where the member is there
  (required lawful : (Field.required name format).Restores)

end Field.Restores

inductive Layout.Restores : {τ : Type} → Layout τ → Prop where
  | done : Restores .done
  | field {α β : Type} {first : Field α} {rest : Layout β} (here : first.Restores) (later : rest.Restores) :
      Restores (.field first rest)

theorem Layout.Restores.written {τ : Type} {layout : Layout τ} (restores : layout.Restores)
    (distinct : layout.names.Nodup) (values : τ) :
    ∃ members, layout.write values = .ok members ∧ members.map Prod.fst = layout.names ∧
      layout.Finds (Json.canonicalMembers members) (layout.full values) := by
  induction restores with
  | done => exact ⟨[], rfl, rfl, trivial⟩
  | @field _ _ first rest here later ih =>
      obtain ⟨fresh, distinct⟩ := List.nodup_cons.mp distinct
      obtain ⟨document, wrote, reads⟩ := here values.1
      obtain ⟨members, wroteRest, names, finds⟩ := ih distinct values.2
      have none : named first.name (Json.canonicalMembers members) = [] := by
        rw [named_eq_nil_iff]
        intro member isMember same
        have isName := List.mem_map_of_mem (f := Prod.fst) isMember
        rw [Json.map_fst_canonicalMembers, names, same] at isName
        exact fresh isName
      refine ⟨(first.name, document) :: members, ?_, by simp [names, Layout.names], ?_, ?_⟩
      · exact Except.bind_eq_ok.mpr
          ⟨some document, wrote, Except.bind_eq_ok.mpr ⟨members, wroteRest, rfl⟩⟩
      · exact ⟨document.canonical, by rw [Json.canonicalMembers, named_cons_self, none], reads⟩
      · refine finds.congr fun name isField => ?_
        have other : first.name ≠ name := by
          rintro rfl
          exact fresh isField
        rw [Json.canonicalMembers, named_cons_of_ne other]

namespace Format

section Record

variable {τ : Type} {layout : Layout τ}

theorem encode_record (strictness : Strictness) (make : τ → α) (parts : α → τ) (restores : layout.Restores)
    (distinct : layout.names.Nodup) (value : α) :
    ∃ document encoded, (Format.record strictness layout make parts).encode value = .ok document ∧
      document.json = .record encoded ∧ (encoded.map Prod.fst).Perm layout.names ∧
      layout.Finds encoded (layout.full (parts value)) := by
  obtain ⟨members, wrote, names, finds⟩ := restores.written distinct (parts value)
  obtain ⟨encoded, isRecord, perm⟩ := Value.ofJson_record_perm (names ▸ distinct)
  have encodedNames := perm.map Prod.fst
  rw [Json.map_fst_canonicalMembers, names] at encodedNames
  refine ⟨_, encoded, Except.map_eq_ok.mpr ⟨_, Except.map_eq_ok.mpr ⟨members, wrote, rfl⟩, rfl⟩, isRecord,
    encodedNames, ?_⟩
  exact finds.congr fun name _ => perm.filter _

/-- The members of a record with what becomes of a value when the member is missing: it falls back on the
default of its field, or nothing is read. -/
abbrev Fallbacks (α : Type) := List (String × Option (α → α))

def fallen (fallback : Option (α → α)) (value : α) : Except Fault α :=
  match fallback with
  | some fallback => .ok (fallback value)
  | none => .error .mismatch

/-- Values are encoded as records of the given members, and decoded as they were. They are also read from
their members in any order and among any members of other names, and without one of them as this member has
it. -/
def Resilient (format : Format α) (fallbacks : Fallbacks α) : Prop :=
  ∀ value, ∃ document encoded, format.encode value = .ok document ∧ document.json = .record encoded ∧
    format.decode document = .ok value ∧ (encoded.map Prod.fst).Perm (fallbacks.map Prod.fst) ∧
    ∀ others : List (String × Json), (∀ other ∈ others, other.1 ∉ fallbacks.map Prod.fst) →
      (∀ given, given.Perm (encoded ++ others) → format.readJson (.record given) = .ok value) ∧
      ∀ missing ∈ fallbacks, ∀ given, given.Perm (encoded.filter (·.1 ≠ missing.1) ++ others) →
        format.readJson (.record given) = fallen missing.2 value

theorem Resilient.lawful {format : Format α} {fallbacks : Fallbacks α}
    (resilient : format.Resilient fallbacks) : format.Lawful := by
  intro value
  obtain ⟨document, _, encoded, _, decoded, _⟩ := resilient value
  exact ⟨document, encoded, decoded⟩

theorem resilient_record {strictness : Strictness} {make : τ → α} {parts : α → τ} {fallbacks : Fallbacks α}
    (restores : layout.Restores) (distinct : layout.names.Nodup)
    (packed : ∀ value, make (parts value) = value) (names : fallbacks.map Prod.fst = layout.names)
    (falls : ∀ value, fallbacks.map (fun missing =>
        make <$> layout.finish (layout.clear missing.1 (layout.full (parts value)))) =
      fallbacks.map fun missing => fallen missing.2 value) :
    (Format.record strictness layout make parts).Resilient fallbacks := by
  intro value
  obtain ⟨document, encoded, wrote, isRecord, encodedNames, finds⟩ :=
    encode_record strictness make parts restores distinct value
  have whole : make <$> layout.finish (layout.full (parts value)) = .ok value := by
    rw [Layout.finish_full]
    exact congrArg Except.ok (packed value)
  rw [← names] at encodedNames
  refine ⟨document, encoded, wrote, isRecord, ?_, encodedNames, ?_⟩
  · rw [decode, isRecord, Layout.readJson_of_finds distinct finds, whole]
  · intro others unknown
    rw [names] at unknown
    constructor
    · intro given perm
      rw [Layout.readJson_of_finds distinct (finds.perm perm unknown), whole]
    · intro missing isField given perm
      rw [Layout.readJson_of_finds distinct ((finds.without missing.1).perm perm unknown),
        List.map_inj_left.mp (falls value) missing isField]

end Record

end Format

open Format (Fallbacks)

namespace GroupVersion

def fallbacks : Fallbacks GroupVersion := [("group", none), ("version", none)]

theorem format_resilient : format.Resilient fallbacks :=
  Format.resilient_record (.field (.required .text) <| .field (.required .text) .done) (by decide)
    (fun _ => rfl) rfl fun _ => rfl

end GroupVersion

namespace GroupVersionKind

def fallbacks : Fallbacks GroupVersionKind := [("group", none), ("version", none), ("kind", none)]

theorem format_resilient : format.Resilient fallbacks :=
  Format.resilient_record
    (.field (.required .text) <| .field (.required .text) <| .field (.required .text) .done) (by decide)
    (fun _ => rfl) rfl fun _ => rfl

end GroupVersionKind

namespace GroupResource

def fallbacks : Fallbacks GroupResource := [("group", none), ("resource", none)]

theorem format_resilient : format.Resilient fallbacks :=
  Format.resilient_record (.field (.required .text) <| .field (.required .text) .done) (by decide)
    (fun _ => rfl) rfl fun _ => rfl

end GroupResource

namespace TypeBlock

def fallbacks : Fallbacks TypeBlock := [("apiVersion", none), ("kind", none)]

theorem format_resilient : format.Resilient fallbacks :=
  Format.resilient_record (.field (.required .text) <| .field (.required .text) .done) (by decide)
    (fun _ => rfl) rfl fun _ => rfl

end TypeBlock

namespace Resource

def fallbacks : Fallbacks Resource :=
  [("group", none), ("version", none), ("api_version", none), ("kind", none), ("plural", none),
    ("namespaced", none)]

theorem format_resilient : format.Resilient fallbacks :=
  Format.resilient_record
    (.field (.required .text) <| .field (.required .text) <| .field (.required .text) <|
      .field (.required .text) <| .field (.required .text) <| .field (.required .flag) .done)
    (by decide) (fun _ => rfl) rfl fun _ => rfl

end Resource

namespace ApiStatus

def fallbacks : Fallbacks ApiStatus :=
  [("status", none), ("message", some fun answer => { answer with message := "" }),
    ("reason", some fun answer => { answer with reason := "" }), ("code", none)]

theorem format_resilient : format.Resilient fallbacks :=
  Format.resilient_record
    (.field (.required .text) <| .field (.defaulted .text) <| .field (.defaulted .text) <|
      .field (.required .word) .done)
    (by decide) (fun _ => rfl) rfl fun _ => rfl

end ApiStatus

namespace SwaggerDeclaration

def fallbacks : Fallbacks SwaggerDeclaration :=
  [("swaggerVersion", some fun declaration => { declaration with swaggerVersion := "" }),
    ("apiVersion", some fun declaration => { declaration with apiVersion := "" }),
    ("basePath", some fun declaration => { declaration with basePath := "" }),
    ("resourcePath", some fun declaration => { declaration with resourcePath := "" }),
    ("apis", some fun declaration => { declaration with apis := [] }),
    ("models", some fun declaration => { declaration with models := Table.empty })]

theorem format_resilient : format.Resilient fallbacks :=
  Format.resilient_record
    (.field (.defaulted .text) <| .field (.defaulted .text) <| .field (.defaulted .text) <|
      .field (.defaulted .text) <| .field (.defaulted (.list .value)) <|
      .field (.defaulted (.table .value)) .done)
    (by decide) (fun _ => rfl) rfl fun _ => rfl

end SwaggerDeclaration

namespace DocumentInfo

def fallbacks : Fallbacks DocumentInfo :=
  [("title", some fun info => { info with title := "" }),
    ("version", some fun info => { info with version := "" })]

theorem format_resilient : format.Resilient fallbacks :=
  Format.resilient_record (.field (.defaulted .text) <| .field (.defaulted .text) .done) (by decide)
    (fun _ => rfl) rfl fun _ => rfl

end DocumentInfo

namespace OpenApiDocument

def fallbacks : Fallbacks OpenApiDocument :=
  [("swagger", some fun document => { document with swagger := "" }),
    ("info", some fun document => { document with info := {} }),
    ("paths", some fun document => { document with paths := Table.empty }),
    ("definitions", some fun document => { document with definitions := Table.empty })]

theorem layout_restores : Layout.Restores
    (.field (.defaulted "swagger" .text "") <| .field (.defaulted "info" DocumentInfo.format {}) <|
      .field (.defaulted "paths" (.table .value) Table.empty) <|
      .field (.defaulted "definitions" (.table .value) Table.empty) .done) :=
  .field (.defaulted .text) <| .field (.defaulted DocumentInfo.format_resilient.lawful) <|
    .field (.defaulted (.table .value)) <| .field (.defaulted (.table .value)) .done

theorem format_resilient : format.Resilient fallbacks :=
  Format.resilient_record layout_restores (by decide) (fun _ => rfl) rfl fun _ => rfl

/-- The document is also read with its info in any other form that is read as the same info. -/
def ReadsAnyInfo (document : OpenApiDocument) : Prop :=
  ∃ written encoded, format.encode document = .ok written ∧ written.json = .record encoded ∧
    ∀ info : Json, DocumentInfo.format.readJson info = .ok document.info →
      ∀ others : List (String × Json), (∀ other ∈ others, other.1 ∉ fallbacks.map Prod.fst) →
        ∀ given, given.Perm (("info", info) :: encoded.filter (·.1 ≠ "info") ++ others) →
          format.readJson (.record given) = .ok document

theorem readsAnyInfo (document : OpenApiDocument) : document.ReadsAnyInfo := by
  have distinct : (fallbacks.map Prod.fst).Nodup := by decide
  obtain ⟨written, encoded, wrote, isRecord, _, finds⟩ :=
    Format.encode_record .strict _ _ layout_restores distinct document
  refine ⟨written, encoded, wrote, isRecord, ?_⟩
  intro info reads others unknown given perm
  have readsInfo : ∃ value, some document.info = some value ∧
      some <$> DocumentInfo.format.read info.source = .ok (some value) :=
    ⟨document.info, rfl, Except.map_eq_ok.mpr ⟨document.info, reads, rfl⟩⟩
  refine Layout.readJson_of_finds ?_ ((finds.replace "info" info ?_).perm perm unknown)
  · exact distinct
  · exact ⟨nofun, fun _ => readsInfo, nofun, nofun, trivial⟩

end OpenApiDocument

/-- Whatever value a type of the wire has, it survives being encoded, its members may be reordered and others
may be added, and what may be missing has its default. -/
theorem wire_values_survive :
    GroupVersion.format.Resilient GroupVersion.fallbacks ∧
      GroupVersionKind.format.Resilient GroupVersionKind.fallbacks ∧
      GroupResource.format.Resilient GroupResource.fallbacks ∧
      TypeBlock.format.Resilient TypeBlock.fallbacks ∧
      Resource.format.Resilient Resource.fallbacks ∧
      ApiStatus.format.Resilient ApiStatus.fallbacks ∧
      SwaggerDeclaration.format.Resilient SwaggerDeclaration.fallbacks ∧
      DocumentInfo.format.Resilient DocumentInfo.fallbacks ∧
      OpenApiDocument.format.Resilient OpenApiDocument.fallbacks ∧
      ∀ document : OpenApiDocument, document.ReadsAnyInfo :=
  ⟨GroupVersion.format_resilient, GroupVersionKind.format_resilient, GroupResource.format_resilient,
    TypeBlock.format_resilient, Resource.format_resilient, ApiStatus.format_resilient,
    SwaggerDeclaration.format_resilient, DocumentInfo.format_resilient, OpenApiDocument.format_resilient,
    OpenApiDocument.readsAnyInfo⟩

end ApiDiscovery
