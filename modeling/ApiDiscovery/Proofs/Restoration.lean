import ApiDiscovery.Proofs.Preservation
import ApiDiscovery.Proofs.Requests

/-!
What comes back when an object is written and read from the document again. Its types, its metadata and
its data share one list of members, and each reader takes up what its own writer put there, in whatever
order the members come. Data that are neither a record nor null have no members to share; such an object
cannot be written, and then nothing is sent.
-/

namespace ApiDiscovery

namespace Format

variable {α : Type}

def encode (format : Format α) (value : α) : Except Fault Value := Value.ofJson <$> format.write value

def decode (format : Format α) (document : Value) : Except Fault α := format.readJson document.json

def Survives (format : Format α) (value : α) : Prop :=
  ∃ document, format.encode value = .ok document ∧ format.decode document = .ok value

end Format

namespace Value

theorem ofJson_record_eq {members others : List (String × Json)} (perm : members.Perm others)
    (distinct : (members.map Prod.fst).Nodup) : ofJson (.record members) = ofJson (.record others) := by
  apply json_injective
  have tables := Table.ofList_eq_of_perm (Json.perm_canonicalMembers perm)
    (by rwa [Json.map_fst_canonicalMembers])
  simp only [ofJson, Json.canonical, tables]

theorem ofJson_record_perm {members : List (String × Json)} (distinct : (members.map Prod.fst).Nodup) :
    ∃ sorted, (ofJson (.record members)).json = .record sorted ∧
      sorted.Perm (Json.canonicalMembers members) :=
  ⟨_, rfl, Table.perm_entries_ofList (by rwa [Json.map_fst_canonicalMembers])⟩

end Value

namespace Manifest

/-- No member bears a name that an object's types or metadata are written under. -/
def Unclaimed (members : List (String × Json)) : Prop :=
  ∀ member ∈ members, member.1 ≠ "apiVersion" ∧ member.1 ≠ "kind" ∧ member.1 ≠ "metadata"

instance (members : List (String × Json)) : Decidable (Unclaimed members) :=
  inferInstanceAs (Decidable (∀ member ∈ members, _))

section Reading

variable {types : Option TypeBlock} {metadata : ObjectMeta} {document : Json}
  {members rest : List (String × Json)}

theorem Unclaimed.untyped (unclaimed : Unclaimed rest) : ∀ member ∈ rest, isTypeMember member = false := by
  intro member isMember
  simp [isTypeMember, (unclaimed member isMember).1, (unclaimed member isMember).2.1]

theorem isTypeMember_typeMembers (types : Option TypeBlock) :
    ∀ member ∈ typeMembers types, isTypeMember member = true := by
  cases types <;> simp [typeMembers, isTypeMember]

theorem takeTypes_typeMembers (perm : members.Perm (typeMembers types)) :
    takeTypes none none members = (types, []) := by
  cases types with
  | none =>
      rw [perm.eq_nil]
      rfl
  | some block =>
      obtain ⟨first, second, rfl⟩ := List.length_eq_two.mp perm.length_eq
      -- the two members stand in the order they are written in, or the other way round
      have isMember : first ∈ typeMembers (some block) := perm.subset List.mem_cons_self
      rcases List.mem_pair.mp isMember with rfl | rfl
      · have other := List.singleton_perm_singleton.mp ((List.perm_cons _).mp perm)
        rw [other]
        rfl
      · have swapped := perm.trans (List.Perm.swap ..)
        have other := List.singleton_perm_singleton.mp ((List.perm_cons _).mp swapped)
        rw [other]
        rfl

theorem takeTypes_perm (perm : members.Perm (typeMembers types ++ rest)) (unclaimed : Unclaimed rest) :
    (takeTypes none none members).1 = types ∧ (takeTypes none none members).2.Perm rest := by
  have block : (members.filter isTypeMember).Perm (typeMembers types) := by
    have none : rest.filter isTypeMember = [] := by
      simpa [List.filter_eq_nil_iff] using unclaimed.untyped
    have all := List.filter_eq_self.mpr (isTypeMember_typeMembers types)
    simpa [none, all] using perm.filter isTypeMember
  have others : (members.filter fun member => !isTypeMember member).Perm rest := by
    have none : (typeMembers types).filter (fun member => !isTypeMember member) = [] := by
      simpa [List.filter_eq_nil_iff] using isTypeMember_typeMembers types
    have all : rest.filter (fun member => !isTypeMember member) = rest := by
      simpa [List.filter_eq_self] using unclaimed.untyped
    simpa [none, all] using perm.filter fun member => !isTypeMember member
  have found := takeTypes_filter members none none
  rw [takeTypes_typeMembers block] at found
  exact ⟨found.1, found.2.trans others⟩

theorem readMembers_append (found : Option ObjectMeta) (others : ∀ member ∈ members, member.1 ≠ "metadata")
    (sources : List (Option String × Source)) :
    readMembers found (Json.memberSources members ++ sources) =
      (fun read => (read.1, members ++ read.2)) <$> readMembers found sources := by
  induction members with
  | nil => exact (id_map (readMembers found sources)).symm
  | cons first rest ih =>
      have isOther := others first List.mem_cons_self
      have later := ih fun member isMember => others member (List.mem_cons_of_mem _ isMember)
      simp only [Json.memberSources, List.cons_append, readMembers, Source.memberName, Json.value_source,
        bind, Except.bind, if_neg isOther, later]
      cases readMembers found sources <;> rfl

theorem readMembers_memberSources {before after : List (String × Json)}
    (othersBefore : ∀ member ∈ before, member.1 ≠ "metadata")
    (othersAfter : ∀ member ∈ after, member.1 ≠ "metadata")
    (reads : ObjectMeta.format.readJson document = .ok metadata) :
    readMembers none (Json.memberSources (before ++ ("metadata", document) :: after)) =
      .ok (some metadata, before ++ after) := by
  have readAfter : readMembers (some metadata) (Json.memberSources after) = .ok (some metadata, after) := by
    have passed := readMembers_append (some metadata) othersAfter []
    simpa [readMembers] using passed
  have readOn : readMembers none (Json.memberSources (("metadata", document) :: after)) =
      .ok (some metadata, after) :=
    Except.bind_eq_ok.mpr ⟨"metadata", rfl, Except.bind_eq_ok.mpr ⟨metadata, reads, readAfter⟩⟩
  rw [Json.memberSources_append, readMembers_append none othersBefore, readOn]
  rfl

theorem readJson_perm (perm : members.Perm (typeMembers types ++ ("metadata", document) :: rest))
    (distinct : (rest.map Prod.fst).Nodup) (unclaimed : Unclaimed rest)
    (reads : ObjectMeta.format.readJson document = .ok metadata) :
    Manifest.format.readJson (.record members) =
      .ok { types, metadata, data := Value.ofJson (.record rest) } := by
  have isMember : ("metadata", document) ∈ members := perm.mem_iff.mpr (by simp)
  obtain ⟨before, after, rfl⟩ := List.append_of_mem isMember
  -- around the metadata stand the members of the types and of the data, in any order
  have others : (before ++ after).Perm (typeMembers types ++ rest) :=
    (List.perm_cons ("metadata", document)).mp
      (List.perm_middle.symm.trans (perm.trans List.perm_middle))
  have notMetadata : ∀ member ∈ before ++ after, member.1 ≠ "metadata" := by
    intro member isOther
    rcases List.mem_append.mp (others.subset isOther) with typed | isRest
    · rcases isTypeMember_iff.mp (isTypeMember_typeMembers types member typed) with named | named
      all_goals simp [named]
    · exact (unclaimed member isRest).2.2
  obtain ⟨found, left⟩ := takeTypes_perm others unclaimed
  have data : Value.ofJson (.record (takeTypes none none (before ++ after)).2) =
      Value.ofJson (.record rest) :=
    Value.ofJson_record_eq left ((left.map Prod.fst).nodup_iff.mpr distinct)
  have read := readMembers_memberSources
    (fun member isBefore => notMetadata member (List.mem_append_left _ isBefore))
    (fun member isAfter => notMetadata member (List.mem_append_right _ isAfter)) reads
  rw [← data, ← found]
  exact Except.bind_eq_ok.mpr ⟨_, read, rfl⟩

theorem Unclaimed.nodup (unclaimed : Unclaimed rest) (distinct : (rest.map Prod.fst).Nodup)
    (types : Option TypeBlock) (document : Json) :
    ((typeMembers types ++ ("metadata", document) :: rest).map Prod.fst).Nodup := by
  have noVersion : ∀ value, ("apiVersion", value) ∉ rest := fun value isMember =>
    (unclaimed _ isMember).1 rfl
  have noKind : ∀ value, ("kind", value) ∉ rest := fun value isMember => (unclaimed _ isMember).2.1 rfl
  have noMetadata : ∀ value, ("metadata", value) ∉ rest := fun value isMember =>
    (unclaimed _ isMember).2.2 rfl
  cases types <;> simp [typeMembers, noVersion, noKind, noMetadata, distinct]

end Reading

theorem decode_encode {manifest : Manifest} {rest : List (String × Json)}
    (data : dataMembers manifest.data = .ok rest) (sorted : (Json.record rest).isCanonical = true)
    (unclaimed : Unclaimed rest) (survives : ObjectMeta.format.Survives manifest.metadata) :
    ∃ document, Manifest.format.encode manifest = .ok document ∧
      Manifest.format.decode document = .ok (manifest.withData (Value.ofJson (.record rest))) := by
  obtain ⟨_, encoded, reads⟩ := survives
  obtain ⟨metadata, wrote, rfl⟩ := Except.map_eq_ok.mp encoded
  simp only [Json.isCanonical, Bool.and_eq_true, decide_eq_true_eq] at sorted
  have distinct := Table.nodup_of_ascending sorted.1
  obtain ⟨members, isRecord, perm⟩ := Value.ofJson_record_perm
    (unclaimed.nodup distinct manifest.types metadata)
  rw [Json.canonicalMembers_append, canonicalMembers_typeMembers, Json.canonicalMembers,
    Json.canonicalMembers_of_membersCanonical rest sorted.2] at perm
  refine ⟨_, Except.map_eq_ok.mpr ⟨_, Except.bind_eq_ok.mpr
    ⟨metadata, wrote, Except.bind_eq_ok.mpr ⟨rest, data, rfl⟩⟩, rfl⟩, ?_⟩
  rw [Format.decode, isRecord]
  exact readJson_perm perm distinct unclaimed reads

theorem write_eq_error {manifest : Manifest} (data : dataMembers manifest.data = .error .mismatch) :
    Manifest.write manifest = .error .mismatch := by
  obtain ⟨metadata, wrote⟩ := ObjectMeta.format_total manifest.metadata
  rw [Manifest.write, wrote, data]
  rfl

theorem dataMembers_eq_error {data : Value} (notNull : data ≠ Value.null)
    (noRecord : ∀ members, data.json ≠ .record members) : dataMembers data = .error .mismatch := by
  unfold dataMembers
  split
  next members isRecord => exact absurd isRecord (noRecord members)
  next isNull => exact absurd (Value.json_injective isNull) notNull
  next => rfl

end Manifest

namespace Handle

variable {σ : Type} {manifest : Manifest}

theorem objectRequest_eq_error (unwritten : Manifest.write manifest = .error .mismatch) (method uri : String) :
    objectRequest method uri manifest = .error (.format .mismatch) := by
  rw [objectRequest, unwritten]
  rfl

theorem unwritten_not_sent (unwritten : Manifest.write manifest = .error .mismatch) (handle : Handle)
    (client : Client σ) (name : String) (state : σ) :
    handle.create client manifest state = (.error (.format .mismatch), state) ∧
      handle.sent client (.create manifest) state = [] ∧
      handle.replace client name manifest state = (.error (.format .mismatch), state) ∧
      handle.sent client (.replace name manifest) state = [] := by
  have refused := objectRequest_eq_error unwritten
  refine ⟨?_, ?_, ?_, ?_⟩
  · rw [create, createRequest, refused]
    rfl
  · rw [sent_eq, requestFor, createRequest, refused]
    rfl
  · rw [replace, replaceRequest, refused]
    rfl
  · rw [sent_eq, requestFor, replaceRequest, refused]
    rfl

end Handle

namespace Manifest

/-- An object with a record for its data comes back as it was, one without data comes back with an empty
record, and one with any other data is not written and not sent. -/
theorem restored (manifest : Manifest) :
    (∀ members, manifest.data.json = .record members → Unclaimed members →
      ObjectMeta.format.Survives manifest.metadata → Manifest.format.Survives manifest) ∧
    (manifest.data = Value.null → ObjectMeta.format.Survives manifest.metadata →
      ∃ document, Manifest.format.encode manifest = .ok document ∧
        Manifest.format.decode document = .ok (manifest.withData (Value.ofJson (.record [])))) ∧
    (manifest.data ≠ Value.null → (∀ members, manifest.data.json ≠ .record members) →
      Manifest.format.encode manifest = .error .mismatch ∧
      ∀ {σ : Type} (handle : Handle) (client : Client σ) (name : String) (state : σ),
        handle.create client manifest state = (.error (.format .mismatch), state) ∧
        handle.sent client (.create manifest) state = [] ∧
        handle.replace client name manifest state = (.error (.format .mismatch), state) ∧
        handle.sent client (.replace name manifest) state = []) := by
  refine ⟨?_, ?_, ?_⟩
  · intro members isRecord unclaimed survives
    have data : dataMembers manifest.data = .ok members := by
      rw [dataMembers, isRecord]
    have same : manifest.withData (Value.ofJson (.record members)) = manifest := by
      rw [← isRecord, Value.ofJson_json]
      rfl
    have back := decode_encode data (isRecord ▸ manifest.data.canonical) unclaimed survives
    rwa [same] at back
  · intro isNull survives
    have data : dataMembers manifest.data = .ok [] := by
      rw [isNull]
      rfl
    exact decode_encode data rfl (by simp [Unclaimed]) survives
  · intro notNull noRecord
    have unwritten := write_eq_error (dataMembers_eq_error notNull noRecord)
    refine ⟨?_, fun handle client name state => handle.unwritten_not_sent unwritten client name state⟩
    exact congrArg (fun written => Value.ofJson <$> written) unwritten

def job : Manifest :=
  { types := some { apiVersion := "batch/v1", kind := "Job" }
    metadata := { name := some "pi" }
    data := Value.ofJson (.record [("spec", .record [("backoffLimit", .number (.integer 4))])]) }

theorem job_restored :
    Manifest.format.Survives job ∧
      (∃ document, Manifest.format.encode (job.withData Value.null) = .ok document ∧
        Manifest.format.decode document = .ok (job.withData (Value.ofJson (.record [])))) ∧
      Manifest.format.encode (job.withData (Value.ofJson (.text "pi"))) = .error .mismatch :=
  ⟨(restored job).1 _ rfl (by decide) ⟨_, rfl, rfl⟩,
    (restored (job.withData Value.null)).2.1 rfl ⟨_, rfl, rfl⟩,
    ((restored (job.withData (Value.ofJson (.text "pi")))).2.2 (by decide) (fun _ => nofun)).1⟩

end Manifest

end ApiDiscovery
