/-!
Finite maps from names to values, kept as entries in ascending order of their names. A name occurs at
most once, so two tables with the same lookups are equal.
-/

namespace ApiDiscovery

def Ascending {α : Type} (entries : List (String × α)) : Prop :=
  entries.Pairwise fun earlier later => earlier.1 < later.1

instance {α : Type} (entries : List (String × α)) : Decidable (Ascending entries) :=
  inferInstanceAs (Decidable (entries.Pairwise _))

structure Table (α : Type) where
  entries : List (String × α)
  ascending : Ascending entries

namespace Table

variable {α : Type}

def insertEntry (name : String) (value : α) : List (String × α) → List (String × α)
  | [] => [(name, value)]
  | (first, kept) :: rest =>
      if name < first then (name, value) :: (first, kept) :: rest
      else if name = first then (name, value) :: rest
      else (first, kept) :: insertEntry name value rest

theorem mem_insertEntry {name : String} {value : α} {entry : String × α} :
    ∀ {entries : List (String × α)}, entry ∈ insertEntry name value entries →
      entry = (name, value) ∨ entry ∈ entries := by
  intro entries member
  induction entries with
  | nil => simpa [insertEntry] using member
  | cons first rest ih =>
      simp only [insertEntry] at member
      split at member
      · simpa using member
      · split at member
        · rcases List.mem_cons.mp member with same | tail
          · exact Or.inl same
          · exact Or.inr (List.mem_cons_of_mem _ tail)
        · rcases List.mem_cons.mp member with same | tail
          · exact Or.inr (same ▸ List.mem_cons_self)
          · exact (ih tail).imp_right (List.mem_cons_of_mem _)

theorem ascending_insertEntry (name : String) (value : α) :
    ∀ {entries : List (String × α)}, Ascending entries → Ascending (insertEntry name value entries) := by
  intro entries sorted
  induction entries with
  | nil => simp [insertEntry, Ascending]
  | cons first rest ih =>
      have tail := List.pairwise_cons.mp sorted
      simp only [insertEntry]
      split
      next before =>
        refine List.pairwise_cons.mpr ⟨?_, sorted⟩
        intro entry member
        rcases List.mem_cons.mp member with same | later
        · exact same ▸ before
        · exact String.lt_trans before (tail.1 entry later)
      next notBefore =>
        split
        next same =>
          exact List.pairwise_cons.mpr ⟨fun entry member => same ▸ tail.1 entry member, tail.2⟩
        next different =>
          refine List.pairwise_cons.mpr ⟨?_, ih tail.2⟩
          intro entry member
          rcases mem_insertEntry member with inserted | later
          · rw [inserted]
            rcases Decidable.em (first.1 < name) with below | notBelow
            · exact below
            · exact absurd
                (String.le_antisymm (String.not_lt.mp notBelow) (String.not_lt.mp notBefore)) different
          · exact tail.1 entry later

def empty : Table α := { entries := [], ascending := List.Pairwise.nil }

instance : Inhabited (Table α) := ⟨empty⟩

def insert (table : Table α) (name : String) (value : α) : Table α :=
  { entries := insertEntry name value table.entries
    ascending := ascending_insertEntry name value table.ascending }

/-- The table of `entries`; of several entries with one name the last one counts. -/
def ofList (entries : List (String × α)) : Table α :=
  entries.foldl (fun table entry => table.insert entry.1 entry.2) empty

def find? (table : Table α) (name : String) : Option α := table.entries.lookup name

theorem entries_injective {left right : Table α} (same : left.entries = right.entries) :
    left = right := by
  cases left
  cases right
  simp_all

instance [DecidableEq α] : DecidableEq (Table α) := fun left right =>
  if same : left.entries = right.entries then isTrue (entries_injective same)
  else isFalse fun equal => same (equal ▸ rfl)

theorem mem_entries_insert {table : Table α} {name : String} {value : α} {entry : String × α}
    (member : entry ∈ (table.insert name value).entries) :
    entry = (name, value) ∨ entry ∈ table.entries :=
  mem_insertEntry member

theorem mem_entries_foldl_insert {entry : String × α} : ∀ (added : List (String × α)) (table : Table α),
    entry ∈ (added.foldl (fun table entry => table.insert entry.1 entry.2) table).entries →
      entry ∈ added ∨ entry ∈ table.entries := by
  intro added
  induction added with
  | nil => intro table member; exact Or.inr member
  | cons first rest ih =>
      intro table member
      rcases ih _ member with later | inserted
      · exact Or.inl (List.mem_cons_of_mem _ later)
      · rcases mem_entries_insert inserted with same | earlier
        · exact Or.inl (same ▸ List.mem_cons_self)
        · exact Or.inr earlier

theorem mem_of_mem_entries_ofList {entry : String × α} {entries : List (String × α)}
    (member : entry ∈ (ofList entries).entries) : entry ∈ entries := by
  rcases mem_entries_foldl_insert entries empty member with made | none
  · exact made
  · exact absurd none (List.not_mem_nil)

theorem perm_insertEntry {name : String} {value : α} {entries : List (String × α)}
    (fresh : name ∉ entries.map Prod.fst) :
    (insertEntry name value entries).Perm ((name, value) :: entries) := by
  induction entries with
  | nil => exact List.Perm.refl _
  | cons first rest ih =>
      simp only [List.map_cons, List.mem_cons, not_or] at fresh
      simp only [insertEntry, if_neg fresh.1]
      split
      · exact List.Perm.refl _
      · exact ((ih fresh.2).cons first).trans (List.Perm.swap ..)

theorem perm_foldl_insert : ∀ (added : List (String × α)) (table : Table α),
    ((added ++ table.entries).map Prod.fst).Nodup →
      (added.foldl (fun table entry => table.insert entry.1 entry.2) table).entries.Perm
        (added ++ table.entries) := by
  intro added
  induction added with
  | nil => exact fun table _ => List.Perm.refl table.entries
  | cons first rest ih =>
      intro table distinct
      have names := distinct
      simp only [List.cons_append, List.map_cons, List.map_append, List.nodup_cons, List.mem_append,
        not_or] at names
      have inserted : (rest ++ (table.insert first.1 first.2).entries).Perm
          (first :: rest ++ table.entries) :=
        ((perm_insertEntry names.1.2).append_left rest).trans List.perm_middle
      exact (ih (table.insert first.1 first.2)
        ((inserted.map Prod.fst).nodup_iff.mpr distinct)).trans inserted

theorem perm_entries_ofList {entries : List (String × α)} (distinct : (entries.map Prod.fst).Nodup) :
    (ofList entries).entries.Perm entries := by
  have perm := perm_foldl_insert entries empty (by simpa [empty] using distinct)
  simpa [ofList, empty] using perm

theorem nodup_of_ascending {entries : List (String × α)} (sorted : Ascending entries) :
    (entries.map Prod.fst).Nodup := by
  refine List.Pairwise.map Prod.fst ?_ sorted
  intro earlier later before same
  exact String.lt_irrefl later.1 (same ▸ before)

theorem eq_of_perm {left right : Table α} (perm : left.entries.Perm right.entries) : left = right := by
  refine entries_injective (perm.eq_of_pairwise ?_ left.ascending right.ascending)
  intro first second _ _ before after
  exact absurd (String.lt_trans before after) (String.lt_irrefl _)

theorem ofList_eq_of_perm {entries others : List (String × α)} (perm : entries.Perm others)
    (distinct : (entries.map Prod.fst).Nodup) : ofList entries = ofList others := by
  have otherDistinct : (others.map Prod.fst).Nodup := (perm.map Prod.fst).nodup_iff.mp distinct
  exact eq_of_perm ((perm_entries_ofList distinct).trans
    (perm.trans (perm_entries_ofList otherDistinct).symm))

theorem ofList_entries (table : Table α) : ofList table.entries = table :=
  eq_of_perm (perm_entries_ofList (nodup_of_ascending table.ascending))

end Table

end ApiDiscovery
