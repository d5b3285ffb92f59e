import GraphSweep.Bytes

/-!
# Maps in byte order

A map from byte strings keeps its entries in ascending order of their keys, each
key once. The order is part of the type, so two maps that answer every look-up
alike are equal.
-/

namespace GraphSweep

/-- A finite map from byte strings whose entries ascend by key. -/
structure ByteMap (α : Type) where
  /-- The entries in ascending order of their keys. -/
  entries : List (Bytes × α)
  /-- Every key precedes all later ones. -/
  ascending : entries.Pairwise fun earlier later =>
    Bytes.precedes earlier.1 later.1

namespace ByteMap

variable {α : Type}

/-- The map without entries. -/
def empty : ByteMap α where
  entries := []
  ascending := List.Pairwise.nil

instance : Inhabited (ByteMap α) := ⟨empty⟩

/-- Number of keys. -/
def size (map : ByteMap α) : Nat := map.entries.length

/-- The keys in ascending order. -/
def keys (map : ByteMap α) : List Bytes := map.entries.map Prod.fst

/-- Value of a key in a list of entries. -/
def findEntry (key : Bytes) : List (Bytes × α) -> Option α
  | [] => none
  | (other, value) :: rest =>
      if other = key then some value else findEntry key rest

/-- Value of a key, if the map has it. -/
def find? (map : ByteMap α) (key : Bytes) : Option α :=
  findEntry key map.entries

/-- Put a value under a key into ascending entries, in place of the one there. -/
def insertEntry (key : Bytes) (value : α) : List (Bytes × α) -> List (Bytes × α)
  | [] => [(key, value)]
  | (other, held) :: rest =>
      if Bytes.precedes key other then (key, value) :: (other, held) :: rest
      else if other = key then (key, value) :: rest
      else (other, held) :: insertEntry key value rest

theorem mem_insertEntry
    {key : Bytes}
    {value : α}
    {entries : List (Bytes × α)}
    {entry : Bytes × α}
    (present : entry ∈ insertEntry key value entries) :
    entry = (key, value) ∨ entry ∈ entries := by
  induction entries with
  | nil => exact Or.inl (by simpa [insertEntry] using present)
  | cons head rest hypothesis =>
      obtain ⟨other, held⟩ := head
      simp only [insertEntry] at present
      split at present
      · rcases List.mem_cons.1 present with equal | member
        · exact Or.inl equal
        · exact Or.inr member
      · split at present
        · rcases List.mem_cons.1 present with equal | member
          · exact Or.inl equal
          · exact Or.inr (List.mem_cons_of_mem _ member)
        · rcases List.mem_cons.1 present with equal | member
          · exact Or.inr (equal ▸ List.mem_cons_self)
          · rcases hypothesis member with equal | older
            · exact Or.inl equal
            · exact Or.inr (List.mem_cons_of_mem _ older)

theorem ascending_insertEntry
    (key : Bytes)
    (value : α)
    {entries : List (Bytes × α)}
    (ascending : entries.Pairwise fun earlier later =>
      Bytes.precedes earlier.1 later.1) :
    (insertEntry key value entries).Pairwise fun earlier later =>
      Bytes.precedes earlier.1 later.1 := by
  induction entries with
  | nil => simp [insertEntry]
  | cons head rest hypothesis =>
      obtain ⟨other, held⟩ := head
      rw [List.pairwise_cons] at ascending
      simp only [insertEntry]
      split
      next before =>
        refine List.pairwise_cons.2 ⟨fun entry member => ?_,
          List.pairwise_cons.2 ascending⟩
        rcases List.mem_cons.1 member with equal | later
        · exact equal ▸ before
        · exact Bytes.precedes_trans before (ascending.1 entry later)
      next notBefore =>
        split
        next same =>
          exact List.pairwise_cons.2 ⟨fun entry member =>
            same ▸ ascending.1 entry member, ascending.2⟩
        next different =>
          refine List.pairwise_cons.2 ⟨fun entry member => ?_,
            hypothesis ascending.2⟩
          rcases mem_insertEntry member with equal | later
          · subst equal
            cases order : Bytes.precedes other key with
            | true => rfl
            | false =>
                exact absurd (Bytes.eq_of_not_precedes order
                  (by simpa using notBefore)) different
          · exact ascending.1 entry later

/-- Put a value under a key, in place of the one there. -/
def insert (map : ByteMap α) (key : Bytes) (value : α) : ByteMap α where
  entries := insertEntry key value map.entries
  ascending := ascending_insertEntry key value map.ascending

/-- Take a key out of the map. -/
def erase (map : ByteMap α) (key : Bytes) : ByteMap α where
  entries := map.entries.filter fun entry => entry.1 != key
  ascending := map.ascending.filter _

/-- Whether the map has a key. -/
def contains (map : ByteMap α) (key : Bytes) : Bool :=
  (map.find? key).isSome

@[simp] theorem find?_empty (key : Bytes) :
    (empty : ByteMap α).find? key = none := rfl

theorem findEntry_insertEntry
    (key other : Bytes)
    (value : α)
    (entries : List (Bytes × α)) :
    findEntry other (insertEntry key value entries) =
      if key = other then some value else findEntry other entries := by
  induction entries with
  | nil => rfl
  | cons head rest hypothesis =>
      obtain ⟨first, held⟩ := head
      simp only [insertEntry]
      split
      · rfl
      · split
        next same =>
          subst same
          by_cases equal : first = other <;> simp [findEntry, equal]
        next different =>
          simp only [findEntry, hypothesis]
          by_cases equal : first = other
          · subst equal
            simp [Ne.symm different]
          · simp [equal]

/-- Looking up after an insertion sees the inserted value and all others. -/
@[simp] theorem find?_insert
    (map : ByteMap α)
    (key other : Bytes)
    (value : α) :
    (map.insert key value).find? other =
      if key = other then some value else map.find? other :=
  findEntry_insertEntry key other value map.entries

/-- Looking up after a removal sees all other keys. -/
@[simp] theorem find?_erase (map : ByteMap α) (key other : Bytes) :
    (map.erase key).find? other =
      if key = other then none else map.find? other := by
  obtain ⟨entries, ascending⟩ := map
  simp only [erase, find?]
  clear ascending
  induction entries with
  | nil => simp [findEntry]
  | cons head rest hypothesis =>
      obtain ⟨first, held⟩ := head
      by_cases gone : first = key
      · subst gone
        by_cases equal : first = other
        · subst equal
          simpa using hypothesis
        · simpa [findEntry, equal] using hypothesis
      · by_cases equal : first = other
        · subst equal
          simp [findEntry, gone, Ne.symm gone]
        · simpa [findEntry, gone, equal] using hypothesis

/-- An entry of the map is found under its key, and only such are found. -/
theorem find?_eq_some_iff
    {map : ByteMap α}
    {key : Bytes}
    {value : α} :
    map.find? key = some value ↔ (key, value) ∈ map.entries := by
  obtain ⟨entries, ascending⟩ := map
  simp only [find?]
  induction entries with
  | nil => simp [findEntry]
  | cons head rest hypothesis =>
      obtain ⟨first, held⟩ := head
      rw [List.pairwise_cons] at ascending
      by_cases equal : first = key
      · subst equal
        simp only [findEntry, if_pos, Option.some.injEq, List.mem_cons,
          Prod.mk.injEq, true_and]
        constructor
        · exact fun same => Or.inl same.symm
        · rintro (same | member)
          · exact same.symm
          · have loop := ascending.1 _ member
            simp at loop
      · simp [findEntry, equal, Ne.symm equal, hypothesis ascending.2]

/-- Maps that answer every look-up alike are equal. -/
theorem ext_find?
    {left right : ByteMap α}
    (agree : forall key, left.find? key = right.find? key) :
    left = right := by
  have members : forall entry, entry ∈ left.entries ↔ entry ∈ right.entries := by
    rintro ⟨key, value⟩
    rw [← find?_eq_some_iff, ← find?_eq_some_iff, agree]
  obtain ⟨lefts, leftAscending⟩ := left
  obtain ⟨rights, rightAscending⟩ := right
  congr
  clear agree
  simp only at members
  induction lefts generalizing rights with
  | nil =>
      cases rights with
      | nil => rfl
      | cons entry _ => exact absurd ((members entry).2 List.mem_cons_self) (by simp)
  | cons left lefts hypothesis =>
      cases rights with
      | nil => exact absurd ((members left).1 List.mem_cons_self) (by simp)
      | cons right rights =>
          rw [List.pairwise_cons] at leftAscending rightAscending
          have heads : left = right := by
            rcases List.mem_cons.1 ((members left).1 List.mem_cons_self) with
              equal | later
            · exact equal
            · rcases List.mem_cons.1 ((members right).2 List.mem_cons_self) with
                equal | later'
              · exact equal.symm
              · have loop := Bytes.precedes_trans
                  (rightAscending.1 _ later) (leftAscending.1 _ later')
                simp at loop
          subst heads
          congr 1
          refine hypothesis leftAscending.2 rights rightAscending.2
            fun entry => ?_
          constructor
          · intro member
            rcases List.mem_cons.1 ((members entry).1
              (List.mem_cons_of_mem _ member)) with equal | later
            · subst equal
              have loop := leftAscending.1 _ member
              simp at loop
            · exact later
          · intro member
            rcases List.mem_cons.1 ((members entry).2
              (List.mem_cons_of_mem _ member)) with equal | later
            · subst equal
              have loop := rightAscending.1 _ member
              simp at loop
            · exact later

end ByteMap
end GraphSweep
