import GraphSweep.Proofs.GraphStore.KeyOrder

/-!
# Reading columns

An entry is read as a relation exactly if it is the entry that stores the relation. So
the columns that can be read are those that are the spelling of a type alone, and those
that go on with a direction and the spelling of a vertex. The query for a type contains
those of them that are read as relations of the type.
-/

namespace GraphSweep

/-- The byte that tells a direction is the tag of the direction. -/
theorem Direction.ofTag?_eq_some {tag : UInt8} {direction : Direction} :
    ofTag? tag = some direction ↔ direction.tag = tag := by
  constructor
  · intro told
    unfold ofTag? at told
    split at told
    · next zero =>
      cases told
      exact zero.symm
    · split at told
      · next one =>
        cases told
        exact one.symm
      · cases told
  · rintro rfl
    exact ofTag?_tag direction

/-- The tag of a direction is zero or one. -/
theorem Direction.tag_eq (direction : Direction) :
    direction.tag = 0 ∨ direction.tag = 1 := by
  cases direction with
  | outgoing => exact Or.inl rfl
  | incoming => exact Or.inr rfl

/-- Eight bytes spell a word. -/
theorem Bytes.toNat_lt_size {bytes : Bytes} (even : bytes.length = 8) :
    toNat bytes < UInt64.size := by
  have bound := toNat_lt bytes
  rwa [even] at bound

/-- Eight bytes are the key of the vertex whose word they spell. -/
theorem VertexId.key_ofWord_toNat {bytes : Bytes} (even : bytes.length = 8) :
    key (ofWord (Bytes.toNat bytes)) = bytes := by
  rw [key, word_ofWord, Nat.mod_eq_of_lt (Bytes.toNat_lt_size even), ← even,
    Bytes.bigEndian_toNat]

namespace Relation

/-- Eight bytes are the spelling of the type whose number they spell. -/
theorem typeKey_ofNat_toNat {bytes : Bytes} (even : bytes.length = 8) :
    typeKey (UInt64.ofNat (Bytes.toNat bytes)) = bytes := by
  rw [typeKey, UInt64.toNat_ofNat_of_lt' (Bytes.toNat_lt_size even), ← even,
    Bytes.bigEndian_toNat]

/-- An entry that is read as a relation is the one that stores it. -/
theorem entry_of_ofEntry
    {vertex : VertexId}
    {entry : Entry}
    {relation : Relation}
    (read : ofEntry vertex entry = .ok relation) :
    relation.entry = entry := by
  obtain ⟨column, value⟩ := entry
  rw [Relation.entry, column_eq]
  unfold ofEntry at read
  dsimp only at read
  -- Reading goes through the column from the front, and fails where it ends too early,
  -- goes on too long or tells no direction.
  split at read
  · cases read
  · next long =>
    have spelled : typeKey (UInt64.ofNat (Bytes.toNat (column.take 8))) =
        column.take 8 := by
      apply typeKey_ofNat_toNat
      rw [List.length_take]
      omega
    split at read
    · next rest =>
      cases read
      have whole := List.take_append_drop 8 column
      rw [rest] at whole
      rw [spelled, shapeKey, whole]
    · next tag other rest =>
      split at read
      · cases read
      · next even =>
        have even : other.length = 8 := Decidable.not_not.1 even
        split at read
        · cases read
        · next direction told =>
          cases read
          rw [spelled, shapeKey, Direction.ofTag?_eq_some.1 told,
            VertexId.key_ofWord_toNat even, ← rest, List.take_append_drop]

/-- A column stores a relation if it is as long as a type, or as long as a type, a
direction and a vertex and tells a direction. -/
theorem exists_column_eq {column : Bytes} :
    (∃ relation : Relation, relation.column = column) ↔
      column.length = 8 ∨
        column.length = 17 ∧ (column[8]? = some 0 ∨ column[8]? = some 1) := by
  constructor
  · rintro ⟨relation, rfl⟩
    rw [column_eq, List.length_append, length_typeKey,
      List.getElem?_append_right (by simp), length_typeKey]
    cases relation.kind with
    | property => exact Or.inl rfl
    | edge direction other =>
        refine Or.inr ⟨by simp [shapeKey], ?_⟩
        exact direction.tag_eq.imp (congrArg some) (congrArg some)
  · rintro (even | ⟨long, tagged⟩)
    · exact ⟨⟨UInt64.ofNat (Bytes.toNat column), .property, []⟩,
        typeKey_ofNat_toNat even⟩
    · obtain ⟨direction, tag⟩ :
          ∃ direction : Direction, column[8]? = some direction.tag := by
        rcases tagged with zero | one
        · exact ⟨.outgoing, zero⟩
        · exact ⟨.incoming, one⟩
      obtain ⟨within, tag⟩ := List.getElem?_eq_some_iff.1 tag
      refine ⟨⟨UInt64.ofNat (Bytes.toNat (column.take 8)),
        .edge direction (VertexId.ofWord (Bytes.toNat (column.drop 9))), []⟩, ?_⟩
      rw [column_eq, typeKey_ofNat_toNat (by simp [long]), shapeKey,
        VertexId.key_ofWord_toNat (by simp [long]), ← tag,
        ← List.drop_eq_getElem_cons within, List.take_append_drop]

/-- An entry is read as a relation exactly if its column and its value are those of the
relation. -/
theorem ofEntry_eq_ok_iff
    {vertex : VertexId}
    {entry : Entry}
    {relation : Relation} :
    ofEntry vertex entry = .ok relation ↔
      relation.column = entry.column ∧ relation.value = entry.value := by
  constructor
  · intro read
    rw [← entry_of_ofEntry read]
    exact ⟨rfl, rfl⟩
  · rintro ⟨column, value⟩
    have stored : relation.entry = entry := by
      rw [Relation.entry, column, value]
    rw [← stored, ofEntry_entry]

/-- Whether an entry can be read depends on its column alone. -/
theorem exists_ofEntry_eq_ok {vertex : VertexId} {entry : Entry} :
    (∃ relation, ofEntry vertex entry = .ok relation) ↔
      ∃ relation : Relation, relation.column = entry.column := by
  constructor
  · rintro ⟨relation, read⟩
    exact ⟨relation, (ofEntry_eq_ok_iff.1 read).1⟩
  · rintro ⟨relation, column⟩
    exact ⟨{ relation with value := entry.value },
      ofEntry_eq_ok_iff.2 ⟨column, rfl⟩⟩

/-- Two relations share a column exactly if they are of one type and of one kind. -/
theorem column_eq_iff {relation other : Relation} :
    relation.column = other.column ↔
      relation.type = other.type ∧ relation.kind = other.kind := by
  constructor
  · exact column_injective
  · rintro ⟨type, kind⟩
    rw [column_eq, column_eq, type, kind]

/-- Reading entries undoes storing relations, and storing undoes reading: every relation
is read back from its column and value, the columns of the two forms and no others can be
read, what is read has the column and the value of the entry, and a column belongs to one
relation. -/
theorem entries_are_read_as_stored (vertex : VertexId) :
    (∀ (type : UInt64) (value : Bytes),
      ofEntry vertex ⟨columnOfProperty type, value⟩ =
        .ok ⟨type, .property, value⟩) ∧
    (∀ (type : UInt64) (direction : Direction) (other : VertexId)
        (value : Bytes),
      ofEntry vertex ⟨columnOfEdge type direction other, value⟩ =
        .ok ⟨type, .edge direction other, value⟩) ∧
    (∀ entry : Entry,
      (∃ relation, ofEntry vertex entry = .ok relation) ↔
        entry.column.length = 8 ∨
          entry.column.length = 17 ∧
            (entry.column[8]? = some 0 ∨ entry.column[8]? = some 1)) ∧
    (∀ (entry : Entry) (relation : Relation),
      ofEntry vertex entry = .ok relation ↔
        relation.column = entry.column ∧ relation.value = entry.value) ∧
    ∀ relation other : Relation,
      relation.column = other.column ↔
        relation.type = other.type ∧ relation.kind = other.kind := by
  refine ⟨?property, ?edge, ?readable, ?stored, ?distinct⟩
  case property =>
    intro type value
    exact ofEntry_entry vertex ⟨type, .property, value⟩
  case edge =>
    intro type direction other value
    exact ofEntry_entry vertex ⟨type, .edge direction other, value⟩
  case readable =>
    intro entry
    rw [exists_ofEntry_eq_ok, exists_column_eq]
  case stored =>
    intro entry relation
    exact ofEntry_eq_ok_iff
  case distinct =>
    intro relation other
    exact column_eq_iff

end Relation

namespace Slice

/-- The query for a type contains the column of an entry that can be read exactly if the
entry is read as a relation of the type. -/
theorem ofType_contains_its_type
    (type : UInt64)
    {vertex : VertexId}
    {entry : Entry}
    {relation : Relation}
    (read : Relation.ofEntry vertex entry = .ok relation) :
    (ofType type).contains entry.column = true ↔ relation.type = type := by
  obtain ⟨column, -⟩ := Relation.ofEntry_eq_ok_iff.1 read
  rw [← column, contains_column, decide_eq_true_iff]

/-- The last type has no successor to stop its query at; still the query contains the
highest column of the type, and the query for the type before does not. -/
theorem ofType_contains_last_column :
    Relation.ofEntry 64
        ⟨Relation.columnOfEdge 18446744073709551615 .incoming (-1), [7]⟩ =
      .ok ⟨18446744073709551615, .edge .incoming (-1), [7]⟩ ∧
    (ofType 18446744073709551615).contains
      (Relation.columnOfEdge 18446744073709551615 .incoming (-1)) = true ∧
    (ofType 18446744073709551614).contains
      (Relation.columnOfEdge 18446744073709551615 .incoming (-1)) = false := by
  have read := Relation.ofEntry_entry 64
    ⟨18446744073709551615, .edge .incoming (-1), [7]⟩
  refine ⟨read, (ofType_contains_its_type _ read).2 rfl, ?_⟩
  apply Bool.eq_false_iff.2
  intro inside
  have same := (ofType_contains_its_type _ read).1 inside
  exact absurd same (by decide)

end Slice
end GraphSweep
