import GraphSweep.Slice

/-!
# The order of keys and columns

Byte strings of one length are in the order of the numbers that they spell. So keys
are in the order of the vertices that are not negative, and columns are first of all
in the order of their types. The columns of a type are those that the query for the
type contains.
-/

namespace GraphSweep

namespace Bytes

/-- The order of byte strings is lexicographic. -/
theorem precedes_iff_lex {first second : Bytes} :
    precedes first second = true ↔ List.Lex (· < ·) first second := by
  induction first generalizing second with
  | nil =>
      cases second with
      | nil => exact ⟨nofun, nofun⟩
      | cons byte bytes => exact ⟨fun _ => List.Lex.nil, fun _ => rfl⟩
  | cons left lefts hypothesis =>
      cases second with
      | nil => exact ⟨nofun, nofun⟩
      | cons right rights =>
          rw [cons_precedes_cons, List.cons_lex_cons_iff, ← hypothesis,
            Bool.or_eq_true, Bool.and_eq_true, decide_eq_true_iff, beq_iff_eq]

/-- What is in front of both byte strings does not matter for their order. -/
@[simp] theorem precedes_append_left (bytes first second : Bytes) :
    precedes (bytes ++ first) (bytes ++ second) = precedes first second := by
  induction bytes with
  | nil => rfl
  | cons byte bytes hypothesis => simp [hypothesis]

/-- What is behind two different byte strings of one length does not matter for their
order. -/
theorem precedes_append
    {first second : Bytes}
    (rest other : Bytes)
    (even : first.length = second.length)
    (different : first ≠ second) :
    precedes (first ++ rest) (second ++ other) = precedes first second := by
  induction first generalizing second with
  | nil =>
      cases second with
      | nil => exact absurd rfl different
      | cons byte bytes => cases even
  | cons left lefts hypothesis =>
      cases second with
      | nil => cases even
      | cons right rights =>
          rw [List.cons_append, List.cons_append, cons_precedes_cons,
            cons_precedes_cons]
          by_cases same : left = right
          · subst same
            rw [hypothesis (Nat.succ.inj even) fun equal =>
              different (congrArg (left :: ·) equal)]
          · rw [beq_eq_false_iff_ne.2 same, Bool.false_and, Bool.false_and]

/-- What is behind a byte string does not put it in front of another of its length. -/
theorem precedes_append_right
    {first second : Bytes}
    (rest : Bytes)
    (even : first.length = second.length) :
    precedes (first ++ rest) second = precedes first second := by
  by_cases same : first = second
  · have behind := precedes_append_left first rest []
    rw [List.append_nil, precedes_nil] at behind
    rw [← same, behind, precedes_self]
  · have behind := precedes_append rest [] even same
    rwa [List.append_nil] at behind

/-- Byte strings of one length are in the order of the numbers that they spell. -/
theorem precedes_eq_decide
    {first second : Bytes}
    (even : first.length = second.length) :
    precedes first second = decide (toNat first < toNat second) := by
  induction first generalizing second with
  | nil =>
      cases second with
      | nil => rfl
      | cons byte bytes => cases even
  | cons left lefts hypothesis =>
      cases second with
      | nil => cases even
      | cons right rights =>
          have even : lefts.length = rights.length := Nat.succ.inj even
          have lower := toNat_lt lefts
          have upper := toNat_lt rights
          rw [cons_precedes_cons, hypothesis even, toNat, toNat]
          rw [even] at lower ⊢
          rcases Nat.lt_trichotomy left.toNat right.toNat with
            less | same | greater
          · have scaled := Nat.mul_le_mul_right (capacity rights.length) less
            rw [Nat.succ_mul] at scaled
            have below : left.toNat * capacity rights.length + toNat lefts <
                right.toNat * capacity rights.length + toNat rights := by
              omega
            simp [UInt8.lt_iff_toNat_lt, less, below]
          · have equal : left = right := UInt8.toNat_inj.1 same
            subst equal
            simp
          · have scaled := Nat.mul_le_mul_right (capacity rights.length) greater
            rw [Nat.succ_mul] at scaled
            have above : ¬left.toNat * capacity rights.length + toNat lefts <
                right.toNat * capacity rights.length + toNat rights := by
              omega
            have different : left ≠ right := fun equal => by
              rw [equal] at greater
              exact Nat.lt_irrefl _ greater
            simp [UInt8.lt_iff_toNat_lt, Nat.not_lt.2 (Nat.le_of_lt greater),
              different, above]

end Bytes

namespace VertexId

@[simp] theorem length_key (id : VertexId) : (key id).length = 8 :=
  Bytes.length_bigEndian 8 _

/-- The key of a vertex spells its word. -/
@[simp] theorem toNat_key (id : VertexId) : Bytes.toNat (key id) = word id := by
  rw [key, Bytes.toNat_bigEndian]
  exact Nat.mod_eq_of_lt (word_lt id)

theorem key_injective {id other : VertexId} (same : key id = key other) :
    id = other := by
  have words := congrArg Bytes.toNat same
  rw [toNat_key, toNat_key] at words
  rw [← ofWord_word id, words, ofWord_word]

/-- The word of a vertex that is not negative is its number. -/
theorem toInt_eq_word {id : VertexId} (natural : 0 ≤ id) :
    id.toInt = word id := by
  have number : word id = id.toNatClampNeg := Int64.toNat_toUInt64_of_le natural
  have above : 0 ≤ id.toInt := Int64.le_iff_toInt_le.1 natural
  rw [number, Int64.toNatClampNeg, Int.toNat_of_nonneg above]

/-- The word of a vertex that is not negative leaves the sign out. -/
theorem word_lt_of_natural {id : VertexId} (natural : 0 ≤ id) :
    word id < UInt64.size / 2 := by
  have bound := Int64.toInt_lt id
  rw [toInt_eq_word natural] at bound
  have limit : (UInt64.size / 2 : Nat) = 2 ^ 63 := by decide
  omega

/-- A vertex whose word leaves the sign out is not negative. -/
theorem natural_of_word_lt {id : VertexId} (fits : word id < UInt64.size / 2) :
    0 ≤ id := by
  have bits : id.toBitVec.toNat = word id := rfl
  have number : id.toInt = id.toBitVec.toInt := rfl
  have limit : (UInt64.size / 2 : Nat) = 2 ^ 63 := by decide
  rw [Int64.le_iff_toInt_le, number, BitVec.toInt_eq_toNat_cond, bits,
    if_pos (by omega)]
  exact Int.natCast_nonneg _

/-- A vertex that is not negative is read back from its key. -/
theorem ofKey_key {id : VertexId} (natural : 0 ≤ id) :
    ofKey (key id) = .ok id := by
  have fits := word_lt_of_natural natural
  rw [ofKey, length_key, toNat_key, ofWord_word, if_neg (by simp),
    if_neg (Nat.not_le.2 fits)]

/-- A negative vertex cannot be read back from its key. -/
theorem ofKey_key_of_negative {id : VertexId} (negative : ¬0 ≤ id) :
    ofKey (key id) = .error (.decode (.keySign (word id))) := by
  have signed : UInt64.size / 2 ≤ word id := by
    rw [← Nat.not_lt]
    exact fun fits => negative (natural_of_word_lt fits)
  rw [ofKey, length_key, toNat_key, if_neg (by simp), if_pos signed]

/-- The keys of negative vertices come behind those of all others. -/
theorem natural_of_precedes_key
    {id other : VertexId}
    (before : Bytes.precedes (key id) (key other))
    (natural : 0 ≤ other) :
    0 ≤ id := by
  rw [Bytes.precedes_eq_decide (by simp), toNat_key, toNat_key] at before
  have lower : word id < word other := of_decide_eq_true before
  exact natural_of_word_lt (Nat.lt_trans lower (word_lt_of_natural natural))

/-- Keys are in the order of their vertices. -/
theorem precedes_key
    {id other : VertexId}
    (natural : 0 ≤ id)
    (naturalOther : 0 ≤ other) :
    Bytes.precedes (key id) (key other) = decide (id < other) := by
  rw [Bytes.precedes_eq_decide (by simp), toNat_key, toNat_key,
    decide_eq_decide, Int64.lt_iff_toInt_lt, toInt_eq_word natural,
    toInt_eq_word naturalOther, Int.ofNat_lt]

end VertexId

namespace Relation

@[simp] theorem length_typeKey (type : UInt64) : (typeKey type).length = 8 :=
  Bytes.length_bigEndian 8 _

@[simp] theorem toNat_typeKey (type : UInt64) :
    Bytes.toNat (typeKey type) = type.toNat := by
  rw [typeKey, Bytes.toNat_bigEndian]
  exact Nat.mod_eq_of_lt type.toNat_lt

theorem typeKey_injective {type other : UInt64}
    (same : typeKey type = typeKey other) :
    type = other := by
  have numbers := congrArg Bytes.toNat same
  rw [toNat_typeKey, toNat_typeKey] at numbers
  exact UInt64.toNat_inj.1 numbers

/-- What a column has behind the type. -/
def shapeKey : RelationShape -> Bytes
  | .property => []
  | .edge direction other => direction.tag :: VertexId.key other

theorem column_eq (relation : Relation) :
    relation.column = typeKey relation.type ++ shapeKey relation.kind := by
  obtain ⟨type, kind, value⟩ := relation
  cases kind with
  | property => exact (List.append_nil _).symm
  | edge direction other => rfl

/-- A relation is read back from the entry that stores it. -/
theorem ofEntry_entry (vertex : VertexId) (relation : Relation) :
    ofEntry vertex relation.entry = .ok relation := by
  have column : relation.entry.column =
      typeKey relation.type ++ shapeKey relation.kind := relation.column_eq
  have long : ¬relation.entry.column.length < 8 := by
    rw [column, List.length_append, length_typeKey]
    omega
  have type : UInt64.ofNat (Bytes.toNat (relation.entry.column.take 8)) =
      relation.type := by
    rw [column, List.take_left' (length_typeKey _), toNat_typeKey,
      UInt64.ofNat_toNat]
  have rest : relation.entry.column.drop 8 = shapeKey relation.kind := by
    rw [column, List.drop_left' (length_typeKey _)]
  rw [ofEntry, if_neg long, type, rest]
  obtain ⟨type, kind, value⟩ := relation
  cases kind with
  | property => rfl
  | edge direction other =>
      simp only [shapeKey, VertexId.length_key, ne_eq, not_true_eq_false,
        if_false, Direction.ofTag?_tag, VertexId.toNat_key, VertexId.ofWord_word]
      rfl

/-- Columns tell the type and the shape of what they store. -/
theorem column_injective {relation other : Relation}
    (same : relation.column = other.column) :
    relation.type = other.type ∧ relation.kind = other.kind := by
  have entry : relation.entry =
      entry { other with value := relation.value } := by
    rw [Relation.entry, Relation.entry, same]
    rfl
  have read := ofEntry_entry 0 relation
  rw [entry, ofEntry_entry] at read
  have back := Except.ok.inj read
  rw [← back]
  exact ⟨rfl, rfl⟩

/-- Columns of a lower type come first. -/
theorem precedes_column
    {relation other : Relation}
    (lower : relation.type < other.type) :
    Bytes.precedes relation.column other.column := by
  have different : typeKey relation.type ≠ typeKey other.type := fun same =>
    UInt64.ne_of_lt lower (typeKey_injective same)
  have below : relation.type.toNat < other.type.toNat :=
    UInt64.lt_iff_toNat_lt.1 lower
  rw [column_eq, column_eq, Bytes.precedes_append _ _ (by simp) different,
    Bytes.precedes_eq_decide (by simp), toNat_typeKey, toNat_typeKey]
  exact decide_eq_true below

end Relation

namespace Slice

/-- The query for a type starts behind all columns of lower types, and in front of all
others. -/
theorem precedes_start (type : UInt64) (relation : Relation) :
    Bytes.precedes relation.column (ofType type).start =
      decide (relation.type < type) := by
  rw [Relation.column_eq, ofType, Bytes.precedes_append_right _ (by simp),
    Bytes.precedes_eq_decide (by simp), Relation.toNat_typeKey,
    Relation.toNat_typeKey]
  rfl

/-- The query for a type stops in front of all columns of higher types, and behind all
others. -/
theorem precedes_stop (type : UInt64) (relation : Relation) :
    Bytes.precedes relation.column (ofType type).stop =
      decide (relation.type ≤ type) := by
  rw [Relation.column_eq]
  by_cases more : type.toNat + 1 < UInt64.size
  · have stop : (ofType type).stop = Bytes.bigEndian 8 (type.toNat + 1) :=
      if_pos more
    rw [stop, Bytes.precedes_append_right _ (by simp),
      Bytes.precedes_eq_decide (by simp), Relation.toNat_typeKey,
      Bytes.toNat_bigEndian,
      Nat.mod_eq_of_lt (show type.toNat + 1 < Bytes.capacity 8 from more),
      decide_eq_decide,
      UInt64.le_iff_toNat_le, Nat.lt_succ_iff]
  · -- No type is higher than this one, which is spelled in the highest bytes.
    have last : type = UInt64.ofNat (UInt64.size - 1) := by
      have bound := type.toNat_lt_size
      apply UInt64.toNat_inj.1
      rw [UInt64.toNat_ofNat_of_lt' (by decide)]
      omega
    have lower : relation.type ≤ type := by
      have bound := relation.type.toNat_lt_size
      rw [UInt64.le_iff_toNat_le]
      omega
    have stop : (ofType type).stop = Relation.typeKey type ++ [0xff] := by
      rw [last]
      decide +kernel
    rw [stop, decide_eq_true lower]
    by_cases same : relation.type = type
    · rw [same, Bytes.precedes_append_left]
      cases relation.kind with
      | property => rfl
      | edge direction other => cases direction <;> rfl
    · have different : Relation.typeKey relation.type ≠ Relation.typeKey type :=
        fun equal => same (Relation.typeKey_injective equal)
      rw [Bytes.precedes_append _ _ (by simp) different,
        Bytes.precedes_eq_decide (by simp), Relation.toNat_typeKey,
        Relation.toNat_typeKey]
      exact decide_eq_true (UInt64.lt_iff_toNat_lt.1
        (UInt64.lt_of_le_of_ne lower same))

/-- The query for a type contains the columns of the type. -/
theorem contains_column (type : UInt64) (relation : Relation) :
    (ofType type).contains relation.column = decide (relation.type = type) := by
  rw [contains, precedes_start, precedes_stop, ← decide_not, ← Bool.decide_and,
    decide_eq_decide, UInt64.not_lt]
  exact ⟨fun both => UInt64.le_antisymm both.2 both.1, fun same =>
    same ▸ ⟨UInt64.le_refl _, UInt64.le_refl _⟩⟩

end Slice
end GraphSweep
