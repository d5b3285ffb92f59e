import GraphSweep.Proofs.GraphStore.Columns

/-!
# Reading keys

The keys of the vertices that are not negative are the strings of eight bytes that leave
the sign out, and each of them is read as the vertex whose key it is. Keys are in the
order of their vertices, byte by byte, so keys that ascend are read as vertices that
ascend.
-/

namespace GraphSweep

/-- Eight bytes spell a number that leaves the sign out exactly if the first one does. -/
theorem Bytes.toNat_cons_lt_iff {first : UInt8} {rest : Bytes}
    (even : rest.length = 7) :
    toNat (first :: rest) < UInt64.size / 2 ↔ first < 0x80 := by
  have low := toNat_lt rest
  have unit : UInt64.size / 2 = 0x80 * capacity 7 := by decide
  rw [even] at low
  rw [toNat, even, unit, UInt8.lt_iff_toNat_lt,
    show (0x80 : UInt8).toNat = 0x80 from rfl]
  constructor
  · intro fits
    exact Nat.lt_of_mul_lt_mul_right
      (Nat.lt_of_le_of_lt (Nat.le_add_right _ _) fits)
  · intro less
    have scaled := Nat.mul_le_mul_right (capacity 7) less
    rw [Nat.succ_mul] at scaled
    omega

namespace VertexId

variable {bytes : Bytes} {id other : VertexId}

/-- What is read as a vertex is the key of a vertex that is not negative. -/
theorem ofKey_eq_ok_iff : ofKey bytes = .ok id ↔ 0 ≤ id ∧ key id = bytes := by
  constructor
  · intro read
    unfold ofKey at read
    split at read
    · cases read
    · next even =>
      have even : bytes.length = 8 := Decidable.not_not.1 even
      split at read
      · cases read
      · next fits =>
        cases read
        refine ⟨natural_of_word_lt ?_, key_ofWord_toNat even⟩
        rw [word_ofWord, Nat.mod_eq_of_lt (Bytes.toNat_lt_size even)]
        exact Nat.lt_of_not_le fits
  · rintro ⟨natural, rfl⟩
    exact ofKey_key natural

/-- A byte string can be read as a vertex exactly if it has eight bytes of which the first
leaves the sign out. -/
theorem exists_ofKey_eq_ok :
    (∃ id, ofKey bytes = .ok id) ↔
      bytes.length = 8 ∧ ∃ first ∈ bytes.head?, first < 0x80 := by
  cases bytes with
  | nil =>
      constructor
      · rintro ⟨id, read⟩
        cases read
      · rintro ⟨even, -⟩
        cases even
  | cons first rest =>
      by_cases even : rest.length = 7
      · have length : (first :: rest).length = 8 := congrArg (· + 1) even
        have low : Bytes.toNat (first :: rest) < UInt64.size / 2 ↔
            first < 0x80 := Bytes.toNat_cons_lt_iff even
        rw [ofKey, if_neg (Decidable.not_not.2 length)]
        by_cases small : first < 0x80
        · rw [if_neg (Nat.not_le.2 (low.2 small))]
          exact ⟨fun _ => ⟨length, first, rfl, small⟩, fun _ => ⟨_, rfl⟩⟩
        · rw [if_pos (Nat.le_of_not_lt fun fits => small (low.1 fits))]
          constructor
          · rintro ⟨id, read⟩
            cases read
          · rintro ⟨-, head, here, less⟩
            exact absurd (Option.some.inj here ▸ less) small
      · have odd : (first :: rest).length ≠ 8 := fun length =>
          even (Nat.succ.inj length)
        rw [ofKey, if_pos odd]
        constructor
        · rintro ⟨id, read⟩
          cases read
        · rintro ⟨length, -⟩
          exact absurd length odd

/-- What cannot be read as a vertex cannot be decoded. -/
theorem decode_of_ofKey_eq_error {error : StorageError}
    (fails : ofKey bytes = .error error) :
    ∃ fault, error = .decode fault := by
  unfold ofKey at fails
  split at fails
  · cases fails
    exact ⟨_, rfl⟩
  · split at fails
    · cases fails
      exact ⟨_, rfl⟩
    · cases fails

/-- Vertices that are not negative are in the lexicographic order of their keys. -/
theorem lt_iff_lex_key (natural : 0 ≤ id) (naturalOther : 0 ≤ other) :
    id < other ↔ List.Lex (· < ·) (key id) (key other) := by
  rw [← Bytes.precedes_iff_lex, precedes_key natural naturalOther,
    decide_eq_true_iff]

/-- Keys that ascend are read as vertices that ascend. -/
theorem pairwise_read {keys : List Bytes}
    (ascend : keys.Pairwise (List.Lex (· < ·))) :
    (keys.filterMap fun bytes => (ofKey bytes).toOption).Pairwise
      (· < ·) := by
  have spells {bytes : Bytes} {id : VertexId}
      (read : (ofKey bytes).toOption = some id) :
      0 ≤ id ∧ key id = bytes := by
    apply ofKey_eq_ok_iff.1
    cases outcome : ofKey bytes with
    | error error =>
        rw [outcome] at read
        cases read
    | ok named =>
        rw [outcome] at read
        exact congrArg Except.ok (Option.some.inj read)
  rw [List.pairwise_filterMap]
  refine ascend.imp ?_
  intro one another before id here other there
  obtain ⟨natural, rfl⟩ := spells here
  obtain ⟨naturalOther, rfl⟩ := spells there
  exact (lt_iff_lex_key natural naturalOther).2 before

/-- Reading a key undoes writing it, and orders are kept. A byte string is read as a vertex
exactly if it has eight bytes of which the first leaves the sign out, and then it is the
key of that vertex; any other one cannot be decoded. A vertex is read back from its key
exactly if it is not negative. Vertices that are not negative are in the lexicographic
order of their keys, so that keys that ascend are read as vertices that ascend. -/
theorem reading_keys_keeps_order :
    (∀ bytes : Bytes,
      (∃ id, ofKey bytes = .ok id) ↔
        bytes.length = 8 ∧ ∃ first ∈ bytes.head?, first < 0x80) ∧
    (∀ (bytes : Bytes) (id : VertexId),
      ofKey bytes = .ok id -> key id = bytes) ∧
    (∀ (bytes : Bytes) (error : StorageError),
      ofKey bytes = .error error -> ∃ fault, error = .decode fault) ∧
    (∀ id : VertexId, 0 ≤ id -> ofKey (key id) = .ok id) ∧
    (∀ id : VertexId, id < 0 ->
      ofKey (key id) = .error (.decode (.keySign (word id)))) ∧
    (∀ id other : VertexId, 0 ≤ id -> 0 ≤ other ->
      (id < other ↔ List.Lex (· < ·) (key id) (key other))) ∧
    ∀ keys : List Bytes, keys.Pairwise (List.Lex (· < ·)) ->
      (keys.filterMap fun bytes => (ofKey bytes).toOption).Pairwise
        (· < ·) := by
  refine ⟨?readable, ?spelled, ?undecodable, ?natural, ?negative, ?ordered,
    ?ascending⟩
  case readable =>
    intro bytes
    exact exists_ofKey_eq_ok
  case spelled =>
    intro bytes id read
    exact (ofKey_eq_ok_iff.1 read).2
  case undecodable =>
    intro bytes error
    exact decode_of_ofKey_eq_error
  case natural =>
    intro id
    exact ofKey_key
  case negative =>
    intro id below
    exact ofKey_key_of_negative (Int64.not_le.2 below)
  case ordered =>
    intro id other
    exact lt_iff_lex_key
  case ascending =>
    intro keys
    exact pairwise_read

theorem reading_keys_around_sign :
    ofKey [0, 0, 0, 0, 0, 0, 1, 44] = .ok 300 ∧
    key 300 = [0, 0, 0, 0, 0, 0, 1, 44] ∧
    0 ≤ (5 : VertexId) ∧
    ofKey (key 5) = .ok 5 ∧
    (-1 : VertexId) < 0 ∧
    ofKey (key (-1)) =
      .error (.decode (.keySign 18446744073709551615)) ∧
    List.Lex (· < ·) (key 5) (key 300) ∧
    (¬∃ id, ofKey [0, 0, 0, 0, 0, 1, 44] = .ok id) := by
  obtain ⟨readable, spelled, -, natural, negative, ordered, -⟩ :=
    reading_keys_keeps_order
  have read : ofKey [0, 0, 0, 0, 0, 0, 1, 44] = .ok 300 :=
    ofKey_eq_ok_iff.2 ⟨by decide, by decide⟩
  have five : 0 ≤ (5 : VertexId) := by decide
  have below : (-1 : VertexId) < 0 := by decide
  refine ⟨read, spelled _ _ read, five, natural 5 five, below,
    negative (-1) below, (ordered 5 300 five (by decide)).1 (by decide), ?_⟩
  intro named
  have even := ((readable _).1 named).1
  cases even

end VertexId
end GraphSweep
