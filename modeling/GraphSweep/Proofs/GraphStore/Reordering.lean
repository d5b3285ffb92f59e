import GraphSweep.Proofs.GraphStore.Records

/-!
# Writes in another order

A store is told by the vertices that have a row and by what their rows hold. So where
all entries that go into one column of a row are the same, and marks are taken only at
the end, writes leave the same store in whatever order they come, and however often.
-/

namespace GraphSweep

/-- Lists of the same entries have the same last entry in a column, where columns tell
the entries apart. -/
theorem Entry.latest?_congr
    {entries others : List Entry}
    (same : ∀ entry, entry ∈ entries ↔ entry ∈ others)
    (told : ∀ one ∈ entries, ∀ other ∈ entries,
      one.column = other.column -> one = other)
    (column : Bytes) :
    latest? entries column = latest? others column := by
  have toldOthers : ∀ one ∈ others, ∀ other ∈ others,
      one.column = other.column -> one = other := fun one first other second =>
    told one ((same one).2 first) other ((same other).2 second)
  ext entry
  constructor
  · intro latest
    obtain ⟨member, rfl⟩ := of_latest?_eq_some latest
    exact (latest?_eq_some_iff toldOthers).2 ((same entry).1 member)
  · intro latest
    obtain ⟨member, rfl⟩ := of_latest?_eq_some latest
    exact (latest?_eq_some_iff told).2 ((same entry).2 member)

namespace GraphStore

/-- Whether there is a row for a vertex, even an empty one. -/
def HasRow (store : GraphStore) (vertex : VertexId) : Prop :=
  (store.table.find? (VertexId.key vertex)).isSome = true

section HasRow

variable {store : GraphStore} {vertex other : VertexId}

theorem hasRow_insert (entry : Entry) :
    HasRow (store.insert vertex entry) other ↔
      vertex = other ∨ store.HasRow other := by
  rw [HasRow, insert, ByteMap.find?_insert]
  by_cases same : vertex = other
  · simp [same]
  · have apart : VertexId.key vertex ≠ VertexId.key other := fun equal =>
      same (VertexId.key_injective equal)
    rw [if_neg apart, or_iff_right same]
    rfl

/-- Taking a mark away neither makes nor removes a row. -/
theorem hasRow_unmark :
    HasRow (store.unmark vertex) other ↔ store.HasRow other := by
  unfold unmark
  cases found : store.table.find? (VertexId.key vertex) with
  | none => rfl
  | some held =>
      rw [HasRow, HasRow, ByteMap.find?_insert]
      by_cases same : VertexId.key vertex = VertexId.key other
      · rw [if_pos same, ← same, found]
        rfl
      · rw [if_neg same]

theorem hasRow_inserts (puts : List (VertexId × Entry)) :
    HasRow (puts.foldl (fun current put => current.insert put.1 put.2) store)
        vertex ↔
      (∃ entry, (vertex, entry) ∈ puts) ∨ store.HasRow vertex := by
  induction puts using List.reverseRecOn with
  | nil => simp
  | append_singleton puts put hypothesis =>
      rw [List.foldl_append, List.foldl_cons, List.foldl_nil, hasRow_insert,
        hypothesis, ← or_assoc]
      refine or_congr_left ?_
      constructor
      · rintro (rfl | ⟨entry, member⟩)
        · exact ⟨put.2, List.mem_append_right _ (List.mem_singleton_self put)⟩
        · exact ⟨entry, List.mem_append_left _ member⟩
      · rintro ⟨entry, member⟩
        rcases List.mem_append.1 member with earlier | last
        · exact Or.inr ⟨entry, earlier⟩
        · exact Or.inl (congrArg Prod.fst (List.mem_singleton.1 last)).symm

theorem hasRow_perform (write : Write) :
    HasRow (store.perform write) vertex ↔
      (∃ entry, (vertex, entry) ∈ write.puts store.layout) ∨
        store.HasRow vertex := by
  by_cases puts : ∀ taken, write ≠ .unmark taken
  · rw [perform_eq_inserts puts, hasRow_inserts]
  · simp only [not_forall, not_not] at puts
    obtain ⟨taken, rfl⟩ := puts
    rw [perform, hasRow_unmark]
    simp [Write.puts]

/-- A vertex has a row once something has been put there. -/
theorem hasRow_ofWrites (layout : IdLayout) (writes : List Write) :
    HasRow (ofWrites layout writes) vertex ↔
      ∃ entry, entry ∈ written layout writes vertex := by
  induction writes using List.reverseRecOn with
  | nil => simp [HasRow, ofWrites, empty, written, entriesFor]
  | append_singleton writes write hypothesis =>
      rw [ofWrites_concat, hasRow_perform, hypothesis, written_concat,
        (ofWrites_frame layout writes).1, or_comm, ← exists_or]
      simp only [List.mem_append, mem_entriesFor]

end HasRow

/-- A store is told by which vertices have rows, and by what is in these. -/
theorem ext_rows
    {store other : GraphStore}
    (keyed : store.Keyed)
    (keyedOther : other.Keyed)
    (layout : store.layout = other.layout)
    (faults : store.faults = other.faults)
    (present : ∀ vertex, store.HasRow vertex ↔ other.HasRow vertex)
    (rows : ∀ vertex column,
      (store.row vertex).find? column = (other.row vertex).find? column) :
    store = other := by
  have held (vertex : VertexId) :
      store.table.find? (VertexId.key vertex) =
        other.table.find? (VertexId.key vertex) := by
    have same : store.row vertex = other.row vertex :=
      ByteMap.ext_find? (rows vertex)
    have both := present vertex
    rw [HasRow, HasRow] at both
    rw [row, row] at same
    cases here : store.table.find? (VertexId.key vertex) with
    | none =>
        rw [here] at both
        exact (Option.not_isSome_iff_eq_none.1 fun there =>
          Bool.false_ne_true (both.2 there)).symm
    | some row =>
        rw [here] at both same
        obtain ⟨rowOther, there⟩ := Option.isSome_iff_exists.1 (both.1 rfl)
        rw [there] at same ⊢
        exact congrArg some same
  have tables : store.table = other.table := by
    apply ByteMap.ext_find?
    intro key
    by_cases vertex : ∃ vertex : VertexId, key = VertexId.key vertex
    · obtain ⟨vertex, rfl⟩ := vertex
      exact held vertex
    · rw [Option.eq_none_iff_forall_ne_some.2 fun row found =>
          vertex (keyed key row found),
        Option.eq_none_iff_forall_ne_some.2 fun row found =>
          vertex (keyedOther key row found)]
  obtain ⟨_, _, _⟩ := store
  obtain ⟨_, _, _⟩ := other
  cases layout
  cases faults
  cases tables
  rfl

/-- Writes leave rows of vertices only. -/
theorem keyed_ofWrites (layout : IdLayout) (writes : List Write) :
    Keyed (ofWrites layout writes) := by
  have assembled : Assembled (ofWrites layout writes) := by
    induction writes using List.reverseRecOn with
    | nil => exact .empty layout
    | append_singleton writes write hypothesis =>
        rw [ofWrites_concat]
        exact hypothesis.perform write
  exact assembled.keyed

/-! ## Marks that are taken at the end -/

section Settled

variable
  {layout : IdLayout}
  {writes others : List Write}
  {taken dropped : List VertexId}
  {vertex : VertexId}
  {column : Bytes}

/-- Where the mark of a vertex is not taken away, its row holds in every column what was
written there last. -/
theorem find?_row_of_kept (kept : .unmark vertex ∉ writes) :
    (row (ofWrites layout writes) vertex).find? column =
      (Entry.latest? (written layout writes vertex) column).map
        Entry.value := by
  induction writes using List.reverseRecOn with
  | nil => rfl
  | append_singleton writes write hypothesis =>
      rw [List.mem_append, not_or] at kept
      have other : write ≠ .unmark vertex := fun same =>
        kept.2 (List.mem_singleton.2 same.symm)
      rw [ofWrites_concat, find?_row_perform, hypothesis kept.1,
        written_concat, Entry.latest?_append, Option.map_or,
        (ofWrites_frame layout writes).1, if_neg fun taken => other taken.1]

/-- Taking marks at the end takes nothing but those marks from the rows. -/
theorem find?_row_unmarks :
    (row (ofWrites layout (writes ++ taken.map .unmark)) vertex).find?
        column =
      if vertex ∈ taken ∧
          column = Relation.columnOfProperty Relation.markerType then none
      else (row (ofWrites layout writes) vertex).find? column := by
  induction taken using List.reverseRecOn with
  | nil => simp
  | append_singleton taken last hypothesis =>
      rw [List.map_append, ← List.append_assoc, List.map_singleton,
        ofWrites_concat, perform, find?_row_unmark, hypothesis]
      by_cases here : last = vertex
      · by_cases marker :
            column = Relation.columnOfProperty Relation.markerType <;>
          simp [here, marker]
      · simp [here, Ne.symm here]

/-- Taking marks writes nothing. -/
theorem written_unmarks :
    written layout (writes ++ taken.map .unmark) vertex =
      written layout writes vertex := by
  have nothing : (taken.map Write.unmark).flatMap (Write.puts layout) = [] := by
    rw [List.flatMap_eq_nil_iff]
    rintro write member
    obtain ⟨id, -, rfl⟩ := List.mem_map.1 member
    rfl
  rw [written, written, List.flatMap_append, nothing, List.append_nil]

/-- Writes of the same entries, one for each column of a row, leave the same store if the
same marks are taken afterwards. -/
theorem ofWrites_congr
    (kept : ∀ vertex, .unmark vertex ∉ writes)
    (told : ∀ vertex,
      ∀ one ∈ written layout writes vertex,
      ∀ other ∈ written layout writes vertex,
        one.column = other.column -> one = other)
    (same : ∀ write, write ∈ writes ↔ write ∈ others)
    (marks : ∀ vertex, vertex ∈ taken ↔ vertex ∈ dropped) :
    ofWrites layout (writes ++ taken.map .unmark) =
      ofWrites layout (others ++ dropped.map .unmark) := by
  have entries (vertex : VertexId) (entry : Entry) :
      entry ∈ written layout writes vertex ↔
        entry ∈ written layout others vertex := by
    simp only [written, mem_entriesFor, List.mem_flatMap, same]
  apply ext_rows (keyed_ofWrites _ _) (keyed_ofWrites _ _)
  · rw [(ofWrites_frame _ _).1, (ofWrites_frame _ _).1]
  · rw [(ofWrites_frame _ _).2, (ofWrites_frame _ _).2]
  · intro vertex
    rw [hasRow_ofWrites, hasRow_ofWrites, written_unmarks, written_unmarks]
    exact exists_congr (entries vertex)
  · intro vertex column
    have before : (row (ofWrites layout writes) vertex).find? column =
        (row (ofWrites layout others) vertex).find? column := by
      rw [find?_row_of_kept (kept vertex),
        find?_row_of_kept (mt (same _).2 (kept vertex)),
        Entry.latest?_congr (entries vertex) (told vertex) column]
    rw [find?_row_unmarks, find?_row_unmarks, before]
    simp only [marks vertex]

end Settled

end GraphStore
end GraphSweep
