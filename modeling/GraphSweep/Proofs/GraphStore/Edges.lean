import GraphSweep.Proofs.GraphStore.History

/-!
# Edges at both ends

An edge is put into the rows of both its ends, into a column that nothing else is put
into. The two rows are written one after the other and nothing in the store ties them
together. Still the edge is at both ends or at neither, whatever else is written: only
the write of the edge changes the two columns, and it fills both.
-/

namespace GraphSweep

/-- Edge columns tell the type, the direction and the other end. -/
theorem Relation.columnOfEdge_eq_iff
    {type label : UInt64}
    {direction heading : Direction}
    {other far : VertexId} :
    columnOfEdge type direction other = columnOfEdge label heading far ↔
      type = label ∧ direction = heading ∧ other = far := by
  constructor
  · intro same
    obtain ⟨types, kinds⟩ := @column_injective
      ⟨type, .edge direction other, []⟩ ⟨label, .edge heading far, []⟩ same
    obtain ⟨directions, others⟩ := RelationShape.edge.inj kinds
    exact ⟨types, directions, others⟩
  · rintro ⟨rfl, rfl, rfl⟩
    rfl

/-- The column of a property is not the column of an edge. -/
theorem Relation.columnOfProperty_ne_columnOfEdge
    (type label : UInt64)
    (direction : Direction)
    (other : VertexId) :
    columnOfProperty type ≠ columnOfEdge label direction other := by
  intro same
  obtain ⟨-, kinds⟩ := @column_injective
    ⟨type, .property, []⟩ ⟨label, .edge direction other, []⟩ same
  cases kinds

namespace GraphStore

/-- The write of the edge that a vertex has in a direction. -/
def Write.edge (type : UInt64) (vertex other : VertexId) : Direction -> Write
  | .outgoing => .addEdge type vertex other
  | .incoming => .addEdge type other vertex

section Column

variable
  {type : UInt64}
  {direction : Direction}
  {vertex other : VertexId}

/-- Only the write of an edge puts something into the column of the edge, and what it
puts there has no value. -/
theorem Write.puts_columnOfEdge_iff
    (layout : IdLayout)
    {write : Write}
    {entry : Entry} :
    (vertex, entry) ∈ write.puts layout ∧
        entry.column = Relation.columnOfEdge type direction other ↔
      write = .edge type vertex other direction ∧
        entry = ⟨Relation.columnOfEdge type direction other, []⟩ := by
  constructor
  · rintro ⟨puts, same⟩
    cases write with
    | addVertex marked =>
        obtain ⟨-, rfl⟩ := Prod.mk.inj (List.mem_singleton.1 puts)
        exact absurd same (Relation.columnOfProperty_ne_columnOfEdge _ _ _ _)
    | addPartitioned count partitions =>
        obtain ⟨sibling, -, put⟩ := List.mem_map.1 puts
        obtain ⟨-, rfl⟩ := Prod.mk.inj put
        exact absurd same (Relation.columnOfProperty_ne_columnOfEdge _ _ _ _)
    | unmark taken => cases puts
    | addEdge label source target =>
        rcases List.mem_cons.1 puts with first | second
        · obtain ⟨rfl, rfl⟩ := Prod.mk.inj first
          obtain ⟨rfl, rfl, rfl⟩ := Relation.columnOfEdge_eq_iff.1 same
          exact ⟨rfl, rfl⟩
        · obtain ⟨rfl, rfl⟩ := Prod.mk.inj (List.mem_singleton.1 second)
          obtain ⟨rfl, rfl, rfl⟩ := Relation.columnOfEdge_eq_iff.1 same
          exact ⟨rfl, rfl⟩
    | putProperty owner property value =>
        obtain ⟨-, rfl⟩ := Prod.mk.inj (List.mem_singleton.1 puts)
        exact absurd same (Relation.columnOfProperty_ne_columnOfEdge _ _ _ _)
  · rintro ⟨rfl, rfl⟩
    refine ⟨?_, rfl⟩
    cases direction with
    | outgoing => exact List.mem_cons_self
    | incoming => exact List.mem_cons_of_mem _ (List.mem_singleton_self _)

/-- What a write leaves in the column of an edge: an entry without a value if it is the
write of the edge, and what was there if it is any other. -/
theorem find?_columnOfEdge_perform (store : GraphStore) (write : Write) :
    (row (store.perform write) vertex).find?
        (Relation.columnOfEdge type direction other) =
      if write = .edge type vertex other direction then some []
      else (store.row vertex).find?
        (Relation.columnOfEdge type direction other) := by
  have kept : ¬(write = .unmark vertex ∧
      Relation.columnOfEdge type direction other =
        Relation.columnOfProperty Relation.markerType) := fun both =>
    Relation.columnOfProperty_ne_columnOfEdge _ _ _ _ both.2.symm
  rw [find?_row_perform, if_neg kept]
  by_cases adds : write = .edge type vertex other direction
  · obtain ⟨puts, -⟩ :=
      (Write.puts_columnOfEdge_iff store.layout).2 ⟨adds, rfl⟩
    obtain ⟨entry, latest⟩ := Entry.exists_latest? (mem_entriesFor.2 puts)
    obtain ⟨member, same⟩ := Entry.of_latest?_eq_some latest
    obtain ⟨-, rfl⟩ := (Write.puts_columnOfEdge_iff store.layout).1
      ⟨mem_entriesFor.1 member, same⟩
    rw [latest, if_pos adds]
    rfl
  · have none : Entry.latest? (entriesFor vertex (write.puts store.layout))
        (Relation.columnOfEdge type direction other) = none := by
      rw [Option.eq_none_iff_forall_ne_some]
      intro entry latest
      obtain ⟨member, same⟩ := Entry.of_latest?_eq_some latest
      exact adds ((Write.puts_columnOfEdge_iff store.layout).1
        ⟨mem_entriesFor.1 member, same⟩).1
    rw [none, if_neg adds]
    rfl

/-- A store that has been written to has an edge in the row of a vertex exactly when
the edge has been written. -/
theorem contains_columnOfEdge_ofWrites (layout : IdLayout) (writes : List Write) :
    (row (ofWrites layout writes) vertex).contains
        (Relation.columnOfEdge type direction other) = true ↔
      .edge type vertex other direction ∈ writes := by
  rw [ByteMap.contains]
  induction writes using List.reverseRecOn with
  | nil => simp [ofWrites, row, empty]
  | append_singleton writes write hypothesis =>
      rw [ofWrites_concat, find?_columnOfEdge_perform, List.mem_append,
        List.mem_singleton, ← hypothesis, eq_comm (b := write)]
      by_cases adds : write = .edge type vertex other direction <;> simp [adds]

end Column

/-- An edge is stored at both its ends or at neither, and at both exactly when it has
been written: of all writes to a store, only the write of the edge changes what is in
its two columns, and it fills both. -/
theorem edges_are_stored_at_both_ends
    (layout : IdLayout)
    (writes : List Write)
    (type : UInt64)
    (source target : VertexId) :
    ((row (ofWrites layout writes) source).contains
          (Relation.columnOfEdge type .outgoing target) = true ↔
        (row (ofWrites layout writes) target).contains
          (Relation.columnOfEdge type .incoming source) = true) ∧
    ((row (ofWrites layout writes) source).contains
          (Relation.columnOfEdge type .outgoing target) = true ↔
        .addEdge type source target ∈ writes) ∧
    ∀ (store : GraphStore) (write : Write),
      (row (store.perform write) source).find?
          (Relation.columnOfEdge type .outgoing target) =
        (if write = .addEdge type source target then some []
        else (store.row source).find?
          (Relation.columnOfEdge type .outgoing target)) ∧
      (row (store.perform write) target).find?
          (Relation.columnOfEdge type .incoming source) =
        (if write = .addEdge type source target then some []
        else (store.row target).find?
          (Relation.columnOfEdge type .incoming source)) := by
  have leaving : (row (ofWrites layout writes) source).contains
      (Relation.columnOfEdge type .outgoing target) = true ↔
        .addEdge type source target ∈ writes :=
    contains_columnOfEdge_ofWrites layout writes
  have arriving : (row (ofWrites layout writes) target).contains
      (Relation.columnOfEdge type .incoming source) = true ↔
        .addEdge type source target ∈ writes :=
    contains_columnOfEdge_ofWrites layout writes
  refine ⟨leaving.trans arriving.symm, leaving, fun store write => ⟨?_, ?_⟩⟩
  · exact find?_columnOfEdge_perform store write
  · exact find?_columnOfEdge_perform store write

end GraphStore
end GraphSweep
