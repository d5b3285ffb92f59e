import GraphSweep.Proofs.Fixture.Contents
import Mathlib.Data.Set.List

/-!
# What a job is handed of a fixture

A job over a snapshot of a stored fixture is handed for a piece of a vertex the edges
that the piece stores, each once. So it sees as many neighbours as there are such
edges, and they tell which vertices they are of.
-/

namespace GraphSweep

theorem Relation.entry_injective : Function.Injective Relation.entry := by
  intro relation other same
  obtain ⟨type, kind⟩ := Relation.column_injective
    (show relation.column = other.column from congrArg Entry.column same)
  have value : relation.value = other.value := congrArg Entry.value same
  obtain ⟨_, _, _⟩ := relation
  obtain ⟨_, _, _⟩ := other
  cases type
  cases kind
  cases value
  rfl

/-- Relations are read back from the entries that store them. -/
theorem View.readAll_entries (vertex : VertexId) (relations : List Relation) :
    readAll vertex (relations.map Relation.entry) = .ok relations := by
  induction relations with
  | nil => rfl
  | cons relation relations hypothesis =>
      rw [List.map_cons, readAll, Relation.ofEntry_entry, hypothesis]
      rfl

namespace Fixture

variable
  {fixture : Fixture}
  {vertex : FixtureVertex}
  {index : Nat}
  {label : UInt64}

/-- The other end of an edge is declared. -/
theorem declared_of_mem_ends
    (storable : fixture.Storable)
    {id : UInt64}
    {tip : Direction × UInt64}
    (member : tip ∈ fixture.ends label id) :
    tip.2 ∈ fixture.vertices.map FixtureVertex.id := by
  obtain ⟨edge, among, -, seen⟩ := mem_ends.1 member
  have declared := (declared_seen storable among tip.1).2
  rw [seen] at declared
  exact declared

/-- Edges of a vertex are stored as different relations. -/
theorem relationOf_injective
    (storable : fixture.Storable)
    (fits : fixture.Fits)
    {id : UInt64}
    {one other : Direction × UInt64}
    (first : one ∈ fixture.ends label id)
    (second : other ∈ fixture.ends label id)
    (same : fixture.relationOf label id one =
      fixture.relationOf label id other) :
    one = other := by
  obtain ⟨direction, piece⟩ :=
    RelationShape.edge.inj (congrArg Relation.kind same)
  have counts := congrArg fixture.layout.count piece
  rw [count_sibling storable fits (declared_of_mem_ends storable first),
    count_sibling storable fits (declared_of_mem_ends storable second)] at counts
  exact Prod.ext direction counts

/-- The columns of a piece tell what is written in them. -/
theorem told_written
    (storable : fixture.Storable)
    (fits : fixture.Fits)
    (declared : vertex ∈ fixture.vertices)
    (within : index < vertex.partitions.toNat) :
    let written := GraphStore.written fixture.layout fixture.writes
      (vertex.piece fixture.layout index)
    ∀ one ∈ written, ∀ other ∈ written,
      one.column = other.column -> one = other := by
  intro written one first other second same
  have free {label : UInt64} {tip : Direction × UInt64}
      (member : tip ∈ fixture.endsAt label vertex index) :
      Relation.column (fixture.relationOf label vertex.id tip) ≠
        Relation.columnOfProperty Relation.markerType := by
    obtain ⟨edge, among, rfl, -⟩ := mem_ends.1 (Finset.mem_filter.1 member).1
    exact GraphStore.column_ne_marker (free_type (storable.labels edge among))
  rcases (mem_written_piece storable fits declared within).1 first with
    rfl | ⟨label, tip, member, rfl⟩ <;>
    rcases (mem_written_piece storable fits declared within).1 second with
      rfl | ⟨labelOther, tipOther, memberOther, rfl⟩
  · rfl
  · exact absurd same.symm (free memberOther)
  · exact absurd same (free member)
  · exact congrArg (Entry.mk · []) same

section Snapshot

variable
  {σ ρ : Type}
  {job : Job σ ρ}
  {launch : Launch}

/-- What a job is handed for a piece: the edges that it stores. -/
theorem entries_perm
    (opening : job.Opening (Transaction.begin
      (GraphStore.ofWrites fixture.layout fixture.writes)).context launch)
    (storable : fixture.Storable)
    (fits : fixture.Fits)
    (live : fixture.Live vertex)
    (within : index < vertex.partitions.toNat)
    (room : label.toNat + Relation.firstFreeType.toNat < UInt64.size)
    (registered : Slice.ofType (Relation.firstFreeType + label) ∈
      registerQueries job.queries) :
    ((opening.viewOf (vertex.piece fixture.layout index)).entries
        (Slice.ofType (Relation.firstFreeType + label))).Perm
      ((fixture.endsAt label vertex index).toList.map fun tip =>
        (fixture.relationOf label vertex.id tip).entry) := by
  have admissible := admissible_writes storable
  have marked := (marked_iff storable fits).2 ⟨vertex, live.declared, live.kept,
    FixtureVertex.piece_mem_pieces within⟩
  obtain ⟨selected, entries, ascending, found⟩ :=
    opening.prefetches_viewOf admissible
      ((vertex.isHidden_piece index).trans live.shown) marked registered
  have all : (Slice.ofType (Relation.firstFreeType + label)).bound selected =
      selected := rfl
  rw [entries, all, List.perm_ext_iff_of_nodup]
  · intro entry
    rw [found, List.mem_map]
    have view : (opening.viewOf (vertex.piece fixture.layout index)).id =
        vertex.piece fixture.layout index := rfl
    rw [view, Entry.latest?_eq_some_iff
        (told_written storable fits live.declared within),
      mem_written_piece storable fits live.declared within]
    constructor
    · rintro ⟨contained, rfl | ⟨written, tip, member, rfl⟩⟩
      · have reserved := of_decide_eq_true
          ((Slice.contains_column _ GraphStore.marker).symm.trans contained)
        have free := free_type room
        rw [← reserved] at free
        exact absurd free (by decide)
      · have type := of_decide_eq_true ((Slice.contains_column _
          (fixture.relationOf written vertex.id tip)).symm.trans contained)
        have same : written = label := label_injective type
        subst same
        exact ⟨tip, Finset.mem_toList.2 member, rfl⟩
    · rintro ⟨tip, member, rfl⟩
      refine ⟨?_, Or.inr ⟨label, tip, Finset.mem_toList.1 member, rfl⟩⟩
      exact (Slice.contains_column _ (fixture.relationOf label vertex.id
        tip)).trans (decide_eq_true rfl)
  · refine ascending.imp ?_
    rintro entry other before rfl
    rw [Bytes.precedes_self] at before
    cases before
  · refine List.Nodup.map_on ?_ (Finset.nodup_toList _)
    intro one first other second same
    exact relationOf_injective storable fits
      (Finset.mem_filter.1 (Finset.mem_toList.1 first)).1
      (Finset.mem_filter.1 (Finset.mem_toList.1 second)).1
      (Relation.entry_injective same)

/-- The neighbours that a job sees of a piece: the other ends of the edges that it
stores. -/
theorem neighbors_perm
    (opening : job.Opening (Transaction.begin
      (GraphStore.ofWrites fixture.layout fixture.writes)).context launch)
    (storable : fixture.Storable)
    (fits : fixture.Fits)
    (live : fixture.Live vertex)
    (within : index < vertex.partitions.toNat)
    (room : label.toNat + Relation.firstFreeType.toNat < UInt64.size)
    (registered : Slice.ofType (Relation.firstFreeType + label) ∈
      registerQueries job.queries) :
    ∃ neighbors,
      (opening.viewOf (vertex.piece fixture.layout index)).neighbors
        (Slice.ofType (Relation.firstFreeType + label)) = .ok neighbors ∧
      (neighbors.map fixture.layout.count).Perm
        ((fixture.endsAt label vertex index).toList.map Prod.snd) := by
  have perm := entries_perm opening storable fits live within room registered
  have range : (opening.viewOf (vertex.piece fixture.layout index)).entries
      (Slice.ofType (Relation.firstFreeType + label)) ∈
      Set.range (List.map Relation.entry) := by
    rw [Set.range_list_map]
    intro entry member
    obtain ⟨tip, -, rfl⟩ := List.mem_map.1 (perm.mem_iff.1 member)
    exact ⟨_, rfl⟩
  obtain ⟨relations, entries⟩ := range
  have related : relations.Perm ((fixture.endsAt label vertex index).toList.map
      (fixture.relationOf label vertex.id)) := by
    rw [← List.map_perm_map_iff Relation.entry_injective, entries, List.map_map]
    exact perm
  refine ⟨relations.filterMap Relation.other?, ?_, ?_⟩
  · rw [View.neighbors, View.relations, ← entries, View.readAll_entries]
    rfl
  · refine ((related.filterMap Relation.other?).map
      fixture.layout.count).trans (List.Perm.of_eq ?_)
    rw [List.filterMap_map, List.map_filterMap, ← List.filterMap_eq_map]
    refine List.filterMap_congr fun tip member => ?_
    have among := (Finset.mem_filter.1 (Finset.mem_toList.1 member)).1
    exact congrArg some
      (count_sibling storable fits (declared_of_mem_ends storable among) _)

end Snapshot

end Fixture
end GraphSweep
