import GraphSweep.Proofs.Fixture.Stored
import GraphSweep.Proofs.Job.Snapshot
import Mathlib.Algebra.BigOperators.Group.Finset.Basic

/-!
# What the store of a fixture holds

The pieces of the vertices that are not deleted are marked as existing, and no other
ids are. The row of a piece holds one edge for each end of an edge of its vertex whose
other end it is to store, however often the edge is declared.
-/

namespace GraphSweep

open GraphStore (Write)

/-- The vertex that an edge has a direction for, and the vertex at the other end. -/
def FixtureEdge.seen (edge : FixtureEdge) : Direction -> UInt64 × UInt64
  | .outgoing => (edge.source, edge.target)
  | .incoming => (edge.target, edge.source)

namespace Fixture

/-- A vertex is there for jobs: it is declared, and neither deleted nor hidden. -/
structure Live (fixture : Fixture) (vertex : FixtureVertex) : Prop where
  declared : vertex ∈ fixture.vertices
  kept : vertex.deleted = false
  shown : vertex.hidden = false

/-- The ids of a fixture fit their field. -/
def Fits (fixture : Fixture) : Prop :=
  ∀ vertex ∈ fixture.vertices, vertex.id.toNat < fixture.layout.countLimit

variable {fixture : Fixture}

/-! ## Pieces -/

/-- A vertex stores an edge at one of its pieces. -/
theorem sibling_eq
    (storable : fixture.Storable)
    {vertex : FixtureVertex}
    (declared : vertex ∈ fixture.vertices)
    (other : UInt64) :
    fixture.sibling vertex.id other =
      vertex.piece fixture.layout
        (other.toNat % vertex.partitions.toNat) := by
  rw [sibling, find?_vertex storable.distinct declared]

/-- The piece that stores an edge tells which vertex it is of. -/
theorem count_sibling
    (storable : fixture.Storable)
    (fits : fixture.Fits)
    {id : UInt64}
    (declared : id ∈ fixture.vertices.map FixtureVertex.id)
    (other : UInt64) :
    fixture.layout.count (fixture.sibling id other) = id := by
  obtain ⟨vertex, member, rfl⟩ := List.mem_map.1 declared
  rw [sibling_eq storable member, vertex.count_piece (fits vertex member)]

theorem natural_sibling
    (storable : fixture.Storable)
    {id : UInt64}
    (declared : id ∈ fixture.vertices.map FixtureVertex.id)
    (other : UInt64) :
    0 ≤ fixture.sibling id other := by
  obtain ⟨vertex, member, rfl⟩ := List.mem_map.1 declared
  rw [sibling_eq storable member]
  exact vertex.natural_piece _

/-- An id is that of a piece of at most one vertex. -/
theorem eq_of_mem_pieces
    (storable : fixture.Storable)
    (fits : fixture.Fits)
    {vertex other : FixtureVertex}
    (declared : vertex ∈ fixture.vertices)
    (declaredOther : other ∈ fixture.vertices)
    {id : VertexId}
    (piece : id ∈ vertex.pieces fixture.layout)
    (pieceOther : id ∈ other.pieces fixture.layout) :
    vertex = other := by
  apply List.inj_on_of_nodup_map storable.distinct declared declaredOther
  rw [← FixtureVertex.count_of_mem_pieces (fits vertex declared) piece,
    FixtureVertex.count_of_mem_pieces (fits other declaredOther) pieceOther]

/-! ## Writes -/

theorem mem_marksOf
    {layout : IdLayout}
    {vertices : List FixtureVertex}
    {write : Write} :
    write ∈ marksOf layout vertices ↔
      ∃ vertex ∈ vertices, ∃ id ∈ vertex.pieces layout,
        Write.addVertex id = write := by
  simp only [marksOf, List.mem_flatMap, List.mem_map]

theorem mem_unmarksOf
    {layout : IdLayout}
    {vertices : List FixtureVertex}
    {write : Write} :
    write ∈ unmarksOf layout vertices ↔
      ∃ vertex ∈ vertices, vertex.deleted = true ∧
        ∃ id ∈ vertex.pieces layout, Write.unmark id = write := by
  simp only [unmarksOf, List.mem_flatMap, List.mem_map, List.mem_filter,
    and_assoc]

/-- The type of the edges of a label is not reserved. -/
theorem free_type
    {label : UInt64}
    (fits : label.toNat + Relation.firstFreeType.toNat < UInt64.size) :
    Relation.firstFreeType ≤ Relation.firstFreeType + label := by
  rw [UInt64.le_iff_toNat_le, UInt64.toNat_add, Nat.add_comm,
    Nat.mod_eq_of_lt fits]
  exact Nat.le_add_left _ _

/-- Labels have different types. -/
theorem label_injective
    {label other : UInt64}
    (same : Relation.firstFreeType + label =
      Relation.firstFreeType + other) :
    label = other :=
  (UInt64.add_right_inj _).1 same

/-- The writes that store a fixture name no negative vertex and no reserved type. -/
theorem admissible_writes (storable : fixture.Storable) :
    ∀ write ∈ fixture.writes, write.Admissible := by
  intro write member
  rcases List.mem_append.1 member with earlier | unmarks
  · rcases List.mem_append.1 earlier with marks | links
    · obtain ⟨vertex, -, id, piece, rfl⟩ := mem_marksOf.1 marks
      obtain ⟨index, -, rfl⟩ := FixtureVertex.mem_pieces.1 piece
      exact vertex.natural_piece index
    · obtain ⟨edge, among, rfl⟩ := List.mem_map.1 links
      exact ⟨free_type (storable.labels edge among),
        natural_sibling storable (storable.sources edge among) _,
        natural_sibling storable (storable.targets edge among) _⟩
  · obtain ⟨vertex, -, -, id, piece, rfl⟩ := mem_unmarksOf.1 unmarks
    obtain ⟨index, -, rfl⟩ := FixtureVertex.mem_pieces.1 piece
    exact vertex.natural_piece index

/-- The pieces of the vertices that are not deleted are marked as existing. -/
theorem marked_iff
    (storable : fixture.Storable)
    (fits : fixture.Fits)
    {id : VertexId} :
    GraphStore.Marked fixture.layout fixture.writes id ↔
      ∃ vertex ∈ fixture.vertices, vertex.deleted = false ∧
        id ∈ vertex.pieces fixture.layout := by
  have kept : Write.unmark id ∉ marksOf fixture.layout fixture.vertices := by
    intro member
    obtain ⟨vertex, -, piece, -, same⟩ := mem_marksOf.1 member
    cases same
  have quiet : ∀ write ∈ fixture.edges.map fixture.link ++
      unmarksOf fixture.layout fixture.vertices,
      ¬write.Marks fixture.layout id := by
    intro write member
    rcases List.mem_append.1 member with links | unmarks
    · obtain ⟨edge, -, rfl⟩ := List.mem_map.1 links
      exact not_false
    · obtain ⟨vertex, -, -, piece, -, rfl⟩ := mem_unmarksOf.1 unmarks
      exact not_false
  rw [writes, List.append_assoc, GraphStore.marked_append quiet,
    GraphStore.marked_iff_of_kept kept]
  constructor
  · rintro ⟨untaken, write, member, marks⟩
    obtain ⟨vertex, declared, piece, among, rfl⟩ := mem_marksOf.1 member
    cases marks
    refine ⟨vertex, declared, ?_, among⟩
    rw [Bool.eq_false_iff]
    intro deleted
    exact untaken (List.mem_append_right _
      (mem_unmarksOf.2 ⟨vertex, declared, deleted, id, among, rfl⟩))
  · rintro ⟨vertex, declared, living, piece⟩
    refine ⟨?_, .addVertex id, mem_marksOf.2 ⟨vertex, declared, id, piece, rfl⟩,
      rfl⟩
    intro taken
    rcases List.mem_append.1 taken with links | unmarks
    · obtain ⟨edge, -, same⟩ := List.mem_map.1 links
      cases same
    · obtain ⟨other, declaredOther, deleted, sibling, among, same⟩ :=
        mem_unmarksOf.1 unmarks
      cases same
      rw [eq_of_mem_pieces storable fits declared declaredOther piece among,
        deleted] at living
      cases living

/-! ## Ends of edges -/

/-- The vertices that the edges of a label from a vertex lead to. -/
def targets (fixture : Fixture) (label id : UInt64) : Finset UInt64 :=
  ((fixture.edges.filter fun edge =>
    edge.source = id ∧ edge.label = label).map FixtureEdge.target).toFinset

/-- The vertices that the edges of a label to a vertex come from. -/
def sources (fixture : Fixture) (label id : UInt64) : Finset UInt64 :=
  ((fixture.edges.filter fun edge =>
    edge.target = id ∧ edge.label = label).map FixtureEdge.source).toFinset

/-- The edges of a label at a vertex, by their direction and their other end. -/
def ends (fixture : Fixture) (label id : UInt64) : Finset (Direction × UInt64) :=
  (fixture.targets label id).image (Prod.mk .outgoing) ∪
    (fixture.sources label id).image (Prod.mk .incoming)

/-- The edges of a label that a piece of a vertex stores. -/
def endsAt
    (fixture : Fixture)
    (label : UInt64)
    (vertex : FixtureVertex)
    (index : Nat) : Finset (Direction × UInt64) :=
  (fixture.ends label vertex.id).filter fun tip =>
    tip.2.toNat % vertex.partitions.toNat = index

/-- The relation as which a vertex stores an edge. -/
def relationOf
    (fixture : Fixture)
    (label id : UInt64)
    (tip : Direction × UInt64) : Relation :=
  ⟨Relation.firstFreeType + label,
    .edge tip.1 (fixture.sibling tip.2 id), []⟩

theorem mem_ends
    {label id : UInt64}
    {tip : Direction × UInt64} :
    tip ∈ fixture.ends label id ↔
      ∃ edge ∈ fixture.edges, edge.label = label ∧
        edge.seen tip.1 = (id, tip.2) := by
  obtain ⟨direction, other⟩ := tip
  cases direction <;>
    simp [ends, targets, sources, FixtureEdge.seen, and_assoc, and_left_comm,
      and_comm]

/-- A sum over the edges at a vertex is one over those that it is the source of and one
over those that it is the target of. -/
theorem sum_ends (label id : UInt64) (weight : UInt64 -> Nat) :
    ∑ tip ∈ fixture.ends label id, weight tip.2 =
      ∑ target ∈ fixture.targets label id, weight target +
        ∑ source ∈ fixture.sources label id, weight source := by
  have apart : Disjoint
      ((fixture.targets label id).image (Prod.mk Direction.outgoing))
      ((fixture.sources label id).image (Prod.mk Direction.incoming)) := by
    rw [Finset.disjoint_left]
    intro tip leaves comes
    obtain ⟨target, -, rfl⟩ := Finset.mem_image.1 leaves
    obtain ⟨source, -, same⟩ := Finset.mem_image.1 comes
    cases same
  have tells (direction : Direction) (others : Finset UInt64) :
      ∑ tip ∈ others.image (Prod.mk direction), weight tip.2 =
        ∑ other ∈ others, weight other :=
    Finset.sum_image fun one _ two _ same => (Prod.mk.inj same).2
  rw [ends, Finset.sum_union apart, tells, tells]

/-- Every edge at a vertex is stored at one of its pieces. -/
theorem sum_endsAt
    (label : UInt64)
    {vertex : FixtureVertex}
    (positive : 0 < vertex.partitions.toNat)
    (weight : UInt64 -> Nat) :
    ∑ index ∈ Finset.range vertex.partitions.toNat,
        ∑ tip ∈ fixture.endsAt label vertex index, weight tip.2 =
      ∑ tip ∈ fixture.ends label vertex.id, weight tip.2 :=
  Finset.sum_fiberwise_of_maps_to
    (fun tip _ => Finset.mem_range.2 (Nat.mod_lt tip.2.toNat positive)) _

/-- What the write of an edge puts where. -/
theorem mem_puts_link
    {edge : FixtureEdge}
    {id : VertexId}
    {entry : Entry} :
    (id, entry) ∈ (fixture.link edge).puts fixture.layout ↔
      ∃ direction,
        id = fixture.sibling (edge.seen direction).1 (edge.seen direction).2 ∧
        entry = (fixture.relationOf edge.label (edge.seen direction).1
          (direction, (edge.seen direction).2)).entry := by
  constructor
  · intro member
    rcases List.mem_cons.1 member with same | later
    · obtain ⟨rfl, rfl⟩ := Prod.mk.inj same
      exact ⟨.outgoing, rfl, rfl⟩
    · obtain ⟨rfl, rfl⟩ := Prod.mk.inj (List.mem_singleton.1 later)
      exact ⟨.incoming, rfl, rfl⟩
  · rintro ⟨direction, rfl, rfl⟩
    cases direction with
    | outgoing => exact List.mem_cons_self
    | incoming =>
        exact List.mem_cons_of_mem _ (List.mem_singleton_self _)

/-- Both ends of an edge are declared. -/
theorem declared_seen
    (storable : fixture.Storable)
    {edge : FixtureEdge}
    (member : edge ∈ fixture.edges)
    (direction : Direction) :
    (edge.seen direction).1 ∈ fixture.vertices.map FixtureVertex.id ∧
      (edge.seen direction).2 ∈ fixture.vertices.map FixtureVertex.id := by
  have source := storable.sources edge member
  have target := storable.targets edge member
  cases direction with
  | outgoing => exact ⟨source, target⟩
  | incoming => exact ⟨target, source⟩

/-- What is written to the piece of a vertex: its mark, and the edges that it stores. -/
theorem mem_written_piece
    (storable : fixture.Storable)
    (fits : fixture.Fits)
    {vertex : FixtureVertex}
    (declared : vertex ∈ fixture.vertices)
    {index : Nat}
    (within : index < vertex.partitions.toNat)
    {entry : Entry} :
    entry ∈ GraphStore.written fixture.layout fixture.writes
        (vertex.piece fixture.layout index) ↔
      entry = Relation.markerEntry ∨
        ∃ label, ∃ tip ∈ fixture.endsAt label vertex index,
          entry = (fixture.relationOf label vertex.id tip).entry := by
  rw [GraphStore.written, GraphStore.mem_entriesFor, List.mem_flatMap]
  constructor
  · rintro ⟨write, member, puts⟩
    rcases List.mem_append.1 member with earlier | unmarks
    · rcases List.mem_append.1 earlier with marks | links
      · obtain ⟨other, -, piece, -, rfl⟩ := mem_marksOf.1 marks
        exact Or.inl (Prod.mk.inj (List.mem_singleton.1 puts)).2
      · obtain ⟨edge, among, rfl⟩ := List.mem_map.1 links
        obtain ⟨direction, here, rfl⟩ := mem_puts_link.1 puts
        have own := (declared_seen storable among direction).1
        obtain ⟨owner, declaredOwner, same⟩ := List.mem_map.1 own
        rw [← same, sibling_eq storable declaredOwner] at here
        have positive := (storable.vertices owner declaredOwner).positive
        have equal : vertex = owner := by
          apply eq_of_mem_pieces storable fits declared declaredOwner
            (FixtureVertex.piece_mem_pieces within)
          rw [here]
          exact FixtureVertex.piece_mem_pieces (Nat.mod_lt _ positive)
        subst equal
        have stored := FixtureVertex.piece_injective
          (storable.vertices vertex declared) within (Nat.mod_lt _ positive)
          here
        refine Or.inr ⟨edge.label, (direction, (edge.seen direction).2), ?_, ?_⟩
        · refine Finset.mem_filter.2 ⟨mem_ends.2 ⟨edge, among, rfl, ?_⟩,
            stored.symm⟩
          exact Prod.ext same.symm rfl
        · rw [same]
    · obtain ⟨other, -, -, piece, -, rfl⟩ := mem_unmarksOf.1 unmarks
      cases puts
  · rintro (rfl | ⟨label, tip, member, rfl⟩)
    · exact ⟨.addVertex (vertex.piece fixture.layout index),
        List.mem_append_left _ (List.mem_append_left _ (mem_marksOf.2
          ⟨vertex, declared, _, FixtureVertex.piece_mem_pieces within, rfl⟩)),
        List.mem_singleton_self _⟩
    · obtain ⟨among, stored⟩ := Finset.mem_filter.1 member
      obtain ⟨edge, edges, rfl, seen⟩ := mem_ends.1 among
      refine ⟨fixture.link edge, List.mem_append_left _
        (List.mem_append_right _ (List.mem_map_of_mem edges)),
        mem_puts_link.2 ⟨tip.1, ?_, ?_⟩⟩
      · rw [seen, sibling_eq storable declared, stored]
      · rw [seen]

end Fixture
end GraphSweep
