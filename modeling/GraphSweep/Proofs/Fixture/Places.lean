import GraphSweep.Proofs.Fixture.Stored
import Mathlib.Algebra.Group.Nat.Defs

/-!
# Where the vertices of a fixture are placed

A declared vertex is placed under an id for each of its pieces. The ids of a vertex tell
its number as far as that fits the count field of the layout, and two vertices of one kind
that agree in what fits are placed under the same first id.
-/

namespace GraphSweep

namespace FixtureVertex

variable
  {layout : IdLayout}
  {vertex other : FixtureVertex}

/-- A piece tells as much of the number of its vertex as fits. -/
theorem toNat_count_of_mem_pieces
    {id : VertexId}
    (member : id ∈ vertex.pieces layout) :
    (layout.count id).toNat = vertex.id.toNat % layout.countLimit := by
  obtain ⟨index, -, rfl⟩ := mem_pieces.1 member
  rw [piece, IdLayout.toNat_count_compose]

/-- The pieces of a vertex tell its number exactly if it fits. -/
theorem count_pieces_eq_iff (storable : vertex.Storable layout) :
    (∀ id ∈ vertex.pieces layout, layout.count id = vertex.id) ↔
      vertex.id.toNat < layout.countLimit := by
  constructor
  · intro tells
    have first : vertex.piece layout 0 ∈ vertex.pieces layout :=
      piece_mem_pieces storable.positive
    rw [← tells _ first, toNat_count_of_mem_pieces first]
    exact Nat.mod_lt _ layout.countLimit_pos
  · intro small id member
    exact count_of_mem_pieces small member

/-- Two vertices share an id exactly if they are of one kind and their numbers agree in
what fits. -/
theorem exists_shared_piece_iff
    (storable : vertex.Storable layout)
    (storableOther : other.Storable layout) :
    (∃ id ∈ vertex.pieces layout, id ∈ other.pieces layout) ↔
      vertex.id.toNat % layout.countLimit =
          other.id.toNat % layout.countLimit ∧
        vertex.kind = other.kind := by
  constructor
  · rintro ⟨id, member, shared⟩
    obtain ⟨index, -, rfl⟩ := mem_pieces.1 member
    obtain ⟨position, -, same⟩ := mem_pieces.1 shared
    obtain ⟨counts, -, kinds⟩ := IdLayout.compose_eq_iff.1 same
    exact ⟨counts.symm, kinds.symm⟩
  · rintro ⟨counts, kinds⟩
    have same : vertex.piece layout 0 = other.piece layout 0 :=
      IdLayout.compose_eq_iff.2 ⟨counts, rfl, kinds⟩
    refine ⟨vertex.piece layout 0, piece_mem_pieces storable.positive, ?_⟩
    rw [same]
    exact piece_mem_pieces storableOther.positive

end FixtureVertex

namespace Fixture

/-- The vertex that an id of a stored fixture tells is the count part of the id. -/
theorem vertexOf_of_build
    {fixture : Fixture}
    {graph : StoredGraph}
    (built : fixture.build = .ok graph)
    (id : VertexId) :
    graph.vertexOf id = fixture.layout.count id := by
  rw [StoredGraph.vertexOf, (stored_of_build built).2,
    (GraphStore.ofWrites_frame _ _).1]

/-- Every declared vertex of a fixture that is stored is placed under as many different
ids as it has pieces. These tell what fits of its number into the count field, so that they
tell the vertex exactly if its number fits. The ids of two vertices are apart, and so are
the keys that they are stored under, exactly if the vertices are of different kinds or
differ in what fits of their numbers. -/
theorem places_tell_numbers_that_fit
    {fixture : Fixture}
    {graph : StoredGraph}
    (built : fixture.build = .ok graph) :
    let limit := 2 ^ (61 - min fixture.partitionWidth.toNat 16)
    (∀ vertex ∈ fixture.vertices,
      (graph.storedIds vertex.id).Nodup ∧
      (graph.storedIds vertex.id).length = vertex.partitions.toNat ∧
      (∀ id ∈ graph.storedIds vertex.id,
        (graph.vertexOf id).toNat = vertex.id.toNat % limit) ∧
      ((∀ id ∈ graph.storedIds vertex.id, graph.vertexOf id = vertex.id) ↔
        vertex.id.toNat < limit)) ∧
    ∀ vertex ∈ fixture.vertices, ∀ other ∈ fixture.vertices,
      (List.Disjoint (graph.storedIds vertex.id) (graph.storedIds other.id) ↔
        ¬(vertex.id.toNat % limit = other.id.toNat % limit ∧
          vertex.kind = other.kind)) ∧
      (List.Disjoint ((graph.storedIds vertex.id).map VertexId.key)
          ((graph.storedIds other.id).map VertexId.key) ↔
        List.Disjoint (graph.storedIds vertex.id)
          (graph.storedIds other.id)) := by
  intro limit
  have storable := (stored_of_build built).1
  have limits : fixture.layout.countLimit = limit := Nat.one_shiftLeft _
  refine ⟨?own, ?others⟩
  case own =>
    intro vertex declared
    have room := storable.vertices vertex declared
    simp only [storedIds_of_build built declared, vertexOf_of_build built,
      ← limits]
    exact ⟨FixtureVertex.nodup_pieces room, FixtureVertex.length_pieces,
      fun id => FixtureVertex.toNat_count_of_mem_pieces,
      FixtureVertex.count_pieces_eq_iff room⟩
  case others =>
    intro vertex declared other declaredOther
    have shared := FixtureVertex.exists_shared_piece_iff
      (storable.vertices vertex declared)
      (storable.vertices other declaredOther)
    rw [limits] at shared
    rw [storedIds_of_build built declared,
      storedIds_of_build built declaredOther, ← shared]
    refine ⟨?_, List.Disjoint.map_iff fun one two => VertexId.key_injective⟩
    simp only [List.disjoint_left, not_exists, not_and]

/-- Two plain vertices whose numbers agree below the limit of the count field, one in three
pieces at the limit, and a hidden one. -/
def crowded : Fixture where
  partitionWidth := 4
  vertices := [.plain 1, .plain 144115188075855873,
    ⟨144115188075855871, false, false, 3⟩,
    ⟨288230376151711745, false, true, 1⟩]
  edges := []

theorem places_of_crowded :
    ∃ graph, crowded.build = .ok graph ∧
      (graph.storedIds 144115188075855871).length = 3 ∧
      (∀ id ∈ graph.storedIds 144115188075855871,
        graph.vertexOf id = 144115188075855871) ∧
      ¬List.Disjoint (graph.storedIds 1) (graph.storedIds 144115188075855873) ∧
      List.Disjoint (graph.storedIds 1) (graph.storedIds 288230376151711745) := by
  obtain ⟨graph, built⟩ : ∃ graph, crowded.build = .ok graph :=
    exists_graph (by decide +kernel)
  obtain ⟨own, others⟩ := places_tell_numbers_that_fit built
  obtain ⟨-, pieces, -, tells⟩ :=
    own ⟨144115188075855871, false, false, 3⟩ (by decide)
  have near := others (.plain 1) (by decide) (.plain 144115188075855873)
    (by decide)
  have far := others (.plain 1) (by decide)
    ⟨288230376151711745, false, true, 1⟩ (by decide)
  refine ⟨graph, built, pieces, tells.2 (by decide), ?_, far.1.2 (by decide)⟩
  intro apart
  exact near.1.1 apart (by decide)

/-- A vertex with the lowest number that does not fit. -/
def oversized : Fixture := ⟨4, [.plain 144115188075855872], []⟩

/-- A number that does not fit is not told by the id of its vertex, and the vertex may take
the place of another. -/
theorem oversized_number_is_lost :
    (∃ graph, oversized.build = .ok graph ∧
      FixtureVertex.plain 144115188075855872 ∈ oversized.vertices ∧
      graph.storedIds 144115188075855872 = [0] ∧
      graph.vertexOf 0 ≠ 144115188075855872) ∧
    ∃ graph, crowded.build = .ok graph ∧
      FixtureVertex.plain 1 ∈ crowded.vertices ∧
      FixtureVertex.plain 144115188075855873 ∈ crowded.vertices ∧
      graph.storedIds 1 = [64] ∧
      graph.storedIds 144115188075855873 = [64] := by
  constructor
  · obtain ⟨graph, built⟩ : ∃ graph, oversized.build = .ok graph :=
      exists_graph (by decide +kernel)
    have member :
        FixtureVertex.plain 144115188075855872 ∈ oversized.vertices := by
      decide
    refine ⟨graph, built, member, storedIds_of_build built member, ?_⟩
    rw [vertexOf_of_build built]
    decide
  · obtain ⟨graph, built⟩ : ∃ graph, crowded.build = .ok graph :=
      exists_graph (by decide +kernel)
    have first : FixtureVertex.plain 1 ∈ crowded.vertices := by decide
    have second :
        FixtureVertex.plain 144115188075855873 ∈ crowded.vertices := by
      decide
    exact ⟨graph, built, first, second, storedIds_of_build built first,
      storedIds_of_build built second⟩

end Fixture
end GraphSweep
