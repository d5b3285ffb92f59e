import GraphSweep.Proofs.Fixture.Contents
import GraphSweep.Proofs.Fixture.Validation
import GraphSweep.Proofs.GraphStore.Reordering

/-!
# Fixtures in another order

In what order the vertices and the edges of a fixture are declared does not matter, nor
how often an edge is. For all that goes into one column of a row is the same: the mark
of existence, or an edge, which has no value. This holds even where two vertices share
an id.
-/

namespace GraphSweep

open GraphStore (Write)

namespace Fixture

/-- The ids of all pieces of the deleted ones among some vertices. -/
def deletedPieces (layout : IdLayout) (vertices : List FixtureVertex) :
    List VertexId :=
  (vertices.filter FixtureVertex.deleted).flatMap fun vertex =>
    vertex.pieces layout

/-- Marks are taken from the pieces of the deleted vertices. -/
theorem unmarksOf_eq (layout : IdLayout) (vertices : List FixtureVertex) :
    unmarksOf layout vertices =
      (deletedPieces layout vertices).map Write.unmark := by
  rw [unmarksOf, deletedPieces, List.map_flatMap]

/-- The writes that put something into rows: those of the vertices and the edges. -/
def puttingWrites (fixture : Fixture) : List Write :=
  marksOf fixture.layout fixture.vertices ++ fixture.edges.map fixture.link

theorem mem_puttingWrites {fixture : Fixture} {write : Write} :
    write ∈ fixture.puttingWrites ↔
      (∃ vertex ∈ fixture.vertices, ∃ id ∈ vertex.pieces fixture.layout,
        Write.addVertex id = write) ∨
      ∃ edge ∈ fixture.edges, fixture.link edge = write := by
  rw [puttingWrites, List.mem_append, mem_marksOf, List.mem_map]

section Told

variable {fixture : Fixture} {id : VertexId}

/-- No mark is taken before everything is put into the rows. -/
theorem unmark_notMem_puttingWrites : .unmark id ∉ fixture.puttingWrites := by
  intro member
  rcases mem_puttingWrites.1 member with
    ⟨vertex, -, piece, -, same⟩ | ⟨edge, -, same⟩
  · cases same
  · cases same

/-- What goes into a row is the mark of existence, or an edge without a value. -/
theorem entry_cases
    {entry : Entry}
    (member : entry ∈
      GraphStore.written fixture.layout fixture.puttingWrites id) :
    entry = Relation.markerEntry ∨
      ∃ edge ∈ fixture.edges, ∃ direction,
        entry = (fixture.relationOf edge.label (edge.seen direction).1
          (direction, (edge.seen direction).2)).entry := by
  rw [GraphStore.written, GraphStore.mem_entriesFor, List.mem_flatMap] at member
  obtain ⟨write, among, puts⟩ := member
  rcases mem_puttingWrites.1 among with
    ⟨vertex, -, piece, -, rfl⟩ | ⟨edge, edges, rfl⟩
  · exact Or.inl (Prod.mk.inj (List.mem_singleton.1 puts)).2
  · obtain ⟨direction, -, same⟩ := mem_puts_link.1 puts
    exact Or.inr ⟨edge, edges, direction, same⟩

/-- The columns of a row tell what is put there, also where vertices share an id. -/
theorem told_puttingWrites
    (storable : fixture.Storable)
    (id : VertexId) :
    let written := GraphStore.written fixture.layout fixture.puttingWrites id
    ∀ one ∈ written, ∀ other ∈ written,
      one.column = other.column -> one = other := by
  intro written one first other second same
  have free {edge : FixtureEdge} (declared : edge ∈ fixture.edges)
      (vertex : UInt64) (tip : Direction × UInt64) :
      (fixture.relationOf edge.label vertex tip).column ≠
        Relation.columnOfProperty Relation.markerType :=
    GraphStore.column_ne_marker (free_type (storable.labels edge declared))
  rcases entry_cases first with rfl | ⟨edge, declared, direction, rfl⟩
  · rcases entry_cases second with rfl | ⟨edge, declared, direction, rfl⟩
    · rfl
    · exact absurd same.symm (free declared _ _)
  · rcases entry_cases second with rfl | ⟨edgeOther, -, heading, rfl⟩
    · exact absurd same (free declared _ _)
    · exact congrArg (Entry.mk · []) same

end Told

section Reordered

variable {fixture other : Fixture}

/-- Vertices in another order are found under the same ids. -/
theorem find?_vertex_of_perm
    {vertices others : List FixtureVertex}
    (distinct : (vertices.map FixtureVertex.id).Nodup)
    (reordered : vertices.Perm others)
    (id : UInt64) :
    (vertices.find? fun vertex => vertex.id = id) =
      others.find? fun vertex => vertex.id = id := by
  have distinctOthers : (others.map FixtureVertex.id).Nodup :=
    (reordered.map FixtureVertex.id).nodup_iff.1 distinct
  by_cases declared : ∃ vertex ∈ vertices, vertex.id = id
  · obtain ⟨vertex, member, rfl⟩ := declared
    rw [find?_vertex distinct member,
      find?_vertex distinctOthers (reordered.mem_iff.1 member)]
  · have missing : (vertices.find? fun vertex => vertex.id = id) = none := by
      simpa using declared
    have missingThere : (others.find? fun vertex => vertex.id = id) = none := by
      simpa [reordered.mem_iff] using declared
    rw [missing, missingThere]

/-- Fixtures of one width have one layout. -/
theorem layout_eq (width : fixture.partitionWidth = other.partitionWidth) :
    fixture.layout = other.layout :=
  congrArg IdLayout.ofBits width

/-- Edges go to the same siblings in whatever order the vertices are declared. -/
theorem sibling_of_perm
    (storable : fixture.Storable)
    (width : fixture.partitionWidth = other.partitionWidth)
    (vertices : fixture.vertices.Perm other.vertices)
    (id far : UInt64) :
    fixture.sibling id far = other.sibling id far := by
  rw [sibling, sibling, layout_eq width,
    find?_vertex_of_perm storable.distinct vertices]

/-- A fixture in another order can be stored just as well. -/
theorem Storable.of_perm
    (storable : fixture.Storable)
    (width : fixture.partitionWidth = other.partitionWidth)
    (vertices : fixture.vertices.Perm other.vertices)
    (edges : ∀ edge, edge ∈ fixture.edges ↔ edge ∈ other.edges) :
    other.Storable := by
  have ids := vertices.map FixtureVertex.id
  refine ⟨ids.nodup_iff.1 storable.distinct, ?_, ?_, ?_, ?_⟩
  · intro vertex member
    rw [← layout_eq width]
    exact storable.vertices vertex (vertices.mem_iff.2 member)
  · intro edge member
    exact ids.mem_iff.1 (storable.sources edge ((edges edge).2 member))
  · intro edge member
    exact ids.mem_iff.1 (storable.targets edge ((edges edge).2 member))
  · intro edge member
    exact storable.labels edge ((edges edge).2 member)

/-- The writes that store fixtures with the same declarations leave the same store. -/
theorem ofWrites_writes_of_perm
    (storable : fixture.Storable)
    (width : fixture.partitionWidth = other.partitionWidth)
    (vertices : fixture.vertices.Perm other.vertices)
    (edges : ∀ edge, edge ∈ fixture.edges ↔ edge ∈ other.edges) :
    GraphStore.ofWrites fixture.layout fixture.writes =
      GraphStore.ofWrites other.layout other.writes := by
  have layouts := layout_eq width
  have links (edge : FixtureEdge) : fixture.link edge = other.link edge := by
    rw [link, link, sibling_of_perm storable width vertices,
      sibling_of_perm storable width vertices]
  have writes (fixture : Fixture) : fixture.writes = fixture.puttingWrites ++
      (deletedPieces fixture.layout fixture.vertices).map .unmark := by
    rw [Fixture.writes, unmarksOf_eq]
    rfl
  rw [writes, writes, ← layouts]
  apply GraphStore.ofWrites_congr
  · exact fun _ => unmark_notMem_puttingWrites
  · exact told_puttingWrites storable
  · intro write
    simp only [mem_puttingWrites, vertices.mem_iff, edges, links, layouts]
  · intro id
    simp only [deletedPieces, List.mem_flatMap, List.mem_filter,
      vertices.mem_iff]

end Reordered

/-- The order in which a fixture declares its vertices and its edges does not matter, nor
how often it declares an edge: a fixture with the same declarations in another order is
stored as well, with the same rows that hold the same entries, and every vertex is stored
under the same ids. -/
theorem build_ignores_order
    {fixture other : Fixture}
    {graph : StoredGraph}
    (width : fixture.partitionWidth = other.partitionWidth)
    (vertices : fixture.vertices.Perm other.vertices)
    (edges : ∀ edge, edge ∈ fixture.edges ↔ edge ∈ other.edges)
    (built : fixture.build = .ok graph) :
    ∃ otherGraph, other.build = .ok otherGraph ∧
      otherGraph.store = graph.store ∧
      ∀ id, otherGraph.storedIds id = graph.storedIds id := by
  obtain ⟨storable, stored⟩ := stored_of_build built
  obtain ⟨otherGraph, builtOther⟩ := exists_build_eq_ok_iff.2
    (storable.of_perm width vertices edges)
  refine ⟨otherGraph, builtOther, ?_, ?_⟩
  · rw [(stored_of_build builtOther).2, stored,
      ofWrites_writes_of_perm storable width vertices edges]
  · intro id
    rw [storedIds_of_places (places_of_build builtOther),
      storedIds_of_places (places_of_build built), layout_eq width,
      find?_vertex_of_perm storable.distinct vertices]

/-- Plain and deleted vertices, some in pieces and some whose numbers do not fit, with a
loop and with edges between pieces. -/
def tangled : Fixture where
  partitionWidth := 4
  vertices := [.plain 1, .plain 144115188075855873, ⟨2, false, false, 3⟩,
    ⟨3, true, false, 2⟩, ⟨4, false, true, 1⟩]
  edges := [⟨1, 2, 0⟩, ⟨2, 2, 5⟩, ⟨2, 3, 0⟩, ⟨3, 4, 1⟩,
    ⟨144115188075855873, 2, 0⟩]

/-- The same declarations in another order, with some edges declared again. -/
def retangled : Fixture where
  partitionWidth := 4
  vertices := [⟨4, false, true, 1⟩, ⟨3, true, false, 2⟩, .plain 1,
    ⟨2, false, false, 3⟩, .plain 144115188075855873]
  edges := [⟨3, 4, 1⟩, ⟨144115188075855873, 2, 0⟩, ⟨2, 2, 5⟩, ⟨2, 3, 0⟩,
    ⟨2, 2, 5⟩, ⟨1, 2, 0⟩, ⟨3, 4, 1⟩]

theorem retangled_is_stored_as_tangled :
    ∃ graph otherGraph, tangled.build = .ok graph ∧
      retangled.build = .ok otherGraph ∧
      otherGraph.store = graph.store ∧
      ∀ id, otherGraph.storedIds id = graph.storedIds id := by
  have edges : ∀ edge, edge ∈ tangled.edges ↔ edge ∈ retangled.edges := by
    have forth : ∀ edge ∈ tangled.edges, edge ∈ retangled.edges := by decide
    have back : ∀ edge ∈ retangled.edges, edge ∈ tangled.edges := by decide
    exact fun edge => ⟨forth edge, back edge⟩
  have width : tangled.partitionWidth = retangled.partitionWidth := rfl
  have vertices : tangled.vertices.Perm retangled.vertices := by decide
  obtain ⟨graph, built⟩ : ∃ graph, tangled.build = .ok graph :=
    exists_graph (by decide +kernel)
  obtain ⟨otherGraph, builtOther, store, ids⟩ :=
    build_ignores_order width vertices edges built
  exact ⟨graph, otherGraph, built, builtOther, store, ids⟩

end Fixture
end GraphSweep
