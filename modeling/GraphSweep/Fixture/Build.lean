import GraphSweep.GraphStore
import GraphSweep.Fixture.Basic

/-!
# Storing a fixture

The vertices of a fixture are stored in the order in which they are declared,
then its edges, and last the deleted vertices lose their marks. A partitioned
vertex shares its edges out among its siblings by the ids of the other ends.
-/

namespace GraphSweep

/-- A stored graph, with the ids under which each vertex is stored. -/
structure StoredGraph where
  store : GraphStore
  /-- The stored ids of each declared vertex, in the order of declaration. -/
  places : List (UInt64 × List VertexId)

namespace StoredGraph

/-- A graph without vertices. -/
def empty (layout : IdLayout) : StoredGraph := ⟨.empty layout, []⟩

/-- The ids under which a vertex is stored; none for one that is not. -/
def storedIds (graph : StoredGraph) (id : UInt64) : List VertexId :=
  (graph.places.lookup id).getD []

/-- The vertex that is stored under an id. -/
def vertexOf (graph : StoredGraph) (id : VertexId) : UInt64 :=
  graph.store.layout.count id

/-- The graph with a vertex stored under some ids. -/
def place
    (graph : StoredGraph)
    (id : UInt64)
    (ids : List VertexId) : StoredGraph where
  store := ids.foldl GraphStore.addVertex graph.store
  places := graph.places ++ [(id, ids)]

/-- Store a vertex. -/
def addVertex
    (graph : StoredGraph)
    (vertex : FixtureVertex) : Except FixtureError StoredGraph :=
  let layout := graph.store.layout
  let allowed := layout.partitionCount
  let partitions := vertex.partitions.toNat
  if (graph.places.lookup vertex.id).isSome then
    .error (.invalid (.declaredTwice vertex.id))
  else if partitions = 0 ∨ allowed < partitions then
    .error (.invalid (.partitionCount vertex.id vertex.partitions allowed))
  else if vertex.hidden then
    if 1 < partitions then .error (.invalid (.hiddenPartitioned vertex.id))
    else .ok (graph.place vertex.id [layout.hidden vertex.id])
  else if 1 < partitions then
    .ok (graph.place vertex.id (layout.siblings vertex.id vertex.partitions))
  else .ok (graph.place vertex.id [layout.normal vertex.id])

/-- The sibling of a vertex that stores an edge to or from another vertex. -/
def pick
    (graph : StoredGraph)
    (id other : UInt64) : Except FixtureError VertexId :=
  let ids := graph.storedIds id
  match ids[other.toNat % ids.length]? with
  | some sibling => .ok sibling
  | none => .error (.undeclared id)

/-- Store an edge. -/
def addEdge
    (graph : StoredGraph)
    (edge : FixtureEdge) : Except FixtureError StoredGraph := do
  let source <- graph.pick edge.source edge.target
  let target <- graph.pick edge.target edge.source
  if edge.label.toNat + Relation.firstFreeType.toNat < UInt64.size then
    return { graph with
      store := graph.store.addEdge (Relation.firstFreeType + edge.label)
        source target }
  else throw .labelOverflow

/-- Take the marks from a vertex if it is deleted. -/
def settleMarks (graph : StoredGraph) (vertex : FixtureVertex) : StoredGraph :=
  if vertex.deleted then
    { graph with
      store := (graph.storedIds vertex.id).foldl GraphStore.unmark
        graph.store }
  else graph

end StoredGraph

namespace Fixture

/-- The layout of the ids that a fixture is stored under. -/
def layout (fixture : Fixture) : IdLayout :=
  IdLayout.ofBits fixture.partitionWidth

/-- Store a fixture. -/
def build (fixture : Fixture) : Except FixtureError StoredGraph := do
  let placed <- fixture.vertices.foldlM StoredGraph.addVertex
    (StoredGraph.empty fixture.layout)
  let joined <- fixture.edges.foldlM StoredGraph.addEdge placed
  return fixture.vertices.foldl StoredGraph.settleMarks joined

end Fixture
end GraphSweep
