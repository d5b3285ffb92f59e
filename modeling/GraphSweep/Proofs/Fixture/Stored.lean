import GraphSweep.Fixture.Build
import GraphSweep.Proofs.Fixture.Pieces
import GraphSweep.Proofs.GraphStore.History
import GraphSweep.Proofs.Join.Course
import Mathlib.Data.List.Induction

/-!
# How a fixture is stored

A fixture that can be stored is stored by writes: first the pieces of all vertices are
marked as existing, then each edge is put into the pieces that the ids of the other
ends tell, and last the pieces of deleted vertices lose their marks. A vertex or an edge
that cannot be stored is refused, for one reason that is told by what stands before it.
-/

namespace GraphSweep

open GraphStore (Write)

namespace FixtureVertex

/-- The ids that a vertex is placed under are those of its pieces. -/
theorem pieces_eq
    {layout : IdLayout}
    {vertex : FixtureVertex}
    (storable : vertex.Storable layout) :
    vertex.pieces layout =
      if vertex.hidden then [layout.hidden vertex.id]
      else if 1 < vertex.partitions.toNat then
        layout.siblings vertex.id vertex.partitions
      else [layout.normal vertex.id] := by
  have positive := storable.positive
  cases hidden : vertex.hidden with
  | true =>
      rw [pieces, storable.whole hidden, if_pos rfl]
      simp [piece, kind, hidden, IdLayout.hidden]
  | false =>
      rw [if_neg Bool.false_ne_true]
      by_cases several : 1 < vertex.partitions.toNat
      · have count : max 1 (min vertex.partitions.toNat layout.partitionCount) =
            vertex.partitions.toNat := by
          rw [Nat.min_eq_left storable.bounded, Nat.max_eq_right positive]
        rw [if_pos several, pieces, IdLayout.siblings, count]
        refine List.map_congr_left fun index _ => ?_
        simp [piece, kind, hidden, several, IdLayout.partitioned]
      · have single : vertex.partitions.toNat = 1 := by omega
        rw [if_neg several, pieces, single]
        simp [piece, kind, hidden, single, IdLayout.normal]

/-- What a vertex is refused for next to declared ones: a number that is taken, else a
number of pieces that the layout does not allow, else several pieces where jobs pass over
it. -/
inductive Refused
    (layout : IdLayout)
    (declared : List UInt64)
    (vertex : FixtureVertex) : FixtureFault -> Prop
  | declaredTwice
      (taken : vertex.id ∈ declared) :
      Refused layout declared vertex (.declaredTwice vertex.id)
  | partitionCount
      (fresh : vertex.id ∉ declared)
      (outside : vertex.partitions.toNat = 0 ∨
        layout.partitionCount < vertex.partitions.toNat) :
      Refused layout declared vertex
        (.partitionCount vertex.id vertex.partitions layout.partitionCount)
  | hiddenPartitioned
      (fresh : vertex.id ∉ declared)
      (positive : 0 < vertex.partitions.toNat)
      (bounded : vertex.partitions.toNat ≤ layout.partitionCount)
      (hidden : vertex.hidden = true)
      (several : 1 < vertex.partitions.toNat) :
      Refused layout declared vertex (.hiddenPartitioned vertex.id)

/-- A vertex is refused or it is new and can be stored. -/
theorem refused_or_storable
    (layout : IdLayout)
    (declared : List UInt64)
    (vertex : FixtureVertex) :
    (∃ fault, vertex.Refused layout declared fault) ∨
      vertex.id ∉ declared ∧ vertex.Storable layout := by
  by_cases taken : vertex.id ∈ declared
  · exact Or.inl ⟨_, .declaredTwice taken⟩
  by_cases outside : vertex.partitions.toNat = 0 ∨
      layout.partitionCount < vertex.partitions.toNat
  · exact Or.inl ⟨_, .partitionCount taken outside⟩
  rw [not_or, Nat.not_lt] at outside
  have positive := Nat.pos_of_ne_zero outside.1
  by_cases both : vertex.hidden = true ∧ 1 < vertex.partitions.toNat
  · exact Or.inl ⟨_, .hiddenPartitioned taken positive outside.2 both.1 both.2⟩
  · refine Or.inr ⟨taken, positive, outside.2, fun hidden => ?_⟩
    have single : ¬1 < vertex.partitions.toNat := fun several =>
      both ⟨hidden, several⟩
    omega

end FixtureVertex

namespace FixtureEdge

/-- An edge runs between declared vertices, and its label is not too large. -/
structure Storable (declared : List UInt64) (edge : FixtureEdge) : Prop where
  source : edge.source ∈ declared
  target : edge.target ∈ declared
  label : edge.label.toNat + Relation.firstFreeType.toNat < UInt64.size

/-- What an edge is refused for: a source that is not declared, else a target that is not,
else a label that is too large. -/
inductive Refused
    (declared : List UInt64)
    (edge : FixtureEdge) : FixtureError -> Prop
  | source
      (unknown : edge.source ∉ declared) :
      Refused declared edge (.undeclared edge.source)
  | target
      (known : edge.source ∈ declared)
      (unknown : edge.target ∉ declared) :
      Refused declared edge (.undeclared edge.target)
  | label
      (source : edge.source ∈ declared)
      (target : edge.target ∈ declared)
      (large : UInt64.size ≤
        edge.label.toNat + Relation.firstFreeType.toNat) :
      Refused declared edge .labelOverflow

/-- An edge is refused or it can be stored. -/
theorem refused_or_storable (declared : List UInt64) (edge : FixtureEdge) :
    (∃ error, edge.Refused declared error) ∨ edge.Storable declared := by
  by_cases source : edge.source ∈ declared
  · by_cases target : edge.target ∈ declared
    · rcases Nat.lt_or_ge
        (edge.label.toNat + Relation.firstFreeType.toNat) UInt64.size with
        label | large
      · exact Or.inr ⟨source, target, label⟩
      · exact Or.inl ⟨_, .label source target large⟩
    · exact Or.inl ⟨_, .target source target⟩
  · exact Or.inl ⟨_, .source source⟩

end FixtureEdge

namespace StoredGraph

theorem isSome_lookup_places {graph : StoredGraph} {id : UInt64} :
    (graph.places.lookup id).isSome = true ↔ id ∈ graph.places.map Prod.fst := by
  rw [List.lookup_isSome_iff, List.mem_map]
  simp only [beq_iff_eq]
  exact exists_congr fun place => and_congr_right' eq_comm

theorem addVertex_of_refused
    {graph : StoredGraph}
    {vertex : FixtureVertex}
    {fault : FixtureFault}
    (refused : vertex.Refused graph.store.layout
      (graph.places.map Prod.fst) fault) :
    graph.addVertex vertex = .error (.invalid fault) := by
  unfold addVertex
  dsimp only
  cases refused with
  | declaredTwice taken =>
      rw [if_pos (isSome_lookup_places.2 taken)]
  | partitionCount fresh outside =>
      rw [if_neg (mt isSome_lookup_places.1 fresh), if_pos outside]
  | hiddenPartitioned fresh positive bounded hidden several =>
      rw [if_neg (mt isSome_lookup_places.1 fresh), if_neg (by omega),
        if_pos hidden, if_pos several]

/-- A new vertex that can be stored is placed under its pieces. -/
theorem addVertex_of_storable
    {graph : StoredGraph}
    {vertex : FixtureVertex}
    (fresh : vertex.id ∉ graph.places.map Prod.fst)
    (storable : vertex.Storable graph.store.layout) :
    graph.addVertex vertex =
      .ok (graph.place vertex.id (vertex.pieces graph.store.layout)) := by
  have positive := storable.positive
  have bounded := storable.bounded
  unfold addVertex
  dsimp only
  rw [FixtureVertex.pieces_eq storable,
    if_neg (mt isSome_lookup_places.1 fresh), if_neg (by omega)]
  cases hidden : vertex.hidden with
  | true =>
      rw [if_pos rfl, if_pos rfl, if_neg]
      rw [storable.whole hidden]
      exact Nat.lt_irrefl 1
  | false =>
      rw [if_neg Bool.false_ne_true, if_neg Bool.false_ne_true]
      split
      · rfl
      · rfl

/-- A vertex that is stored is new, and it is placed under its pieces. -/
theorem addVertex_eq_ok
    {graph next : StoredGraph}
    {vertex : FixtureVertex}
    (added : graph.addVertex vertex = .ok next) :
    vertex.id ∉ graph.places.map Prod.fst ∧
      vertex.Storable graph.store.layout ∧
      next = graph.place vertex.id (vertex.pieces graph.store.layout) := by
  rcases vertex.refused_or_storable graph.store.layout
    (graph.places.map Prod.fst) with ⟨fault, refused⟩ | ⟨fresh, storable⟩
  · rw [addVertex_of_refused refused] at added
    cases added
  · rw [addVertex_of_storable fresh storable] at added
    exact ⟨fresh, storable, (Except.ok.inj added).symm⟩

end StoredGraph

namespace Fixture

/-- The vertices with the ids that they are placed under. -/
def placesOf (layout : IdLayout) (vertices : List FixtureVertex) :
    List (UInt64 × List VertexId) :=
  vertices.map fun vertex => (vertex.id, vertex.pieces layout)

/-- The piece of a vertex that stores its edges to and from another one. -/
def sibling (fixture : Fixture) (id other : UInt64) : VertexId :=
  match fixture.vertices.find? fun vertex => vertex.id = id with
  | some vertex =>
      vertex.piece fixture.layout (other.toNat % vertex.partitions.toNat)
  | none => 0

/-- The writes that mark the pieces of some vertices as existing. -/
def marksOf (layout : IdLayout) (vertices : List FixtureVertex) : List Write :=
  vertices.flatMap fun vertex => (vertex.pieces layout).map .addVertex

/-- The write that stores an edge. -/
def link (fixture : Fixture) (edge : FixtureEdge) : Write :=
  .addEdge (Relation.firstFreeType + edge.label)
    (fixture.sibling edge.source edge.target)
    (fixture.sibling edge.target edge.source)

/-- The writes that take the marks from the deleted ones among some vertices. -/
def unmarksOf (layout : IdLayout) (vertices : List FixtureVertex) : List Write :=
  (vertices.filter FixtureVertex.deleted).flatMap fun vertex =>
    (vertex.pieces layout).map .unmark

/-- The writes that store a fixture. -/
def writes (fixture : Fixture) : List Write :=
  marksOf fixture.layout fixture.vertices ++ fixture.edges.map fixture.link ++
    unmarksOf fixture.layout fixture.vertices

/-- A fixture can be stored: no vertex is declared twice, the layout has room for each
of them, edges run between declared vertices, and their labels are not too large. -/
structure Storable (fixture : Fixture) : Prop where
  distinct : (fixture.vertices.map FixtureVertex.id).Nodup
  vertices : ∀ vertex ∈ fixture.vertices, vertex.Storable fixture.layout
  sources : ∀ edge ∈ fixture.edges,
    edge.source ∈ fixture.vertices.map FixtureVertex.id
  targets : ∀ edge ∈ fixture.edges,
    edge.target ∈ fixture.vertices.map FixtureVertex.id
  labels : ∀ edge ∈ fixture.edges,
    edge.label.toNat + Relation.firstFreeType.toNat < UInt64.size

/-- The layout has room for vertices with numbers of their own. -/
structure Placeable
    (layout : IdLayout)
    (vertices : List FixtureVertex) : Prop where
  distinct : (vertices.map FixtureVertex.id).Nodup
  storable : ∀ vertex ∈ vertices, vertex.Storable layout

/-- A fixture can be stored exactly if all of its declarations can. -/
theorem storable_iff {fixture : Fixture} :
    fixture.Storable ↔
      Placeable fixture.layout fixture.vertices ∧
        ∀ edge ∈ fixture.edges,
          edge.Storable (fixture.vertices.map FixtureVertex.id) := by
  constructor
  · rintro ⟨distinct, storable, sources, targets, labels⟩
    exact ⟨⟨distinct, storable⟩, fun edge member =>
      ⟨sources edge member, targets edge member, labels edge member⟩⟩
  · rintro ⟨⟨distinct, placeable⟩, storable⟩
    exact ⟨distinct, placeable, fun edge member => (storable edge member).source,
      fun edge member => (storable edge member).target,
      fun edge member => (storable edge member).label⟩

/-- A declared vertex is found under its id. -/
theorem find?_vertex
    {vertices : List FixtureVertex}
    {vertex : FixtureVertex}
    (distinct : (vertices.map FixtureVertex.id).Nodup)
    (declared : vertex ∈ vertices) :
    (vertices.find? fun other => other.id = vertex.id) = some vertex := by
  induction vertices with
  | nil => cases declared
  | cons first rest hypothesis =>
      obtain ⟨fresh, distinctRest⟩ := List.nodup_cons.1 distinct
      rcases List.mem_cons.1 declared with rfl | later
      · rw [List.find?_cons_of_pos (by simp)]
      · have apart : first.id ≠ vertex.id := fun same =>
          fresh (same ▸ List.mem_map_of_mem later)
        rw [List.find?_cons_of_neg (by simpa using apart)]
        exact hypothesis distinctRest later

/-- The places of some vertices are looked up by their ids. -/
theorem lookup_placesOf
    (layout : IdLayout)
    (vertices : List FixtureVertex)
    (id : UInt64) :
    (placesOf layout vertices).lookup id =
      (vertices.find? fun vertex => vertex.id = id).map
        (FixtureVertex.pieces layout) := by
  induction vertices with
  | nil => rfl
  | cons first rest hypothesis =>
      rw [placesOf, List.map_cons, List.lookup_cons]
      by_cases here : first.id = id
      · rw [List.find?_cons_of_pos (by simpa using here),
          beq_iff_eq.2 here.symm]
        rfl
      · rw [List.find?_cons_of_neg (by simpa using here),
          beq_eq_false_iff_ne.2 (Ne.symm here)]
        exact hypothesis

/-- Storing vertices marks their pieces. -/
theorem stored_of_addVertex
    {layout : IdLayout}
    {vertices : List FixtureVertex}
    {graph : StoredGraph}
    (stores : vertices.foldlM StoredGraph.addVertex (StoredGraph.empty layout) =
      .ok graph) :
    graph.store = GraphStore.ofWrites layout (marksOf layout vertices) ∧
      graph.places = placesOf layout vertices ∧
      Placeable layout vertices := by
  induction vertices using List.reverseRecOn generalizing graph with
  | nil =>
      cases stores
      exact ⟨rfl, rfl, List.nodup_nil, fun vertex member => by cases member⟩
  | append_singleton vertices vertex hypothesis =>
      rw [List.foldlM_append] at stores
      obtain ⟨before, earlier, last⟩ := exists_of_bind_eq_ok stores
      obtain ⟨after, added, ends⟩ := exists_of_bind_eq_ok last
      cases ends
      obtain ⟨store, places, ⟨distinct, storable⟩⟩ := hypothesis earlier
      obtain ⟨fresh, room, rfl⟩ := StoredGraph.addVertex_eq_ok added
      have shape : before.store.layout = layout := by
        rw [store, (GraphStore.ofWrites_frame _ _).1]
      rw [shape] at room ⊢
      refine ⟨?_, ?_, ?_, ?_⟩
      · have marked : marksOf layout (vertices ++ [vertex]) =
            marksOf layout vertices ++
              (vertex.pieces layout).map Write.addVertex := by
          simp [marksOf]
        rw [marked, GraphStore.ofWrites, List.foldl_append, List.foldl_map]
        exact congrArg ((vertex.pieces layout).foldl GraphStore.addVertex) store
      · rw [placesOf, List.map_append]
        exact congrArg (· ++ [(vertex.id, vertex.pieces layout)]) places
      · have new : vertex.id ∉ vertices.map FixtureVertex.id := by
          rw [places, placesOf, List.map_map] at fresh
          exact fresh
        rw [List.map_append, List.nodup_append]
        refine ⟨distinct, List.nodup_singleton _, ?_⟩
        intro id member other single
        rw [List.mem_singleton.1 single]
        exact ne_of_mem_of_not_mem member new
      · intro other member
        rcases List.mem_append.1 member with before | here
        · exact storable other before
        · rw [List.mem_singleton.1 here]
          exact room

section Placed

variable
  {fixture : Fixture}
  {graph : StoredGraph}
  {edge : FixtureEdge}

/-- The ids that a vertex is stored under are those of its pieces. -/
theorem storedIds_of_places
    (places : graph.places = placesOf fixture.layout fixture.vertices)
    (id : UInt64) :
    graph.storedIds id =
      ((fixture.vertices.find? fun vertex => vertex.id = id).map
        (FixtureVertex.pieces fixture.layout)).getD [] := by
  rw [StoredGraph.storedIds, places, lookup_placesOf]

/-- A declared vertex has a sibling for every edge. -/
theorem pick_of_declared
    (placeable : Placeable fixture.layout fixture.vertices)
    (places : graph.places = placesOf fixture.layout fixture.vertices)
    {id : UInt64}
    (declared : id ∈ fixture.vertices.map FixtureVertex.id)
    (other : UInt64) :
    graph.pick id other = .ok (fixture.sibling id other) := by
  obtain ⟨vertex, member, rfl⟩ := List.mem_map.1 declared
  have within : other.toNat % vertex.partitions.toNat <
      vertex.partitions.toNat :=
    Nat.mod_lt _ (placeable.storable vertex member).positive
  unfold StoredGraph.pick
  dsimp only
  rw [storedIds_of_places places, sibling,
    find?_vertex placeable.distinct member]
  simp only [Option.map_some, Option.getD_some, FixtureVertex.pieces,
    List.length_map, List.length_range, List.getElem?_map,
    List.getElem?_range within]

/-- A vertex that is not declared has no sibling. -/
theorem pick_of_undeclared
    (places : graph.places = placesOf fixture.layout fixture.vertices)
    {id : UInt64}
    (unknown : id ∉ fixture.vertices.map FixtureVertex.id)
    (other : UInt64) :
    graph.pick id other = .error (.undeclared id) := by
  have missing : (fixture.vertices.find? fun vertex => vertex.id = id) =
      none := by
    rw [List.find?_eq_none]
    intro vertex member same
    exact unknown (of_decide_eq_true same ▸ List.mem_map_of_mem member)
  unfold StoredGraph.pick
  dsimp only
  rw [storedIds_of_places places, missing]
  rfl

theorem addEdge_of_refused
    (placeable : Placeable fixture.layout fixture.vertices)
    (places : graph.places = placesOf fixture.layout fixture.vertices)
    {error : FixtureError}
    (refused : edge.Refused (fixture.vertices.map FixtureVertex.id) error) :
    graph.addEdge edge = .error error := by
  cases refused with
  | source unknown =>
      unfold StoredGraph.addEdge
      rw [pick_of_undeclared places unknown]
      rfl
  | target known unknown =>
      unfold StoredGraph.addEdge
      rw [pick_of_declared placeable places known,
        pick_of_undeclared places unknown]
      rfl
  | label source target large =>
      unfold StoredGraph.addEdge
      rw [pick_of_declared placeable places source,
        pick_of_declared placeable places target]
      exact if_neg (Nat.not_lt.2 large)

/-- An edge that can be stored links its ends. -/
theorem addEdge_of_storable
    (placeable : Placeable fixture.layout fixture.vertices)
    (places : graph.places = placesOf fixture.layout fixture.vertices)
    (storable : edge.Storable (fixture.vertices.map FixtureVertex.id)) :
    graph.addEdge edge =
      .ok { graph with store := graph.store.perform (fixture.link edge) } := by
  unfold StoredGraph.addEdge
  rw [pick_of_declared placeable places storable.source,
    pick_of_declared placeable places storable.target]
  exact if_pos storable.label

/-- Storing edges links their ends. -/
theorem stored_of_addEdge
    {edges : List FixtureEdge}
    {before : StoredGraph}
    (placeable : Placeable fixture.layout fixture.vertices)
    (places : before.places = placesOf fixture.layout fixture.vertices)
    (stores : edges.foldlM StoredGraph.addEdge before = .ok graph) :
    graph.places = placesOf fixture.layout fixture.vertices ∧
      graph.store =
        (edges.map fixture.link).foldl GraphStore.perform before.store ∧
      ∀ edge ∈ edges,
        edge.Storable (fixture.vertices.map FixtureVertex.id) := by
  induction edges using List.reverseRecOn generalizing graph with
  | nil =>
      cases stores
      exact ⟨places, rfl, fun edge member => by cases member⟩
  | append_singleton edges edge hypothesis =>
      rw [List.foldlM_append] at stores
      obtain ⟨middle, earlier, last⟩ := exists_of_bind_eq_ok stores
      obtain ⟨after, added, ends⟩ := exists_of_bind_eq_ok last
      cases ends
      obtain ⟨kept, store, declared⟩ := hypothesis earlier
      rcases edge.refused_or_storable
        (fixture.vertices.map FixtureVertex.id) with
        ⟨error, refused⟩ | storable
      · rw [addEdge_of_refused placeable kept refused] at added
        cases added
      · rw [addEdge_of_storable placeable kept storable] at added
        cases added
        refine ⟨kept, ?_, ?_⟩
        · rw [List.map_append, List.foldl_append, ← store]
          rfl
        · intro other member
          rcases List.mem_append.1 member with before | here
          · exact declared other before
          · rw [List.mem_singleton.1 here]
            exact storable

/-- Settling the marks of some vertices takes them from the deleted ones. -/
theorem stored_of_settleMarks
    (distinct : (fixture.vertices.map FixtureVertex.id).Nodup)
    (places : graph.places = placesOf fixture.layout fixture.vertices)
    {vertices : List FixtureVertex}
    (declared : vertices ⊆ fixture.vertices) :
    (vertices.foldl StoredGraph.settleMarks graph).places = graph.places ∧
      (vertices.foldl StoredGraph.settleMarks graph).store =
        (unmarksOf fixture.layout vertices).foldl GraphStore.perform
          graph.store := by
  induction vertices using List.reverseRecOn with
  | nil => exact ⟨rfl, rfl⟩
  | append_singleton vertices vertex hypothesis =>
      have member : vertex ∈ fixture.vertices :=
        declared (List.mem_append_right _ (List.mem_singleton_self vertex))
      obtain ⟨kept, store⟩ := hypothesis fun other among =>
        declared (List.mem_append_left _ among)
      rw [List.foldl_append, List.foldl_cons, List.foldl_nil,
        StoredGraph.settleMarks]
      cases deleted : vertex.deleted with
      | false =>
          rw [if_neg Bool.false_ne_true]
          refine ⟨kept, ?_⟩
          simpa [unmarksOf, deleted] using store
      | true =>
          rw [if_pos rfl]
          refine ⟨kept, ?_⟩
          have unmarked : unmarksOf fixture.layout (vertices ++ [vertex]) =
              unmarksOf fixture.layout vertices ++
                (vertex.pieces fixture.layout).map Write.unmark := by
            simp [unmarksOf, deleted]
          have stored : StoredGraph.storedIds
              (vertices.foldl StoredGraph.settleMarks graph) vertex.id =
              vertex.pieces fixture.layout := by
            rw [storedIds_of_places (kept.trans places),
              find?_vertex distinct member]
            rfl
          rw [unmarked, List.foldl_append, List.foldl_map, ← store, stored]
          rfl

theorem exists_graph (possible : fixture.build.toOption.isSome = true) :
    ∃ graph, fixture.build = .ok graph := by
  cases built : fixture.build with
  | error error =>
      rw [built] at possible
      cases possible
  | ok graph => exact ⟨graph, rfl⟩

/-- A fixture that is stored can be stored, and it is stored by its writes. -/
theorem stored_of_build (built : fixture.build = .ok graph) :
    fixture.Storable ∧
      graph.store = GraphStore.ofWrites fixture.layout fixture.writes := by
  obtain ⟨placed, stores, built⟩ := exists_of_bind_eq_ok built
  obtain ⟨joined, joins, built⟩ := exists_of_bind_eq_ok built
  cases built
  obtain ⟨marked, places, placeable⟩ := stored_of_addVertex stores
  obtain ⟨kept, store, edges⟩ := stored_of_addEdge placeable places joins
  have settled := (stored_of_settleMarks placeable.distinct kept
    (List.Subset.refl fixture.vertices)).2
  refine ⟨storable_iff.2 ⟨placeable, edges⟩, ?_⟩
  rw [settled, store, marked, writes, GraphStore.ofWrites, GraphStore.ofWrites,
    List.foldl_append, List.foldl_append]

/-- The vertices of a fixture that is stored are placed under their pieces. -/
theorem places_of_build (built : fixture.build = .ok graph) :
    graph.places = placesOf fixture.layout fixture.vertices := by
  obtain ⟨placed, stores, built⟩ := exists_of_bind_eq_ok built
  obtain ⟨joined, joins, built⟩ := exists_of_bind_eq_ok built
  cases built
  obtain ⟨-, places, placeable⟩ := stored_of_addVertex stores
  obtain ⟨kept, -⟩ := stored_of_addEdge placeable places joins
  rw [(stored_of_settleMarks placeable.distinct kept
    (List.Subset.refl fixture.vertices)).1, kept]

/-- A declared vertex of a fixture that is stored is placed under its pieces. -/
theorem storedIds_of_build
    (built : fixture.build = .ok graph)
    {vertex : FixtureVertex}
    (declared : vertex ∈ fixture.vertices) :
    graph.storedIds vertex.id = vertex.pieces fixture.layout := by
  rw [storedIds_of_places (places_of_build built),
    find?_vertex (stored_of_build built).1.distinct declared]
  rfl

end Placed

end Fixture
end GraphSweep
