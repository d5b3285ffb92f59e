import GraphSweep.Fixture.Generate
import GraphSweep.Proofs.Fixture.Validation

/-!
# Random fixtures can be stored

Whatever sampler it is drawn with, as long as the draws lie between their bounds, a random
fixture declares the numbers from one up to a bound, each as a plain vertex, and joins each
of them to as many others, never to itself: a draw that hits the vertex itself goes on to
the next number, and from the last one to the first. So it passes all checks of storing it.
-/

namespace GraphSweep

/-! ## Draws -/

namespace RandomSource

variable {bound : UInt64}

/-- However often a draw is refused, the answer lies between one and the bound. -/
theorem drawWithin_mem
    (positive : 0 < bound.toNat)
    (tries : Nat)
    (random : RandomSource) :
    1 ≤ (drawWithin bound tries random).1.toNat ∧
      (drawWithin bound tries random).1.toNat ≤ bound.toNat := by
  induction tries generalizing random with
  | zero => exact ⟨Nat.le_refl 1, positive⟩
  | succ tries hypothesis =>
      rw [drawWithin]
      dsimp only
      split
      · -- The upper half of the product of a word and the bound is below the bound.
        have high : random.next.1.toNat * bound.toNat / UInt64.size < bound.toNat :=
          Nat.div_lt_of_lt_mul
            (Nat.mul_lt_mul_of_pos_right random.next.1.toNat_lt_size positive)
        rw [UInt64.toNat_ofNat_of_lt' (Nat.lt_of_le_of_lt high bound.toNat_lt_size)]
        exact ⟨Nat.le_add_left 1 _, high⟩
      · exact hypothesis random.next.2

/-- Draws of the ChaCha source lie between one and their bounds. -/
theorem bounded_sampler : sampler.Bounded :=
  fun random _ positive => drawWithin_mem positive 1000 random

end RandomSource

namespace Fixture

/-! ## Numbers -/

section Numbers

variable {count number : UInt64}

theorem map_toNat_numbering (count : UInt64) :
    (numbering count).map UInt64.toNat = List.range' 1 count.toNat := by
  rw [numbering, List.map_map, List.range'_eq_map_range]
  refine List.map_congr_left fun index member => ?_
  have within : index < count.toNat := List.mem_range.1 member
  have fits : index + 1 < UInt64.size :=
    Nat.lt_of_le_of_lt within count.toNat_lt_size
  exact (UInt64.toNat_ofNat_of_lt' fits).trans (Nat.add_comm index 1)

theorem mem_numbering :
    number ∈ numbering count ↔ 1 ≤ number.toNat ∧ number.toNat ≤ count.toNat := by
  have same : number ∈ numbering count ↔
      number.toNat ∈ (numbering count).map UInt64.toNat :=
    (List.mem_map_of_injective fun _ _ => UInt64.toNat_inj.1).symm
  rw [same, map_toNat_numbering, List.mem_range'_1]
  omega

theorem nodup_numbering (count : UInt64) : (numbering count).Nodup := by
  refine List.Nodup.of_map UInt64.toNat ?_
  rw [map_toNat_numbering]
  exact List.nodup_range'

end Numbers

/-! ## Edges -/

section Edges

variable
  {R : Type}
  {sampler : Sampler R}
  {vertices : UInt64}

/-- An edge of the first label goes to one of some number of vertices, and not to its own
source. -/
structure JoinsOther (vertices : UInt64) (edge : FixtureEdge) : Prop where
  label : edge.label = 0
  positive : 1 ≤ edge.target.toNat
  bounded : edge.target.toNat ≤ vertices.toNat
  apart : edge.target ≠ edge.source

/-- The number after one among the vertices, which after the last one is the first. -/
theorem toNat_mod_add_one (positive : 0 < vertices.toNat) (number : UInt64) :
    (number % vertices + 1).toNat = number.toNat % vertices.toNat + 1 := by
  have below := Nat.mod_lt number.toNat positive
  rw [UInt64.toNat_add, UInt64.toNat_mod]
  exact Nat.mod_eq_of_lt (Nat.lt_of_le_of_lt below vertices.toNat_lt_size)

/-- What is drawn becomes the other end of an edge, or where it is the vertex itself the
number after it. -/
theorem fst_drawTarget
    (sampler : Sampler R)
    (vertices source : UInt64)
    (random : R) :
    (drawTarget sampler vertices source random).1 =
      if (sampler.draw random vertices).1 = source then
        (sampler.draw random vertices).1 % vertices + 1
      else (sampler.draw random vertices).1 := by
  rw [drawTarget]

/-- The other end of an edge is drawn among the vertices, and is never the vertex
itself. -/
theorem joinsOther_drawTarget
    (bounded : sampler.Bounded)
    (several : 1 < vertices.toNat)
    (source : UInt64)
    (random : R) :
    JoinsOther vertices
      ⟨source, (drawTarget sampler vertices source random).1, 0⟩ := by
  have positive : 0 < vertices.toNat := Nat.lt_of_succ_lt several
  obtain ⟨low, high⟩ := bounded random vertices positive
  rw [fst_drawTarget]
  generalize (sampler.draw random vertices).1 = drawn at low high
  by_cases own : drawn = source
  · subst own
    have next := toNat_mod_add_one positive drawn
    have below := Nat.mod_lt drawn.toNat positive
    rw [if_pos rfl]
    refine ⟨rfl, by simp only [next]; omega, by simp only [next]; omega, ?_⟩
    intro same
    have same := congrArg UInt64.toNat same
    simp only [next] at same
    -- Only the last vertex is not followed by the next number.
    rcases Nat.lt_or_eq_of_le high with before | last
    · rw [Nat.mod_eq_of_lt before] at same
      omega
    · rw [last, Nat.mod_self] at same
      omega
  · rw [if_neg own]
    exact ⟨rfl, low, high, own⟩

/-- All edges that are drawn from a vertex start there and join it to others. -/
theorem drawEdges_spec
    (bounded : sampler.Bounded)
    (several : 1 < vertices.toNat)
    (source : UInt64)
    (count : Nat)
    (random : R) :
    let edges := (drawEdges sampler vertices source count random).1
    edges.map FixtureEdge.source = List.replicate count source ∧
      ∀ edge ∈ edges, JoinsOther vertices edge := by
  induction count generalizing random with
  | zero => exact ⟨rfl, fun edge member => absurd member List.not_mem_nil⟩
  | succ count hypothesis =>
      have joins := joinsOther_drawTarget bounded several source random
      rw [drawEdges]
      generalize drawTarget sampler vertices source random = drawn at joins
      obtain ⟨target, next⟩ := drawn
      obtain ⟨sources, joinsRest⟩ := hypothesis next
      dsimp only
      rw [List.map_cons, List.replicate_succ, sources]
      exact ⟨rfl, List.forall_mem_cons.2 ⟨joins, joinsRest⟩⟩

/-- Edges are drawn from one vertex after another, as many from each, and join them to
others. -/
theorem drawAll_spec
    (bounded : sampler.Bounded)
    (several : 1 < vertices.toNat)
    (degree : Nat)
    (sources : List UInt64)
    (random : R) :
    let edges := drawAll sampler vertices degree sources random
    edges.map FixtureEdge.source = sources.flatMap (List.replicate degree) ∧
      ∀ edge ∈ edges, JoinsOther vertices edge := by
  induction sources generalizing random with
  | nil => exact ⟨rfl, fun edge member => absurd member List.not_mem_nil⟩
  | cons source sources hypothesis =>
      obtain ⟨own, joins⟩ :=
        drawEdges_spec bounded several source degree random
      rw [drawAll]
      generalize drawEdges sampler vertices source degree random = drawn
        at own joins
      obtain ⟨edges, next⟩ := drawn
      obtain ⟨later, joinsLater⟩ := hypothesis next
      dsimp only at own joins ⊢
      rw [List.map_append, own, later, List.flatMap_cons]
      exact ⟨rfl, List.forall_mem_append.2 ⟨joins, joinsLater⟩⟩

end Edges

/-! ## Fixtures -/

section Generated

variable
  {R : Type}
  {sampler : Sampler R}
  {vertices : UInt64}
  {degree : UInt32}
  {seed : UInt64}

theorem map_id_generateWith
    (sampler : Sampler R)
    (vertices : UInt64)
    (degree : UInt32)
    (seed : UInt64) :
    (generateWith sampler vertices degree seed).vertices.map FixtureVertex.id =
      numbering vertices := by
  rw [generateWith, List.map_map]
  exact List.map_id _

/-- A random fixture has no edges, or as many from each vertex in turn, and each goes to
another vertex. -/
theorem edges_generateWith
    (bounded : sampler.Bounded)
    (vertices : UInt64)
    (degree : UInt32)
    (seed : UInt64) :
    let edges := (generateWith sampler vertices degree seed).edges
    (vertices.toNat ≤ 1 -> edges = []) ∧
      (1 < vertices.toNat ->
        edges.map FixtureEdge.source =
          (numbering vertices).flatMap (List.replicate degree.toNat)) ∧
      ∀ edge ∈ edges, JoinsOther vertices edge := by
  have order : 1 < vertices ↔ 1 < vertices.toNat := UInt64.lt_iff_toNat_lt
  rw [generateWith]
  by_cases several : 1 < vertices
  · obtain ⟨sources, joins⟩ := drawAll_spec bounded (order.1 several)
      degree.toNat (numbering vertices) (sampler.ofSeed seed)
    rw [if_pos several]
    exact ⟨fun few => absurd (order.1 several) (Nat.not_lt.2 few), fun _ => sources,
      joins⟩
  · rw [if_neg several]
    exact ⟨fun _ => rfl, fun more => absurd (order.2 more) several,
      fun edge member => absurd member List.not_mem_nil⟩

/-- The edges of a random fixture start at its vertices. -/
theorem source_mem_numbering
    (bounded : sampler.Bounded)
    {edge : FixtureEdge}
    (member : edge ∈ (generateWith sampler vertices degree seed).edges) :
    edge.source ∈ numbering vertices := by
  obtain ⟨none, sources, -⟩ := edges_generateWith bounded vertices degree seed
  rcases Nat.lt_or_ge 1 vertices.toNat with several | few
  · have among := List.mem_map_of_mem (f := FixtureEdge.source) member
    rw [sources several] at among
    obtain ⟨source, declared, same⟩ := List.mem_flatMap.1 among
    rw [List.eq_of_mem_replicate same]
    exact declared
  · rw [none few] at member
    cases member

/-- A plain vertex can be stored in every layout. -/
theorem storable_plain (layout : IdLayout) (id : UInt64) :
    (FixtureVertex.plain id).Storable layout where
  positive := Nat.one_pos
  bounded := layout.partitionCount_pos
  whole := fun _ => rfl

/-- A random fixture passes all checks of storing it. -/
theorem storable_generateWith (bounded : sampler.Bounded) :
    (generateWith sampler vertices degree seed).Storable where
  distinct := by
    rw [map_id_generateWith]
    exact nodup_numbering vertices
  vertices := by
    intro vertex member
    obtain ⟨id, -, rfl⟩ := List.mem_map.1 member
    exact storable_plain _ id
  sources := by
    intro edge member
    rw [map_id_generateWith]
    exact source_mem_numbering bounded member
  targets := by
    intro edge member
    have joins :=
      (edges_generateWith bounded vertices degree seed).2.2 edge member
    rw [map_id_generateWith]
    exact mem_numbering.2 ⟨joins.positive, joins.bounded⟩
  labels := by
    intro edge member
    have joins :=
      (edges_generateWith bounded vertices degree seed).2.2 edge member
    rw [joins.label]
    decide

end Generated

/-- A random fixture declares the numbers from one up to a bound in their order, each as a
plain vertex. Up to one vertex it has no edges, and otherwise a fixed number of edges from
each vertex in turn, all of the first label and each to another one of the vertices.
Storing it succeeds. All this takes of the draws is that they lie between their bounds. -/
theorem generated_fixtures_are_regular
    {R : Type}
    (sampler : Sampler R)
    (bounded : sampler.Bounded)
    (vertices : UInt64)
    (degree : UInt32)
    (seed : UInt64) :
    let fixture : Fixture := generateWith sampler vertices degree seed
    let numbers := List.range' 1 vertices.toNat
    (fixture.vertices.map fun vertex => vertex.id.toNat) = numbers ∧
    (∀ vertex ∈ fixture.vertices, vertex = .plain vertex.id) ∧
    (vertices.toNat ≤ 1 -> fixture.edges = []) ∧
    (1 < vertices.toNat ->
      fixture.edges.length = vertices.toNat * degree.toNat ∧
      (fixture.edges.map fun edge => edge.source.toNat) =
        numbers.flatMap (List.replicate degree.toNat)) ∧
    (∀ edge ∈ fixture.edges,
      edge.label = 0 ∧ edge.target ≠ edge.source ∧
      1 ≤ edge.target.toNat ∧ edge.target.toNat ≤ vertices.toNat) ∧
    ∃ graph, fixture.build = .ok graph := by
  intro fixture numbers
  obtain ⟨none, sources, joins⟩ :=
    edges_generateWith bounded vertices degree seed
  have grouped (several : 1 < vertices.toNat) :
      (fixture.edges.map fun edge => edge.source.toNat) =
        numbers.flatMap (List.replicate degree.toNat) := by
    have told := congrArg (List.map UInt64.toNat) (sources several)
    rw [List.map_map, List.map_flatMap] at told
    simp only [List.map_replicate] at told
    rw [show numbers = (numbering vertices).map UInt64.toNat from
      (map_toNat_numbering vertices).symm, List.flatMap_map]
    exact told
  refine ⟨?numbered, ?plain, none, fun several => ⟨?count, grouped several⟩, ?joined,
    exists_build_eq_ok_iff.2 (storable_generateWith bounded)⟩
  case numbered =>
    have told := congrArg (List.map UInt64.toNat)
      (map_id_generateWith sampler vertices degree seed)
    rwa [List.map_map, map_toNat_numbering] at told
  case plain =>
    intro vertex member
    obtain ⟨id, -, rfl⟩ := List.mem_map.1 member
    rfl
  case count =>
    have lengths := congrArg List.length (grouped several)
    rw [List.length_map, List.length_flatMap] at lengths
    simpa [numbers] using lengths
  case joined =>
    intro edge member
    obtain ⟨label, positive, bounded, apart⟩ := joins edge member
    exact ⟨label, apart, positive, bounded⟩

theorem generated_triangle_is_regular :
    RandomSource.sampler.Bounded ∧
    let fixture : Fixture := generate 3 2 7
    (fixture.vertices.map fun vertex => vertex.id.toNat) = [1, 2, 3] ∧
    fixture.edges.length = 6 ∧
    (fixture.edges.map fun edge => edge.source.toNat) = [1, 1, 2, 2, 3, 3] ∧
    ∃ graph, fixture.build = .ok graph := by
  have bounded := RandomSource.bounded_sampler
  obtain ⟨numbered, -, -, edges, -, stored⟩ :=
    generated_fixtures_are_regular RandomSource.sampler bounded 3 2 7
  obtain ⟨count, sources⟩ := edges (by decide)
  exact ⟨bounded, numbered, count, sources, stored⟩

end Fixture
end GraphSweep
