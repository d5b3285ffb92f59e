import GraphSweep.Measure
import GraphSweep.Proofs.Fixture.Rows
import GraphSweep.Proofs.StateStore.Sums
import Mathlib.Algebra.Order.BigOperators.Group.Finset

/-!
# Values of measures

What a measure comes to for a vertex of a fixture, and what the program computes for
its pieces: each piece accounts for the edges that it stores, and as long as the whole
fits in a word, so does what is computed for a piece.
-/

namespace GraphSweep

namespace Measure

/-- What a neighbour counts for. -/
def weight : Measure -> UInt64 -> Nat
  | degree, _ => 1
  | neighborSum, id => id.toNat

/-- What a measure comes to for a vertex of a fixture over the edges of a label. -/
def total
    (measure : Measure)
    (fixture : Fixture)
    (label id : UInt64) : Nat :=
  ∑ target ∈ fixture.targets label id, measure.weight target +
    ∑ source ∈ fixture.sources label id, measure.weight source

/-- What a measure comes to for a piece of a vertex. -/
def share
    (measure : Measure)
    (fixture : Fixture)
    (label : UInt64)
    (vertex : FixtureVertex)
    (index : Nat) : Nat :=
  ∑ tip ∈ fixture.endsAt label vertex index, measure.weight tip.2

variable
  {measure : Measure}
  {fixture : Fixture}
  {label : UInt64}
  {vertex : FixtureVertex}
  {index : Nat}

/-- The pieces of a vertex account for all of it. -/
theorem sum_share (positive : 0 < vertex.partitions.toNat) :
    ∑ index ∈ Finset.range vertex.partitions.toNat,
        measure.share fixture label vertex index =
      measure.total fixture label vertex.id := by
  simp only [share]
  rw [Fixture.sum_endsAt label positive, Fixture.sum_ends]
  rfl

/-- No piece accounts for more than there is. -/
theorem share_le_total :
    measure.share fixture label vertex index ≤
      measure.total fixture label vertex.id := by
  rw [total, ← Fixture.sum_ends]
  exact Finset.sum_le_sum_of_subset (Finset.filter_subset _ _)

/-- The degree of a vertex is the number of its edges, loops counted twice. -/
theorem total_degree (id : UInt64) :
    degree.total fixture label id =
      (fixture.targets label id).card + (fixture.sources label id).card := by
  rw [Finset.card_eq_sum_ones, Finset.card_eq_sum_ones]
  rfl

/-- The degree of a vertex fits in a word. -/
theorem total_degree_lt
    (storable : fixture.Storable)
    (fits : fixture.Fits)
    (id : UInt64) :
    degree.total fixture label id < UInt64.size := by
  have few {others : Finset UInt64}
      (declared : ∀ other ∈ others,
        other ∈ fixture.vertices.map FixtureVertex.id) :
      others.card ≤ fixture.layout.countLimit := by
    rw [← Finset.card_range fixture.layout.countLimit]
    refine Finset.card_le_card_of_injOn UInt64.toNat ?_ ?_
    · intro other member
      obtain ⟨vertex, among, rfl⟩ := List.mem_map.1 (declared other member)
      exact Finset.mem_coe.2 (Finset.mem_range.2 (fits vertex among))
    · intro one _ other _ same
      exact UInt64.toNat_inj.1 same
  have targets : (fixture.targets label id).card ≤ fixture.layout.countLimit :=
    few fun other member => by
      obtain ⟨edge, among, rfl⟩ := List.mem_map.1 (List.mem_toFinset.1 member)
      exact storable.targets edge (List.mem_filter.1 among).1
  have sources : (fixture.sources label id).card ≤ fixture.layout.countLimit :=
    few fun other member => by
      obtain ⟨edge, among, rfl⟩ := List.mem_map.1 (List.mem_toFinset.1 member)
      exact storable.sources edge (List.mem_filter.1 among).1
  have unit : 4 ≤ fixture.layout.countUnit :=
    Nat.le_mul_of_pos_right 4 fixture.layout.partitionCount_pos
  have room := Nat.mul_le_mul_left fixture.layout.countLimit unit
  rw [IdLayout.countLimit_mul_countUnit] at room
  have limit : UInt64.size / 2 < UInt64.size := by decide
  rw [total_degree]
  omega

/-! ## The program -/

/-- A measure has a value for some neighbours where what they count for fits. -/
theorem value?_of_fits
    {layout : IdLayout}
    {neighbors : List VertexId}
    (fits : ((neighbors.map layout.count).map measure.weight).sum <
      UInt64.size) :
    measure.value? layout neighbors = some (UInt64.ofNat
      ((neighbors.map layout.count).map measure.weight).sum) := by
  cases measure with
  | degree =>
      have ones : ((neighbors.map layout.count).map (weight .degree)).sum =
          neighbors.length := by
        simp [Function.comp_def, weight]
      rw [ones]
      rfl
  | neighborSum =>
      have numbers : (neighbors.map layout.count).map (weight .neighborSum) =
          (neighbors.map layout.count).map UInt64.toNat := rfl
      rw [numbers] at fits ⊢
      have zero : (0 : UInt64).toNat = 0 := rfl
      rw [← Nat.zero_add (List.sum _), ← zero] at fits
      obtain ⟨sum, answer, total⟩ := mergeAll_of_fits fits
      rw [value?, checkedSum, answer, ← UInt64.ofNat_toNat (x := sum), total,
        zero, Nat.zero_add]

/-- The program takes no time. -/
theorem millis_program
    {ρ : Type}
    (layout : IdLayout)
    (query : Slice)
    (view : View)
    (own : OwnState UInt64) :
    (measure.program (ρ := ρ) layout query view own).millis = 0 := by
  unfold program
  cases view.neighbors query with
  | error error => rfl
  | ok neighbors =>
      dsimp only
      cases measure.value? layout neighbors <;> rfl

/-- The program writes what a piece accounts for. -/
theorem program_piece
    {σ ρ : Type}
    {job : Job σ ρ}
    {launch : Launch}
    (opening : job.Opening (Transaction.begin
      (GraphStore.ofWrites fixture.layout fixture.writes)).context launch)
    (storable : fixture.Storable)
    (fits : fixture.Fits)
    (live : fixture.Live vertex)
    (within : index < vertex.partitions.toNat)
    (room : label.toNat + Relation.firstFreeType.toNat < UInt64.size)
    (registered : Slice.ofType (Relation.firstFreeType + label) ∈
      registerQueries job.queries)
    (bounded : measure.total fixture label vertex.id < UInt64.size)
    (own : OwnState UInt64) :
    measure.program (ρ := ρ) fixture.layout
        (Slice.ofType (Relation.firstFreeType + label))
        (opening.viewOf (vertex.piece fixture.layout index)) own =
      .write (UInt64.ofNat (measure.share fixture label vertex index)) := by
  obtain ⟨neighbors, sees, perm⟩ := Fixture.neighbors_perm opening storable fits
    live within room registered
  have sum : ((neighbors.map fixture.layout.count).map measure.weight).sum =
      measure.share fixture label vertex index := by
    rw [(perm.map measure.weight).sum_eq, List.map_map]
    exact Finset.sum_map_toList _ _
  have value : measure.value? fixture.layout neighbors =
      some (UInt64.ofNat (measure.share fixture label vertex index)) := by
    rw [← sum]
    refine value?_of_fits ?_
    rw [sum]
    exact Nat.lt_of_le_of_lt share_le_total bounded
  rw [program, sees]
  dsimp only
  rw [value]

end Measure
end GraphSweep
