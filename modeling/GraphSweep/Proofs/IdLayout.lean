import GraphSweep.VertexId

/-!
# Parts of composed ids

An id composed of a count, a partition and a kind keeps the parts that fit their
fields. So the canonical sibling of a partitioned vertex is its own canonical
sibling.
-/

namespace GraphSweep
namespace IdLayout

/-- Number of counts that a layout tells apart. -/
def countLimit (layout : IdLayout) : Nat := 1 <<< layout.countBits

theorem partitionCount_pos (layout : IdLayout) : 0 < layout.partitionCount := by
  rw [partitionCount, Nat.one_shiftLeft]
  exact Nat.two_pow_pos _

/-- Numbers of partitions are far below the bound of their words. -/
theorem partitionCount_lt_size (layout : IdLayout) :
    layout.partitionCount < UInt32.size := by
  have most : 2 ^ layout.partitionWidth ≤ 2 ^ 16 :=
    Nat.pow_le_pow_right (by decide) layout.bounded
  rw [partitionCount, Nat.one_shiftLeft]
  exact Nat.lt_of_le_of_lt most (by decide)

theorem countLimit_pos (layout : IdLayout) : 0 < layout.countLimit := by
  rw [countLimit, Nat.one_shiftLeft]
  exact Nat.two_pow_pos _

/-- The fields of an id fill the bits below its sign. -/
theorem countLimit_mul_countUnit (layout : IdLayout) :
    layout.countLimit * layout.countUnit = UInt64.size / 2 := by
  have bounded := layout.bounded
  have bits : layout.countBits + (2 + layout.partitionWidth) = 63 := by
    rw [countBits]
    omega
  rw [countLimit, countUnit, partitionCount, Nat.one_shiftLeft,
    Nat.one_shiftLeft, show (4 : Nat) = 2 ^ 2 from rfl, ← Nat.pow_add,
    ← Nat.pow_add, bits]
  rfl

/-- The two low parts of an id stay below the lowest bit of the count. -/
theorem lowParts_lt
    (layout : IdLayout)
    (partition : Nat)
    (kind : IdKind) :
    partition % layout.partitionCount * 4 + kind.tag < layout.countUnit := by
  have within := Nat.mod_lt partition layout.partitionCount_pos
  have small := kind.tag_lt
  rw [countUnit]
  omega

/-- The parts of an id leave the sign out. -/
theorem parts_lt
    (layout : IdLayout)
    (count partition : Nat)
    (kind : IdKind) :
    count % layout.countLimit * layout.countUnit +
        (partition % layout.partitionCount * 4 + kind.tag) <
      UInt64.size / 2 := by
  have low := layout.lowParts_lt partition kind
  have high : count % layout.countLimit + 1 ≤ layout.countLimit :=
    Nat.mod_lt _ layout.countLimit_pos
  have total := Nat.mul_le_mul_right layout.countUnit high
  rw [countLimit_mul_countUnit, Nat.add_mul, Nat.one_mul] at total
  exact Nat.lt_of_lt_of_le (Nat.add_lt_add_left low _) total

/-- The word of a composed id is the sum of its parts. -/
theorem word_compose
    (layout : IdLayout)
    (count : UInt64)
    (partition : UInt32)
    (kind : IdKind) :
    VertexId.word (layout.compose count partition kind) =
      count.toNat % layout.countLimit * layout.countUnit +
        (partition.toNat % layout.partitionCount * 4 + kind.tag) := by
  have fits := layout.parts_lt count.toNat partition.toNat kind
  rw [compose, VertexId.word_ofWord, ← countLimit,
    Nat.add_assoc, Nat.mod_eq_of_lt]
  exact Nat.lt_of_lt_of_le fits (by decide)

/-- A composed id leaves the sign out. -/
theorem word_compose_lt
    (layout : IdLayout)
    (count : UInt64)
    (partition : UInt32)
    (kind : IdKind) :
    VertexId.word (layout.compose count partition kind) <
      UInt64.size / 2 := by
  rw [word_compose]
  exact layout.parts_lt count.toNat partition.toNat kind

/-- The low bits of a composed id are the tag of its kind. -/
theorem word_compose_mod_four
    (layout : IdLayout)
    (count : UInt64)
    (partition : UInt32)
    (kind : IdKind) :
    VertexId.word (layout.compose count partition kind) % 4 = kind.tag := by
  have small := kind.tag_lt
  have regroup : ∀ (high low : Nat),
      (high * (4 * layout.partitionCount) + (low * 4 + kind.tag)) % 4 =
        kind.tag := by
    intro high low
    rw [Nat.mul_left_comm]
    omega
  rw [word_compose, countUnit, regroup]

/-- A composed id has the kind it was composed with. -/
@[simp] theorem kind_compose
    (layout : IdLayout)
    (count : UInt64)
    (partition : UInt32)
    (kind : IdKind) :
    VertexId.kind (layout.compose count partition kind) = kind := by
  rw [VertexId.kind, word_compose_mod_four, IdKind.ofTag_tag]

/-- A composed id has the count it was composed with, as far as it fits. -/
theorem count_compose
    (layout : IdLayout)
    (count : UInt64)
    (partition : UInt32)
    (kind : IdKind) :
    layout.count (layout.compose count partition kind) =
      UInt64.ofNat (count.toNat % layout.countLimit) := by
  have low := layout.lowParts_lt partition.toNat kind
  have positive : 0 < layout.countUnit := Nat.zero_lt_of_lt low
  rw [IdLayout.count, word_compose, Nat.mul_comm, Nat.mul_add_div positive,
    Nat.div_eq_of_lt low, Nat.add_zero]

/-- A composed id has the partition it was composed with, as far as it fits. -/
theorem partition_compose
    (layout : IdLayout)
    (count : UInt64)
    (partition : UInt32)
    (kind : IdKind) :
    layout.partition (layout.compose count partition kind) =
      UInt32.ofNat (partition.toNat % layout.partitionCount) := by
  have small := kind.tag_lt
  have regroup : ∀ (high low : Nat),
      (high * (4 * layout.partitionCount) + (low * 4 + kind.tag)) / 4 =
        low + layout.partitionCount * high := by
    intro high low
    rw [Nat.mul_left_comm, Nat.mul_comm high]
    omega
  rw [IdLayout.partition, word_compose, countUnit, regroup,
    Nat.add_mul_mod_self_left, Nat.mod_mod]

/-- The count of a composed id is the number it was composed with, less what does not
fit. -/
@[simp] theorem toNat_count_compose
    (layout : IdLayout)
    (count : UInt64)
    (partition : UInt32)
    (kind : IdKind) :
    (layout.count (layout.compose count partition kind)).toNat =
      count.toNat % layout.countLimit := by
  have fits : count.toNat % layout.countLimit < UInt64.size :=
    Nat.lt_of_le_of_lt (Nat.mod_le _ _) count.toNat_lt_size
  rw [count_compose, UInt64.toNat_ofNat_of_lt' fits]

/-- The partition of a composed id is the number it was composed with, less what does
not fit. -/
@[simp] theorem toNat_partition_compose
    (layout : IdLayout)
    (count : UInt64)
    (partition : UInt32)
    (kind : IdKind) :
    (layout.partition (layout.compose count partition kind)).toNat =
      partition.toNat % layout.partitionCount := by
  have fits : partition.toNat % layout.partitionCount < UInt32.size :=
    Nat.lt_of_le_of_lt (Nat.mod_le _ _) partition.toNat_lt_size
  rw [partition_compose, UInt32.toNat_ofNat_of_lt' fits]

/-- Two composed ids are equal exactly if they are of one kind and agree in what fits of
their counts and partitions. -/
theorem compose_eq_iff
    {layout : IdLayout}
    {count otherCount : UInt64}
    {partition otherPartition : UInt32}
    {kind otherKind : IdKind} :
    layout.compose count partition kind =
        layout.compose otherCount otherPartition otherKind ↔
      count.toNat % layout.countLimit = otherCount.toNat % layout.countLimit ∧
      partition.toNat % layout.partitionCount =
        otherPartition.toNat % layout.partitionCount ∧
      kind = otherKind := by
  constructor
  · intro same
    refine ⟨?counts, ?partitions, ?kinds⟩
    case counts =>
      have counts := congrArg (fun id => (layout.count id).toNat) same
      simpa only [toNat_count_compose] using counts
    case partitions =>
      have partitions := congrArg (fun id => (layout.partition id).toNat) same
      simpa only [toNat_partition_compose] using partitions
    case kinds =>
      have kinds := congrArg VertexId.kind same
      rwa [kind_compose, kind_compose] at kinds
  · rintro ⟨counts, partitions, rfl⟩
    rw [compose, compose, ← countLimit, counts, partitions]

/-- Ids that differ in nothing but a partition that fits are told apart by it. -/
theorem eq_of_compose_ofNat_eq
    {layout : IdLayout}
    {count : UInt64}
    {kind : IdKind}
    {first second : Nat}
    (one : first < layout.partitionCount)
    (two : second < layout.partitionCount)
    (same : layout.compose count (UInt32.ofNat first) kind =
      layout.compose count (UInt32.ofNat second) kind) :
    first = second := by
  have fits {index : Nat} (within : index < layout.partitionCount) :
      (UInt32.ofNat index).toNat % layout.partitionCount = index := by
    rw [UInt32.toNat_ofNat_of_lt'
      (Nat.lt_trans within layout.partitionCount_lt_size),
      Nat.mod_eq_of_lt within]
  have partitions := (compose_eq_iff.1 same).2.1
  rwa [fits one, fits two] at partitions

/-- Cutting a count off twice is cutting it off once. -/
theorem compose_cutCount
    (layout : IdLayout)
    (count : UInt64)
    (partition : UInt32)
    (kind : IdKind) :
    layout.compose (UInt64.ofNat (count.toNat % layout.countLimit)) partition
        kind =
      layout.compose count partition kind := by
  have fits : count.toNat % layout.countLimit < UInt64.size :=
    Nat.lt_of_le_of_lt (Nat.mod_le _ _) count.toNat_lt_size
  rw [compose, compose, ← countLimit, UInt64.toNat_ofNat_of_lt' fits,
    Nat.mod_mod]

/-- The canonical sibling of a vertex is of the kind of the vertex. -/
@[simp] theorem kind_canonical (layout : IdLayout) (id : VertexId) :
    VertexId.kind (layout.canonical id) = VertexId.kind id := by
  by_cases partitioned : VertexId.isPartitioned id
  · rw [canonical, if_pos partitioned, IdLayout.partitioned, kind_compose]
    exact (of_decide_eq_true partitioned).symm
  · rw [canonical, if_neg partitioned]

/-- The canonical sibling of a vertex is partitioned where the vertex is. -/
@[simp] theorem isPartitioned_canonical (layout : IdLayout) (id : VertexId) :
    VertexId.isPartitioned (layout.canonical id) =
      VertexId.isPartitioned id := by
  rw [VertexId.isPartitioned, kind_canonical, VertexId.isPartitioned]

/-- A vertex that is not its own canonical sibling is partitioned. -/
theorem isPartitioned_of_canonical_ne
    {layout : IdLayout}
    {id : VertexId}
    (apart : layout.canonical id ≠ id) :
    VertexId.isPartitioned id = true := by
  by_cases partitioned : VertexId.isPartitioned id
  · exact partitioned
  · exact absurd (if_neg partitioned) apart

/-- The first sibling of a vertex is the canonical one of all its siblings. -/
theorem canonical_partitioned
    (layout : IdLayout)
    (count : UInt64)
    (partition : UInt32) :
    layout.canonical (layout.partitioned count partition) =
      layout.partitioned count 0 := by
  have kept : VertexId.isPartitioned (layout.partitioned count partition) =
      true := by
    simp [VertexId.isPartitioned, IdLayout.partitioned]
  rw [canonical, if_pos kept, IdLayout.partitioned, IdLayout.partitioned,
    IdLayout.partitioned, count_compose, compose_cutCount]

/-- The canonical sibling of a partitioned vertex is its own canonical
sibling. -/
@[simp] theorem canonical_canonical (layout : IdLayout) (id : VertexId) :
    layout.canonical (layout.canonical id) = layout.canonical id := by
  by_cases partitioned : VertexId.isPartitioned id
  · have first : layout.canonical id =
        layout.partitioned (layout.count id) 0 := if_pos partitioned
    rw [first, canonical_partitioned]
  · simp [canonical, partitioned]

end IdLayout
end GraphSweep
