import GraphSweep.Proofs.GraphStore.KeyOrder
import GraphSweep.Proofs.IdLayout
import Mathlib.Algebra.Group.Nat.Defs
import Mathlib.Data.Set.Function

/-!
# Packing ids

An id is packed from what fits of its parts, which lie side by side in its bits. The
parts are told by the id, and packing what an id tells gives the id back, unless it is
negative or its low bits are the pattern that no kind has.
-/

namespace GraphSweep

/-- Low bits are the tag of the kind that they stand for, unless no kind has them. -/
theorem IdKind.tag_ofTag_iff {bits : Nat} (low : bits < 4) :
    (ofTag bits).tag = bits ↔ bits ≠ 3 := by
  obtain rfl | rfl | rfl | rfl :
      bits = 0 ∨ bits = 1 ∨ bits = 2 ∨ bits = 3 := by omega
  all_goals decide

namespace VertexId

theorem word_injective : Function.Injective word := by
  intro id other same
  rw [← ofWord_word id, same, ofWord_word]

end VertexId

namespace IdLayout

variable
  {layout : IdLayout}
  {count : UInt64}
  {partition : UInt32}
  {kind : IdKind}

/-- Number of counts that a layout tells apart, by the bits that it has for them. -/
theorem countLimit_eq_two_pow (layout : IdLayout) :
    layout.countLimit = 2 ^ (61 - layout.partitionWidth) :=
  Nat.one_shiftLeft _

/-- Number of partitions that a layout tells apart, by the bits that it has for them. -/
theorem partitionCount_eq_two_pow (layout : IdLayout) :
    layout.partitionCount = 2 ^ layout.partitionWidth :=
  Nat.one_shiftLeft _

/-- The count part begins above the partition part. -/
theorem countUnit_eq_two_pow (layout : IdLayout) :
    layout.countUnit = 2 ^ (layout.partitionWidth + 2) := by
  rw [countUnit, partitionCount_eq_two_pow, Nat.pow_add, Nat.mul_comm]

/-! ## Packing -/

/-- Composed ids are not negative. -/
theorem natural_compose : 0 ≤ layout.compose count partition kind :=
  VertexId.natural_of_word_lt (layout.word_compose_lt count partition kind)

/-- The parts of a composed id lie side by side in its bits. -/
theorem word_compose_eq_or :
    VertexId.word (layout.compose count partition kind) =
      (count.toNat % layout.countLimit) <<< (layout.partitionWidth + 2) |||
        (partition.toNat % layout.partitionCount) <<< 2 ||| kind.tag := by
  have tag := kind.tag_lt
  have low := layout.lowParts_lt partition.toNat kind
  rw [countUnit_eq_two_pow] at low
  calc VertexId.word (layout.compose count partition kind)
      = (count.toNat % layout.countLimit) <<< (layout.partitionWidth + 2) +
          (partition.toNat % layout.partitionCount * 4 + kind.tag) := by
        rw [word_compose, countUnit_eq_two_pow, Nat.shiftLeft_eq]
    _ = (count.toNat % layout.countLimit) <<< (layout.partitionWidth + 2) |||
          ((partition.toNat % layout.partitionCount) <<< 2 + kind.tag) := by
        rw [Nat.shiftLeft_add_eq_or_of_lt low, Nat.shiftLeft_eq _ 2]
    _ = (count.toNat % layout.countLimit) <<< (layout.partitionWidth + 2) |||
          (partition.toNat % layout.partitionCount) <<< 2 ||| kind.tag := by
        rw [Nat.shiftLeft_add_eq_or_of_lt tag, Nat.or_assoc]

/-! ## Taking apart -/

/-- The count that an id tells. -/
theorem toNat_count (layout : IdLayout) (id : VertexId) :
    (layout.count id).toNat = VertexId.word id / layout.countUnit :=
  UInt64.toNat_ofNat_of_lt'
    (Nat.lt_of_le_of_lt (Nat.div_le_self _ _) (VertexId.word_lt id))

/-- The partition that an id tells. -/
theorem toNat_partition (layout : IdLayout) (id : VertexId) :
    (layout.partition id).toNat =
      VertexId.word id / 4 % layout.partitionCount :=
  UInt32.toNat_ofNat_of_lt'
    (Nat.lt_trans (Nat.mod_lt _ layout.partitionCount_pos)
      layout.partitionCount_lt_size)

/-- The count that an id tells fits if the id is not negative. -/
theorem toNat_count_lt {id : VertexId} (natural : 0 ≤ id) :
    (layout.count id).toNat < layout.countLimit := by
  rw [toNat_count]
  apply Nat.div_lt_of_lt_mul
  rw [Nat.mul_comm, countLimit_mul_countUnit]
  exact VertexId.word_lt_of_natural natural

/-- The partition that an id tells fits. -/
theorem toNat_partition_lt (layout : IdLayout) (id : VertexId) :
    (layout.partition id).toNat < layout.partitionCount := by
  rw [toNat_partition]
  exact Nat.mod_lt _ layout.partitionCount_pos

/-- An id is the sum of what its three parts stand for. -/
theorem word_eq_parts (layout : IdLayout) (id : VertexId) :
    VertexId.word id =
      (layout.count id).toNat * layout.countUnit +
        ((layout.partition id).toNat * 4 + VertexId.word id % 4) := by
  have low := Nat.div_add_mod (VertexId.word id) 4
  have high := Nat.div_add_mod (VertexId.word id / 4) layout.partitionCount
  rw [toNat_count, toNat_partition, countUnit, ← Nat.div_div_eq_div_mul,
    Nat.mul_left_comm, Nat.mul_comm _ layout.partitionCount]
  omega

/-- Packing what an id tells gives the id back exactly if the id is not negative and its
low bits are the tag of a kind. -/
theorem compose_parts_eq_iff (layout : IdLayout) (id : VertexId) :
    layout.compose (layout.count id) (layout.partition id)
        (VertexId.kind id) = id ↔
      0 ≤ id ∧ VertexId.word id % 4 ≠ 3 := by
  rw [← IdKind.tag_ofTag_iff (Nat.mod_lt _ (by decide)), ← VertexId.kind]
  constructor
  · intro same
    have low := layout.word_compose_mod_four (layout.count id)
      (layout.partition id) (VertexId.kind id)
    rw [same] at low
    exact ⟨same ▸ natural_compose, low.symm⟩
  · rintro ⟨natural, low⟩
    apply VertexId.word_injective
    rw [word_compose, Nat.mod_eq_of_lt (toNat_count_lt natural),
      Nat.mod_eq_of_lt (toNat_partition_lt layout id), low]
    exact (word_eq_parts layout id).symm

/-- Ids that are composed of parts that fit are equal only if the parts are. -/
theorem injOn_compose (layout : IdLayout) :
    Set.InjOn
      (fun parts : UInt64 × UInt32 × IdKind =>
        layout.compose parts.1 parts.2.1 parts.2.2)
      {parts | parts.1.toNat < layout.countLimit ∧
        parts.2.1.toNat < layout.partitionCount} := by
  rintro ⟨count, partition, kind⟩ ⟨fits, within⟩
    ⟨otherCount, otherPartition, otherKind⟩ ⟨otherFits, otherWithin⟩ same
  obtain ⟨counts, partitions, kinds⟩ := compose_eq_iff.1 same
  rw [Nat.mod_eq_of_lt fits, Nat.mod_eq_of_lt otherFits] at counts
  rw [Nat.mod_eq_of_lt within, Nat.mod_eq_of_lt otherWithin] at partitions
  exact Prod.ext (UInt64.toNat_inj.1 counts)
    (Prod.ext (UInt32.toNat_inj.1 partitions) kinds)

/-- Whatever number of partition bits is asked for, an id is packed from what fits of a
count and of a partition, and from the tag of a kind, side by side below its sign. It
tells these parts, so that parts that fit are told apart, and packing what an id tells
gives the id back exactly if it is not negative and its low bits are the tag of a kind. -/
theorem packing_undoes_taking_apart (bits : UInt32) :
    let layout := ofBits bits
    let width := min bits.toNat 16
    (∀ (count : UInt64) (partition : UInt32) (kind : IdKind),
      let id := layout.compose count partition kind
      VertexId.word id =
          (count.toNat % 2 ^ (61 - width)) <<< (width + 2) |||
            (partition.toNat % 2 ^ width) <<< 2 ||| kind.tag ∧
        0 ≤ id ∧
        (layout.count id).toNat = count.toNat % 2 ^ (61 - width) ∧
        (layout.partition id).toNat = partition.toNat % 2 ^ width ∧
        VertexId.kind id = kind) ∧
    Set.InjOn
      (fun parts : UInt64 × UInt32 × IdKind =>
        layout.compose parts.1 parts.2.1 parts.2.2)
      {parts | parts.1.toNat < 2 ^ (61 - width) ∧
        parts.2.1.toNat < 2 ^ width} ∧
    ∀ id : VertexId,
      layout.compose (layout.count id) (layout.partition id)
          (VertexId.kind id) = id ↔
        0 ≤ id ∧ VertexId.word id % 4 ≠ 3 := by
  intro layout width
  have counts : 2 ^ (61 - width) = layout.countLimit :=
    (countLimit_eq_two_pow layout).symm
  have partitions : 2 ^ width = layout.partitionCount :=
    (partitionCount_eq_two_pow layout).symm
  rw [counts, partitions]
  refine ⟨?composed, injOn_compose layout, compose_parts_eq_iff layout⟩
  case composed =>
    intro count partition kind id
    exact ⟨word_compose_eq_or, natural_compose,
      layout.toNat_count_compose count partition kind,
      layout.toNat_partition_compose count partition kind,
      layout.kind_compose count partition kind⟩

end IdLayout
end GraphSweep
