import GraphSweep.Proofs.GraphStore.History
import GraphSweep.Proofs.VertexId.Parts
import Mathlib.Data.List.Nodup

/-!
# Siblings and their canonical ids

Two ids have one canonical id exactly if they are siblings: ids of partitioned vertices
that tell the same count. The canonical id is the lowest of them. A partitioned vertex
that is stored is marked under siblings that are told apart, the canonical one first.
-/

namespace GraphSweep

/-- Ids that are not negative are in the order of their words. -/
theorem VertexId.le_iff_word_le
    {id other : VertexId}
    (natural : 0 ≤ id)
    (naturalOther : 0 ≤ other) :
    id ≤ other ↔ word id ≤ word other := by
  rw [Int64.le_iff_toInt_le, toInt_eq_word natural, toInt_eq_word naturalOther,
    Int.ofNat_le]

namespace IdLayout

/-! ## Canonical ids -/

variable {layout : IdLayout} {id other : VertexId}

/-- The canonical id of a partitioned vertex is the first one with its count. -/
theorem canonical_of_partitioned
    (partitioned : VertexId.kind id = .partitioned) :
    layout.canonical id = layout.partitioned (layout.count id) 0 :=
  if_pos (decide_eq_true partitioned)

/-- A vertex that is not partitioned stands for itself. -/
theorem canonical_of_whole (whole : VertexId.kind id ≠ .partitioned) :
    layout.canonical id = id :=
  if_neg fun partitioned => whole (of_decide_eq_true partitioned)

/-- The canonical id tells the count of the vertex. -/
theorem count_canonical (natural : 0 ≤ id) :
    layout.count (layout.canonical id) = layout.count id := by
  by_cases partitioned : VertexId.kind id = .partitioned
  · rw [canonical_of_partitioned partitioned, IdLayout.partitioned]
    apply UInt64.toNat_inj.1
    rw [toNat_count_compose, Nat.mod_eq_of_lt (toNat_count_lt natural)]
  · rw [canonical_of_whole partitioned]

/-- The canonical id of a vertex is the lowest of its siblings. -/
theorem canonical_le (natural : 0 ≤ id) : layout.canonical id ≤ id := by
  by_cases partitioned : VertexId.kind id = .partitioned
  · rw [canonical_of_partitioned partitioned, IdLayout.partitioned,
      VertexId.le_iff_word_le natural_compose natural]
    have apart : VertexId.word id % 4 ≠ 3 := by
      intro unused
      rw [VertexId.kind, unused] at partitioned
      cases partitioned
    have packed := (layout.compose_parts_eq_iff id).2 ⟨natural, apart⟩
    calc VertexId.word (layout.compose (layout.count id) 0 .partitioned)
        ≤ VertexId.word (layout.compose (layout.count id)
            (layout.partition id) .partitioned) := by
          rw [word_compose, word_compose, UInt32.toNat_zero, Nat.zero_mod]
          omega
      _ = VertexId.word id := by
          rw [← partitioned, packed]
  · rw [canonical_of_whole partitioned]
    exact Int64.le_refl id

/-- Two ids have one canonical id exactly if they are equal or siblings. -/
theorem canonical_eq_canonical_iff
    (natural : 0 ≤ id)
    (naturalOther : 0 ≤ other) :
    layout.canonical id = layout.canonical other ↔
      id = other ∨
        VertexId.kind id = .partitioned ∧
          VertexId.kind other = .partitioned ∧
          layout.count id = layout.count other := by
  constructor
  · intro same
    have kinds : VertexId.kind id = VertexId.kind other := by
      rw [← kind_canonical layout id, same, kind_canonical]
    by_cases partitioned : VertexId.kind id = .partitioned
    · have counts : layout.count id = layout.count other := by
        rw [← count_canonical natural, same, count_canonical naturalOther]
      exact Or.inr ⟨partitioned, kinds ▸ partitioned, counts⟩
    · rw [canonical_of_whole partitioned,
        canonical_of_whole (kinds ▸ partitioned)] at same
      exact Or.inl same
  · rintro (rfl | ⟨partitioned, partitionedOther, counts⟩)
    · rfl
    · rw [canonical_of_partitioned partitioned,
        canonical_of_partitioned partitionedOther, counts]

/-! ## Siblings -/

section Siblings

variable {count : UInt64} {requested : UInt32}

theorem length_siblings :
    (layout.siblings count requested).length =
      max 1 (min requested.toNat layout.partitionCount) := by
  rw [siblings, List.length_map, List.length_range]

theorem mem_siblings :
    id ∈ layout.siblings count requested ↔
      ∃ index < max 1 (min requested.toNat layout.partitionCount),
        layout.partitioned count (UInt32.ofNat index) = id := by
  rw [siblings, List.mem_map]
  simp only [List.mem_range]

/-- The siblings of a vertex are told apart by their partitions. -/
theorem nodup_siblings : (layout.siblings count requested).Nodup := by
  have positive := layout.partitionCount_pos
  have bounded {index : Nat}
      (within : index ∈
        List.range (max 1 (min requested.toNat layout.partitionCount))) :
      index < layout.partitionCount := by
    rw [List.mem_range] at within
    omega
  refine List.Nodup.map_on ?_ List.nodup_range
  intro first one second two same
  exact eq_of_compose_ofNat_eq (bounded one) (bounded two) same

/-- The canonical sibling comes first. -/
theorem head?_siblings :
    (layout.siblings count requested).head? =
      some (layout.partitioned count 0) := by
  rw [siblings, List.head?_map, List.head?_range, if_neg (by omega)]
  rfl

theorem of_mem_siblings (member : id ∈ layout.siblings count requested) :
    VertexId.kind id = .partitioned ∧
      layout.canonical id = layout.partitioned count 0 := by
  obtain ⟨index, -, rfl⟩ := mem_siblings.1 member
  exact ⟨layout.kind_compose _ _ _, layout.canonical_partitioned _ _⟩

end Siblings
end IdLayout

namespace GraphStore

variable {store : GraphStore} {id : VertexId}

/-- Adding a vertex marks it, and no other one. -/
theorem isMarked_addVertex (vertex : VertexId) :
    (store.addVertex vertex).isMarked id = true ↔
      id = vertex ∨ store.isMarked id = true := by
  rw [addVertex, isMarked, ByteMap.contains, find?_row_insert]
  by_cases same : vertex = id
  · rw [if_pos ⟨same, rfl⟩]
    exact ⟨fun _ => Or.inl same.symm, fun _ => rfl⟩
  · rw [if_neg fun both => same both.1]
    exact ⟨Or.inr, fun either => either.resolve_left (Ne.symm same)⟩

/-- Adding vertices marks them, and no other ones. -/
theorem isMarked_addVertices (vertices : List VertexId) :
    (vertices.foldl addVertex store).isMarked id = true ↔
      id ∈ vertices ∨ store.isMarked id = true := by
  induction vertices generalizing store with
  | nil => simp
  | cons vertex vertices hypothesis =>
      rw [List.foldl_cons, hypothesis, isMarked_addVertex, List.mem_cons,
        or_left_comm, or_assoc]

end GraphStore

namespace IdLayout

/-- Two ids that are not negative have one canonical id exactly if they are equal or tell
the same count as ids of partitioned vertices. The canonical id is its own canonical one,
tells the kind and the count of the vertex, and is not above it. Adding a partitioned
vertex marks as many siblings as are asked for, at least one and no more than there are
partitions; these are different ids of the partitioned kind, and the first one is the
canonical id of them all. -/
theorem siblings_share_canonical_id (layout : IdLayout) :
    (∀ id other : VertexId, 0 ≤ id -> 0 ≤ other ->
      (layout.canonical id = layout.canonical other ↔
        id = other ∨
          VertexId.kind id = .partitioned ∧
            VertexId.kind other = .partitioned ∧
            layout.count id = layout.count other)) ∧
    (∀ id : VertexId, 0 ≤ id ->
      layout.canonical (layout.canonical id) = layout.canonical id ∧
      VertexId.kind (layout.canonical id) = VertexId.kind id ∧
      layout.count (layout.canonical id) = layout.count id ∧
      layout.canonical id ≤ id) ∧
    ∀ (count : UInt64) (requested : UInt32),
      let siblings := layout.siblings count requested
      siblings.length = max 1 (min requested.toNat layout.partitionCount) ∧
      siblings.Nodup ∧
      (∀ id ∈ siblings, VertexId.kind id = .partitioned ∧
        siblings.head? = some (layout.canonical id)) ∧
      ∀ store : GraphStore, store.layout = layout -> ∀ id : VertexId,
        (store.addPartitioned count requested).isMarked id = true ↔
          id ∈ siblings ∨ store.isMarked id = true := by
  refine ⟨?classes, ?representatives, ?siblings⟩
  case classes =>
    intro id other natural naturalOther
    exact canonical_eq_canonical_iff natural naturalOther
  case representatives =>
    intro id natural
    exact ⟨layout.canonical_canonical id, layout.kind_canonical id,
      count_canonical natural, canonical_le natural⟩
  case siblings =>
    intro count requested siblings
    refine ⟨length_siblings, nodup_siblings, ?_, ?_⟩
    · intro id member
      obtain ⟨partitioned, first⟩ := of_mem_siblings member
      exact ⟨partitioned, by rw [head?_siblings, first]⟩
    · rintro store rfl id
      exact GraphStore.isMarked_addVertices siblings

theorem siblings_of_seven_share_canonical_id :
    let layout := ofBits 20
    (0 ≤ layout.partitioned 7 5 ∧ 0 ≤ layout.partitioned 7 65535) ∧
    layout.canonical (layout.partitioned 7 5) =
      layout.canonical (layout.partitioned 7 65535) ∧
    layout.canonical (layout.partitioned 7 5) ≤ layout.partitioned 7 5 ∧
    layout.partitioned 7 2 ∈ layout.siblings 7 3 ∧
    (layout.siblings 7 3).head? =
      some (layout.canonical (layout.partitioned 7 2)) ∧
    ((GraphStore.empty layout).addPartitioned 7 3).isMarked
      (layout.partitioned 7 2) = true := by
  intro layout
  obtain ⟨classes, representatives, siblings⟩ :=
    siblings_share_canonical_id layout
  have natural : 0 ≤ layout.partitioned 7 5 := by decide
  have naturalOther : 0 ≤ layout.partitioned 7 65535 := by decide
  have member : layout.partitioned 7 2 ∈ layout.siblings 7 3 := by decide
  obtain ⟨-, -, first, marks⟩ := siblings 7 3
  refine ⟨⟨natural, naturalOther⟩, ?_, (representatives _ natural).2.2.2, member,
    (first _ member).2, (marks (.empty layout) rfl _).2 (Or.inl member)⟩
  exact (classes _ _ natural naturalOther).2 (Or.inr (by decide))

end IdLayout
end GraphSweep
