import GraphSweep.Fixture.Basic
import GraphSweep.Proofs.GraphStore.KeyOrder
import GraphSweep.Proofs.IdLayout
import Mathlib.Data.List.Nodup

/-!
# Pieces of a vertex

A vertex of a fixture is stored in pieces, each under an id of its own. The ids tell
the pieces of a vertex apart, and as long as the ids of a fixture fit their field they
tell which vertex a piece is of. The first piece stands for all of them.
-/

namespace GraphSweep
namespace FixtureVertex

/-- A layout has room for a vertex, which is in one piece if jobs pass over it. -/
structure Storable (layout : IdLayout) (vertex : FixtureVertex) : Prop where
  positive : 0 < vertex.partitions.toNat
  bounded : vertex.partitions.toNat ≤ layout.partitionCount
  whole : vertex.hidden = true -> vertex.partitions.toNat = 1

/-- The kind of the ids that a vertex is stored under. -/
def kind (vertex : FixtureVertex) : IdKind :=
  if vertex.hidden then .hidden
  else if 1 < vertex.partitions.toNat then .partitioned
  else .normal

/-- The id of a piece of a vertex. -/
def piece
    (layout : IdLayout)
    (vertex : FixtureVertex)
    (index : Nat) : VertexId :=
  layout.compose vertex.id (UInt32.ofNat index) vertex.kind

/-- The ids of all pieces of a vertex. -/
def pieces (layout : IdLayout) (vertex : FixtureVertex) : List VertexId :=
  (List.range vertex.partitions.toNat).map (vertex.piece layout)

variable
  {layout : IdLayout}
  {vertex other : FixtureVertex}
  {id : VertexId}

@[simp] theorem length_pieces :
    (vertex.pieces layout).length = vertex.partitions.toNat := by
  rw [pieces, List.length_map, List.length_range]

theorem mem_pieces :
    id ∈ vertex.pieces layout ↔
      ∃ index < vertex.partitions.toNat, vertex.piece layout index = id := by
  rw [pieces, List.mem_map]
  simp only [List.mem_range]

theorem piece_mem_pieces
    {index : Nat}
    (within : index < vertex.partitions.toNat) :
    vertex.piece layout index ∈ vertex.pieces layout :=
  mem_pieces.2 ⟨index, within, rfl⟩

/-- The ids of pieces are not negative. -/
theorem natural_piece (index : Nat) : 0 ≤ vertex.piece layout index :=
  VertexId.natural_of_word_lt (layout.word_compose_lt _ _ _)

theorem isHidden_piece (index : Nat) :
    VertexId.isHidden (vertex.piece layout index) = vertex.hidden := by
  rw [VertexId.isHidden, piece, IdLayout.kind_compose, kind]
  cases vertex.hidden with
  | true => rfl
  | false =>
      rw [if_neg Bool.false_ne_true]
      split <;> rfl

theorem isPartitioned_piece (index : Nat) :
    VertexId.isPartitioned (vertex.piece layout index) =
      decide (vertex.kind = .partitioned) := by
  rw [VertexId.isPartitioned, piece, IdLayout.kind_compose]

/-- A piece tells which vertex it is of. -/
theorem count_piece
    (small : vertex.id.toNat < layout.countLimit)
    (index : Nat) :
    layout.count (vertex.piece layout index) = vertex.id := by
  rw [piece, IdLayout.count_compose, Nat.mod_eq_of_lt small, UInt64.ofNat_toNat]

theorem count_of_mem_pieces
    (small : vertex.id.toNat < layout.countLimit)
    (member : id ∈ vertex.pieces layout) :
    layout.count id = vertex.id := by
  obtain ⟨index, -, rfl⟩ := mem_pieces.1 member
  exact count_piece small index

/-- Two pieces of a vertex have different ids. -/
theorem piece_injective
    (storable : vertex.Storable layout)
    {first second : Nat}
    (one : first < vertex.partitions.toNat)
    (two : second < vertex.partitions.toNat)
    (same : vertex.piece layout first = vertex.piece layout second) :
    first = second :=
  IdLayout.eq_of_compose_ofNat_eq (Nat.lt_of_lt_of_le one storable.bounded)
    (Nat.lt_of_lt_of_le two storable.bounded) same

theorem nodup_pieces (storable : vertex.Storable layout) :
    (vertex.pieces layout).Nodup := by
  refine List.Nodup.map_on ?_ List.nodup_range
  intro first one second two same
  exact piece_injective storable (List.mem_range.1 one) (List.mem_range.1 two)
    same

/-- Where a vertex is in one piece, that piece is the first. -/
theorem index_eq_zero
    (storable : vertex.Storable layout)
    (plain : vertex.kind ≠ .partitioned)
    {index : Nat}
    (within : index < vertex.partitions.toNat) :
    index = 0 := by
  have single : ¬1 < vertex.partitions.toNat := by
    intro several
    cases hidden : vertex.hidden with
    | true =>
        rw [storable.whole hidden] at several
        exact Nat.lt_irrefl 1 several
    | false => exact plain (by simp [kind, hidden, several])
  omega

/-- The first piece stands for all of them. -/
theorem canonical_piece
    (storable : vertex.Storable layout)
    {index : Nat}
    (within : index < vertex.partitions.toNat) :
    layout.canonical (vertex.piece layout index) = vertex.piece layout 0 := by
  by_cases several : vertex.kind = .partitioned
  · rw [piece, piece, several]
    exact layout.canonical_partitioned vertex.id (UInt32.ofNat index)
  · rw [IdLayout.canonical, if_neg (by simp [isPartitioned_piece, several]),
      index_eq_zero storable several within]

/-- A piece is the first one or it is a sibling. -/
theorem canonical_piece_ne
    (storable : vertex.Storable layout)
    {index : Nat}
    (within : index < vertex.partitions.toNat) :
    (VertexId.isPartitioned (vertex.piece layout index) = true ∧
        layout.canonical (vertex.piece layout index) ≠
          vertex.piece layout index) ↔
      index ≠ 0 := by
  rw [canonical_piece storable within, isPartitioned_piece, decide_eq_true_iff]
  constructor
  · rintro ⟨-, apart⟩ rfl
    exact apart rfl
  · intro later
    refine ⟨Decidable.byContradiction fun plain =>
      later (index_eq_zero storable plain within), ?_⟩
    · intro same
      exact later
        (piece_injective storable storable.positive within same).symm

end FixtureVertex
end GraphSweep
