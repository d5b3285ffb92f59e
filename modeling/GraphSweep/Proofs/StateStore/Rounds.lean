import GraphSweep.Proofs.StateStore.Answers
import GraphSweep.Proofs.StateStore.Sums

/-!
# Stores that sum up rounds

In each round every live vertex adds a weight to its state, and then siblings are
merged. Between two rounds a store holds one number for each canonical vertex of a
live one: the weights of its live siblings, as often as there were rounds. In a round,
the canonical vertex goes on from there if it is live itself, and its siblings start
from nothing, so that nothing is counted twice.
-/

namespace GraphSweep

/-- What a vertex comes to in one round: the weights of those of its siblings that are
live. -/
def share
    (layout : IdLayout)
    (weight : VertexId -> UInt64)
    (live : List VertexId)
    (id : VertexId) : Nat :=
  ((live.filter fun piece =>
    layout.canonical piece = layout.canonical id).map fun piece =>
      (weight piece).toNat).sum

section Share

variable
  {layout : IdLayout}
  {weight : VertexId -> UInt64}
  {live : List VertexId}
  {id other : VertexId}

/-- Siblings come to the same. -/
theorem share_congr (kin : layout.canonical id = layout.canonical other) :
    share layout weight live id = share layout weight live other := by
  rw [share, share, kin]

/-- It makes no difference in which order the live vertices are listed. -/
theorem share_perm
    {others : List VertexId}
    (perm : live.Perm others) :
    share layout weight live id = share layout weight others id :=
  ((perm.filter _).map _).sum_eq

/-- A live vertex comes to no less than its own weight. -/
theorem weight_le_share
    (layout : IdLayout)
    (weight : VertexId -> UInt64)
    (member : id ∈ live) :
    (weight id).toNat ≤ share layout weight live id :=
  List.le_sum_of_mem (List.mem_map_of_mem
    (List.mem_filter.2 ⟨member, decide_eq_true rfl⟩))

/-- A vertex that is not partitioned comes to its own weight. -/
theorem share_of_whole
    (distinct : live.Nodup)
    (member : id ∈ live)
    (whole : VertexId.isPartitioned id = false) :
    share layout weight live id = (weight id).toNat := by
  have canonical : layout.canonical id = id := if_neg (by simp [whole])
  have alone : (live.filter fun piece =>
      layout.canonical piece = layout.canonical id).Perm [id] := by
    rw [List.perm_ext_iff_of_nodup (distinct.filter _) (List.nodup_singleton id)]
    intro piece
    rw [List.mem_filter, decide_eq_true_iff, List.mem_singleton, canonical]
    constructor
    · rintro ⟨-, same⟩
      rw [← same, IdLayout.isPartitioned_canonical] at whole
      rw [← same]
      exact (if_neg (by simp [whole])).symm
    · rintro rfl
      exact ⟨member, canonical⟩
  have sum := (alone.map fun piece => (weight piece).toNat).sum_eq
  rw [List.map_singleton, List.sum_singleton] at sum
  exact sum

end Share

namespace StateStore

/-- The number that a vertex goes on from after some rounds, if it is live. -/
def carried
    (layout : IdLayout)
    (weight : VertexId -> UInt64)
    (live : List VertexId)
    (count : Nat)
    (id : VertexId) : Nat :=
  if layout.canonical id = id then count * share layout weight live id else 0

/-- A store holds what some rounds come to, and nothing else. -/
structure Holds
    (layout : IdLayout)
    (weight : VertexId -> UInt64)
    (live : List VertexId)
    (count : Nat)
    (store : StateStore UInt64) : Prop where
  same : store.layout = layout
  entry : ∀ id, store.entry? id =
    if 0 < count ∧ id ∈ live.map layout.canonical then
      some (some (UInt64.ofNat (count * share layout weight live id)))
    else none

/-- A store holds what some rounds come to, and each live vertex has been given its
weight once more. -/
structure Raised
    (layout : IdLayout)
    (weight : VertexId -> UInt64)
    (live : List VertexId)
    (count : Nat)
    (store : StateStore UInt64) : Prop where
  same : store.layout = layout
  given : ∀ id ∈ live, store.entry? id = some (some (UInt64.ofNat
    (carried layout weight live count id + (weight id).toNat)))
  kept : ∀ id ∉ live, store.entry? id =
    if 0 < count ∧ id ∈ live.map layout.canonical then
      some (some (UInt64.ofNat (count * share layout weight live id)))
    else none

section Rounds

variable
  {layout : IdLayout}
  {weight : VertexId -> UInt64}
  {live : List VertexId}
  {count : Nat}
  {store after : StateStore UInt64}
  {order : List VertexId}
  {id : VertexId}

/-- The empty store holds what no rounds come to. -/
theorem holds_empty : (empty layout).Holds layout weight live 0 := by
  refine ⟨rfl, fun id => ?_⟩
  rw [if_neg fun held => Nat.lt_irrefl 0 held.1]
  rfl

/-- A canonical vertex of a live one is canonical. -/
theorem canonical_of_mem (claimed : id ∈ live.map layout.canonical) :
    layout.canonical id = id := by
  obtain ⟨piece, -, rfl⟩ := List.mem_map.1 claimed
  exact layout.canonical_canonical piece

/-- A live vertex finds what is carried over to it. -/
theorem Holds.own
    (holds : store.Holds layout weight live count)
    (member : id ∈ live) :
    (store.own (.state 0) id).current? =
      some (UInt64.ofNat (carried layout weight live count id)) := by
  rw [StateStore.own, own?, holds.entry, carried]
  by_cases canonical : layout.canonical id = id
  · have claimed : id ∈ live.map layout.canonical :=
      List.mem_map.2 ⟨id, member, canonical⟩
    by_cases positive : 0 < count
    · rw [if_pos ⟨positive, claimed⟩, if_pos canonical]
      rfl
    · have none : count = 0 := Nat.eq_zero_of_not_pos positive
      rw [if_neg fun held => positive held.1, if_pos canonical, none,
        Nat.zero_mul]
      rfl
  · rw [if_neg fun held => canonical (canonical_of_mem held.2),
      if_neg canonical]
    rfl

/-- A vertex that is given its weight has no more than its siblings come to. -/
theorem carried_add_weight_le
    (layout : IdLayout)
    (weight : VertexId -> UInt64)
    (count : Nat)
    (member : id ∈ live) :
    carried layout weight live count id + (weight id).toNat ≤
      (count + 1) * share layout weight live id := by
  have weighs := weight_le_share layout weight member
  rw [carried, Nat.add_mul, Nat.one_mul]
  split <;> omega

namespace Raised

/-- The siblings to merge are the live vertices that are not canonical. -/
theorem mem_siblings (raised : store.Raised layout weight live count) :
    id ∈ store.siblings ↔ id ∈ live ∧ layout.canonical id ≠ id := by
  rw [StateStore.mem_siblings, raised.same]
  constructor
  · rintro ⟨present, -, apart⟩
    refine ⟨Decidable.byContradiction fun dead => ?_, apart⟩
    rw [raised.kept id dead, if_neg fun held =>
      apart (canonical_of_mem held.2)] at present
    cases present
  · rintro ⟨member, apart⟩
    refine ⟨?_, IdLayout.isPartitioned_of_canonical_ne apart, apart⟩
    rw [raised.given id member]
    rfl

/-- What is merged into a canonical vertex are the weights of its live siblings. -/
theorem siblingEntries_eq
    (raised : store.Raised layout weight live count)
    (every : order.Perm store.siblings)
    (id : VertexId) :
    store.siblingEntries order id =
      ((order.filter fun sibling =>
        layout.canonical sibling = id).map weight).map some := by
  rw [siblingEntries, raised.same, List.map_map, ← List.filterMap_eq_map]
  apply List.filterMap_congr
  intro sibling member
  obtain ⟨among, apart⟩ := raised.mem_siblings.1
    (every.mem_iff.1 (List.mem_filter.1 member).1)
  rw [raised.given sibling among, carried, if_neg apart, Nat.zero_add,
    UInt64.ofNat_toNat]
  rfl

/-- The live siblings of a canonical vertex are those that are merged into it, and the
vertex itself if it is live. -/
theorem pieces_perm
    (raised : store.Raised layout weight live count)
    (distinct : live.Nodup)
    (every : order.Perm store.siblings)
    (canonical : layout.canonical id = id) :
    (live.filter fun piece => layout.canonical piece = id).Perm
      ((if id ∈ live then [id] else []) ++
        order.filter fun sibling => layout.canonical sibling = id) := by
  have among (piece : VertexId) :
      (piece ∈ order.filter fun sibling => layout.canonical sibling = id) ↔
        piece ∈ live ∧ layout.canonical piece = id ∧ piece ≠ id := by
    rw [List.mem_filter, decide_eq_true_iff, every.mem_iff, raised.mem_siblings,
      and_assoc]
    refine and_congr_right fun _ => ?_
    constructor
    · rintro ⟨apart, rfl⟩
      exact ⟨rfl, Ne.symm apart⟩
    · rintro ⟨rfl, apart⟩
      exact ⟨Ne.symm apart, rfl⟩
  have distinctOrder : order.Nodup := every.nodup_iff.2 store.nodup_siblings
  have fresh : id ∉ order.filter fun sibling =>
      layout.canonical sibling = id := by
    rw [among]
    exact fun member => member.2.2 rfl
  by_cases member : id ∈ live
  · rw [if_pos member, List.singleton_append,
      List.perm_ext_iff_of_nodup (distinct.filter _)
        (List.nodup_cons.2 ⟨fresh, distinctOrder.filter _⟩)]
    intro piece
    rw [List.mem_cons, among, List.mem_filter, decide_eq_true_iff]
    by_cases same : piece = id
    · simp [same, member, canonical]
    · simp [same]
  · rw [if_neg member, List.nil_append,
      List.perm_ext_iff_of_nodup (distinct.filter _) (distinctOrder.filter _)]
    intro piece
    rw [among, List.mem_filter, decide_eq_true_iff]
    refine and_congr_right fun living => ?_
    exact ⟨fun same => ⟨same, fun equal => member (equal ▸ living)⟩, And.left⟩

/-- The entry of a canonical vertex holds what is carried over, and its own weight if
it is live. -/
theorem exists_own
    (raised : store.Raised layout weight live count)
    (claimed : id ∈ live.map layout.canonical)
    (fits : (count + 1) * share layout weight live id < UInt64.size) :
    ∃ own : List UInt64,
      (store.entry? id).toList = own.map some ∧
      (own.map UInt64.toNat).sum = count * share layout weight live id +
        ((if id ∈ live then [id] else []).map fun piece =>
          (weight piece).toNat).sum ∧
      (own = [] -> id ∉ live) := by
  have canonical := canonical_of_mem claimed
  by_cases member : id ∈ live
  · have bounded := Nat.lt_of_le_of_lt
      (carried_add_weight_le layout weight count member) fits
    refine ⟨[_], congrArg Option.toList (raised.given id member), ?_, ?_⟩
    · rw [List.map_singleton, List.sum_singleton,
        UInt64.toNat_ofNat_of_lt' bounded, carried, if_pos canonical,
        if_pos member, List.map_singleton, List.sum_singleton]
    · exact fun empty => absurd empty (List.cons_ne_nil _ _)
  · rw [raised.kept id member, if_neg member]
    by_cases positive : 0 < count
    · have bounded : count * share layout weight live id < UInt64.size :=
        Nat.lt_of_le_of_lt (Nat.mul_le_mul_right _ (Nat.le_succ count)) fits
      rw [if_pos ⟨positive, claimed⟩]
      refine ⟨[_], rfl, ?_, fun _ => member⟩
      rw [List.map_singleton, List.sum_singleton,
        UInt64.toNat_ofNat_of_lt' bounded]
      rfl
    · rw [if_neg fun held => positive held.1,
        Nat.eq_zero_of_not_pos positive, Nat.zero_mul]
      exact ⟨[], rfl, rfl, fun _ => member⟩

/-- The siblings of a live vertex come to one round more. -/
theorem siblingFold_eq
    (raised : store.Raised layout weight live count)
    (distinct : live.Nodup)
    (every : order.Perm store.siblings)
    (claimed : id ∈ live.map layout.canonical)
    (fits : (count + 1) * share layout weight live id < UInt64.size) :
    store.siblingFold order id = some (some (some
      (UInt64.ofNat ((count + 1) * share layout weight live id)))) := by
  have canonical := canonical_of_mem claimed
  have pieces := raised.pieces_perm distinct every canonical
  obtain ⟨own, held, carries, missing⟩ := raised.exists_own claimed fits
  have entries : (store.entry? id).toList ++ store.siblingEntries order id =
      (own ++ (order.filter fun sibling =>
        layout.canonical sibling = id).map weight).map some := by
    rw [held, raised.siblingEntries_eq every, List.map_append]
  have sum : ((own ++ (order.filter fun sibling =>
      layout.canonical sibling = id).map weight).map UInt64.toNat).sum =
        (count + 1) * share layout weight live id := by
    have added := (pieces.map fun piece => (weight piece).toNat).sum_eq
    have once : share layout weight live id =
        ((live.filter fun piece => layout.canonical piece = id).map fun piece =>
          (weight piece).toNat).sum := by
      rw [share, canonical]
    rw [← once, List.map_append, List.sum_append] at added
    rw [List.map_append, List.sum_append, carries, List.map_map, Nat.add_assoc,
      Nat.add_mul, Nat.one_mul]
    exact congrArg _ added.symm
  have filled : own ++ (order.filter fun sibling =>
      layout.canonical sibling = id).map weight ≠ [] := by
    intro empty
    obtain ⟨first, second⟩ := List.append_eq_nil_iff.1 empty
    rw [if_neg (missing first), List.map_eq_nil_iff.1 second] at pieces
    obtain ⟨piece, living, same⟩ := List.mem_map.1 claimed
    have among := pieces.mem_iff.1
      (List.mem_filter.2 ⟨living, decide_eq_true same⟩)
    exact List.not_mem_nil among
  rw [siblingFold_of_fits (List.Perm.of_eq entries) filled (sum ▸ fits), sum]

/-- All other vertices but the siblings to merge come to nothing. -/
theorem siblingFold_of_not_mem
    (raised : store.Raised layout weight live count)
    (every : order.Perm store.siblings)
    (unclaimed : id ∉ live.map layout.canonical)
    (apart : id ∉ order) :
    store.siblingFold order id = some none := by
  have alone : ∀ sibling ∈ order, store.layout.canonical sibling ≠ id := by
    intro sibling among same
    have living := (raised.mem_siblings.1 (every.mem_iff.1 among)).1
    rw [raised.same] at same
    exact unclaimed (List.mem_map.2 ⟨sibling, living, same⟩)
  have dead : id ∉ live := by
    intro living
    by_cases canonical : layout.canonical id = id
    · exact unclaimed (List.mem_map.2 ⟨id, living, canonical⟩)
    · exact apart (every.mem_iff.2 (raised.mem_siblings.2 ⟨living, canonical⟩))
  rw [siblingFold_of_unclaimed alone, raised.kept id dead,
    if_neg fun held => unclaimed held.2]

/-- Merging the siblings gets through, in whatever order they come. -/
theorem mergesFreely
    (raised : store.Raised layout weight live count)
    (distinct : live.Nodup)
    (fits : ∀ id ∈ live,
      (count + 1) * share layout weight live id < UInt64.size) :
    store.MergesFreely := by
  intro order every
  refine through_of_folds every fun sibling member => ?_
  obtain ⟨living, -⟩ := raised.mem_siblings.1 (every.mem_iff.1 member)
  have claimed : layout.canonical sibling ∈ live.map layout.canonical :=
    List.mem_map_of_mem living
  have bounded := fits sibling living
  rw [← share_congr (layout.canonical_canonical sibling)] at bounded
  rw [raised.same, raised.siblingFold_eq distinct every claimed bounded]
  rfl

/-- Once the siblings have been merged, the store holds what one round more comes
to. -/
theorem holds
    {merges : Bool}
    (raised : store.Raised layout weight live count)
    (distinct : live.Nodup)
    (fits : ∀ id ∈ live,
      (count + 1) * share layout weight live id < UInt64.size)
    (gathers : store.Gathers merges order after)
    (seen : merges = live.any VertexId.isPartitioned) :
    after.Holds layout weight live (count + 1) := by
  have alone : merges = false -> store.siblings = [] := by
    rintro rfl
    rw [List.eq_nil_iff_forall_not_mem]
    intro id member
    obtain ⟨living, apart⟩ := raised.mem_siblings.1 member
    rw [eq_comm, List.any_eq_false] at seen
    exact seen id living (IdLayout.isPartitioned_of_canonical_ne apart)
  refine ⟨gathers.layout.trans raised.same, fun id => ?_⟩
  rw [gathers.entry? alone]
  by_cases claimed : id ∈ live.map layout.canonical
  · have apart : id ∉ order := fun member =>
      (raised.mem_siblings.1 (gathers.every.mem_iff.1 member)).2
        (canonical_of_mem claimed)
    obtain ⟨piece, living, rfl⟩ := List.mem_map.1 claimed
    have bounded := fits piece living
    rw [← share_congr (layout.canonical_canonical piece)] at bounded
    rw [if_neg apart, if_pos ⟨Nat.succ_pos count, claimed⟩,
      raised.siblingFold_eq distinct gathers.every claimed bounded,
      Option.join_some]
  · by_cases member : id ∈ order
    · rw [if_pos member, if_neg fun held => claimed held.2]
    · rw [if_neg member, raised.siblingFold_of_not_mem gathers.every claimed
        member, if_neg fun held => claimed held.2, Option.join_some]

end Raised

/-- Every sibling of a live vertex is read as what the rounds come to. -/
theorem Holds.get
    {other : VertexId}
    (holds : store.Holds layout weight live count)
    (positive : 0 < count)
    (merged : store.merged = live.any VertexId.isPartitioned)
    (member : id ∈ live)
    (kin : layout.canonical other = layout.canonical id) :
    store.get other =
      some (UInt64.ofNat (count * share layout weight live id)) := by
  have resolves : store.resolve other = layout.canonical id := by
    rw [resolve, merged, holds.same]
    by_cases partitioned : VertexId.isPartitioned id
    · rw [if_pos (List.any_eq_true.2 ⟨id, member, partitioned⟩), kin]
    · have whole : VertexId.isPartitioned other = false := by
        rw [← layout.isPartitioned_canonical, kin,
          layout.isPartitioned_canonical]
        simpa using partitioned
      have canonical : layout.canonical other = other := if_neg (by simp [whole])
      rw [← kin, canonical, ite_self]
  have claimed : layout.canonical id ∈ live.map layout.canonical :=
    List.mem_map_of_mem member
  rw [StateStore.get, resolves, holds.entry, if_pos ⟨positive, claimed⟩,
    share_congr (layout.canonical_canonical id), Option.join_some]

end Rounds

end StateStore
end GraphSweep
