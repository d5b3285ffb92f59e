import GraphSweep.Proofs.Measure.Values
import GraphSweep.Proofs.StateStore.MergeLaw

/-!
# Shares of the pieces of a vertex

The job that computes a measure leaves a share of it for each piece of a vertex. Merging
the siblings adds the shares up, in whatever order it takes them, so that the first piece
has what the measure comes to for the vertex, and no other id has anything.
-/

namespace GraphSweep
namespace Measure

/-- All that lets a measure be computed over the edges of a label: the fixture can be
stored, its ids and the type of the label fit, and so does what the measure comes to. -/
structure Applies
    (measure : Measure)
    (fixture : Fixture)
    (label : UInt64) : Prop where
  storable : fixture.Storable
  fits : fixture.Fits
  room : label.toNat + Relation.firstFreeType.toNat < UInt64.size
  bounded : ∀ vertex, fixture.Live vertex ->
    measure.total fixture label vertex.id < UInt64.size

/-- The query for a type is registered as it is. -/
theorem registerQueries_ofType (type : UInt64) :
    registerQueries [Slice.ofType type] = [Slice.ofType type] := by
  have other : Slice.ofType type ≠ Slice.probe := by
    intro same
    have limits : (none : Option Nat) = some 1 := congrArg Slice.limit same
    cases limits
  simp [registerQueries, other]

section Snapshot

variable
  {measure : Measure}
  {fixture : Fixture}
  {label : UInt64}
  {config : JobConfig}
  {launch : Launch}
  {vertex : FixtureVertex}
  {index : Nat}

/-- The job that computes a measure over a stored fixture gets under way. -/
abbrev Underway
    (measure : Measure)
    (fixture : Fixture)
    (label : UInt64)
    (config : JobConfig)
    (launch : Launch) : Type :=
  (measure.job fixture.layout (Relation.firstFreeType + label) config).Opening
    (Transaction.begin
      (GraphStore.ofWrites fixture.layout fixture.writes)).context launch

namespace Underway

/-- The store when the streams have been joined. -/
def store (opening : measure.Underway fixture label config launch) :
    StateStore UInt64 :=
  (opening.joined fixture.layout).progress.store

/-- The vertices that the job finds to exist are the pieces of live vertices. -/
theorem mem_live
    (opening : measure.Underway fixture label config launch)
    (applies : measure.Applies fixture label)
    {id : VertexId} :
    id ∈ opening.live ↔
      ∃ vertex, fixture.Live vertex ∧ id ∈ vertex.pieces fixture.layout := by
  rw [opening.mem_live_of_snapshot
      (Fixture.admissible_writes applies.storable),
    Fixture.marked_iff applies.storable applies.fits]
  constructor
  · rintro ⟨shown, vertex, declared, kept, piece⟩
    obtain ⟨index, -, rfl⟩ := FixtureVertex.mem_pieces.1 piece
    rw [FixtureVertex.isHidden_piece] at shown
    exact ⟨vertex, ⟨declared, kept, shown⟩, piece⟩
  · rintro ⟨vertex, live, piece⟩
    obtain ⟨index, -, rfl⟩ := FixtureVertex.mem_pieces.1 piece
    refine ⟨?_, vertex, live.declared, live.kept, piece⟩
    rw [FixtureVertex.isHidden_piece, live.shown]

/-- The join of the job succeeds, and dispatches the vertices that exist. -/
theorem joined_views
    (opening : measure.Underway fixture label config launch)
    (applies : measure.Applies fixture label) :
    (opening.joined fixture.layout).result = .ok () ∧
      (opening.joined fixture.layout).progress.account.views =
        opening.live.map opening.viewOf ∧
      opening.live.Nodup := by
  obtain ⟨failures, ascend⟩ := opening.failures_of_snapshot fun write member =>
    (Fixture.admissible_writes applies.storable write member).natural
  obtain ⟨joins, views⟩ :=
    opening.joined_of_no_failures fixture.layout ascend failures
  exact ⟨joins, views, opening.nodup_live (ascend _ List.mem_cons_self)⟩

theorem effects_eq
    (opening : measure.Underway fixture label config launch)
    (applies : measure.Applies fixture label) :
    (opening.joined fixture.layout).progress.effects =
      Effects.visitAll opening.sweep ⟨opening.start fixture.layout, 0, []⟩
        (opening.live.map opening.viewOf) := by
  obtain ⟨-, views, -⟩ := opening.joined_views applies
  rw [← views]
  exact opening.effects_joined fixture.layout

theorem layout_store
    (opening : measure.Underway fixture label config launch)
    (applies : measure.Applies fixture label) :
    opening.store.layout = fixture.layout := by
  have effects := congrArg Effects.store (opening.effects_eq applies)
  exact (congrArg StateStore.layout effects).trans
    (Effects.layout_visitAll _ _ _)

/-- No id has an entry but the pieces of live vertices. -/
theorem entry?_store_of_not_live
    (opening : measure.Underway fixture label config launch)
    (applies : measure.Applies fixture label)
    {id : VertexId}
    (dead : id ∉ opening.live) :
    opening.store.entry? id = none := by
  have store := congrArg Effects.store (opening.effects_eq applies)
  have apart : id ∉ (opening.live.map opening.viewOf).map View.id :=
    (opening.map_id_viewOf opening.live).symm ▸ dead
  exact (congrArg (StateStore.entry? · id) store).trans
    (Effects.entry?_visitAll_of_not_mem opening.sweep _ apart)

/-- Each piece of a live vertex has its share. -/
theorem entry?_store_piece
    (opening : measure.Underway fixture label config launch)
    (applies : measure.Applies fixture label)
    (live : fixture.Live vertex)
    (within : index < vertex.partitions.toNat) :
    opening.store.entry? (vertex.piece fixture.layout index) =
      some (some (UInt64.ofNat
        (measure.share fixture label vertex index))) := by
  obtain ⟨-, -, distinct⟩ := opening.joined_views applies
  have registered : Slice.ofType (Relation.firstFreeType + label) ∈
      registerQueries (measure.job fixture.layout
        (Relation.firstFreeType + label) config).queries := by
    rw [job, registerQueries_ofType]
    exact List.mem_singleton_self _
  have runs {vertex : FixtureVertex} {index : Nat}
      (live : fixture.Live vertex)
      (within : index < vertex.partitions.toNat)
      (own : OwnState UInt64) :
      opening.sweep.program
          (opening.viewOf (vertex.piece fixture.layout index)) own =
        .write (UInt64.ofNat (measure.share fixture label vertex index)) :=
    program_piece opening applies.storable applies.fits live within applies.room
      registered (applies.bounded vertex live) own
  -- What a run writes does not depend on the state that it finds.
  let state (view : View) : UInt64 :=
    (opening.sweep.program view ⟨none, .crash⟩).written.getD 0
  have states {vertex : FixtureVertex} {index : Nat}
      (live : fixture.Live vertex)
      (within : index < vertex.partitions.toNat) :
      state (opening.viewOf (vertex.piece fixture.layout index)) =
        UInt64.ofNat (measure.share fixture label vertex index) := by
    simp only [state, runs live within]
    rfl
  have writes : ∀ view ∈ opening.live.map opening.viewOf, ∀ own,
      opening.sweep.program view own = Visit.write (state view) := by
    intro view member own
    obtain ⟨id, among, rfl⟩ := List.mem_map.1 member
    obtain ⟨other, liveOther, piece⟩ := (opening.mem_live applies).1 among
    obtain ⟨position, inside, rfl⟩ := FixtureVertex.mem_pieces.1 piece
    rw [runs liveOther inside, states liveOther inside]
  have among : vertex.piece fixture.layout index ∈ opening.live :=
    (opening.mem_live applies).2
      ⟨vertex, live, FixtureVertex.piece_mem_pieces within⟩
  have entry := Effects.entry?_visitAll_of_mem opening.sweep
    ⟨opening.start fixture.layout, 0, []⟩
    ((opening.map_id_viewOf opening.live).symm ▸ distinct) writes
    (List.mem_map_of_mem among)
  rw [states live within] at entry
  exact (congrArg (StateStore.entry? ·.store _)
    (opening.effects_eq applies)).trans entry

/-- The siblings to merge are the pieces of live vertices but for the first ones. -/
theorem mem_siblings
    (opening : measure.Underway fixture label config launch)
    (applies : measure.Applies fixture label)
    {id : VertexId} :
    id ∈ opening.store.siblings ↔
      ∃ vertex, fixture.Live vertex ∧ ∃ index < vertex.partitions.toNat,
        index ≠ 0 ∧ vertex.piece fixture.layout index = id := by
  rw [StateStore.mem_siblings, opening.layout_store applies]
  constructor
  · rintro ⟨present, sibling⟩
    have living : id ∈ opening.live := Decidable.byContradiction fun dead => by
      rw [opening.entry?_store_of_not_live applies dead] at present
      cases present
    obtain ⟨vertex, live, piece⟩ := (opening.mem_live applies).1 living
    obtain ⟨index, within, rfl⟩ := FixtureVertex.mem_pieces.1 piece
    have storable := applies.storable.vertices vertex live.declared
    exact ⟨vertex, live, index, within,
      (FixtureVertex.canonical_piece_ne storable within).1 sibling, rfl⟩
  · rintro ⟨vertex, live, index, within, later, rfl⟩
    have storable := applies.storable.vertices vertex live.declared
    refine ⟨?_, (FixtureVertex.canonical_piece_ne storable within).2 later⟩
    rw [opening.entry?_store_piece applies live within]
    rfl

/-- The first piece of a vertex is not merged into another one. -/
theorem first_not_mem_siblings
    (opening : measure.Underway fixture label config launch)
    (applies : measure.Applies fixture label)
    (live : fixture.Live vertex) :
    vertex.piece fixture.layout 0 ∉ opening.store.siblings := by
  have storable := applies.storable.vertices vertex live.declared
  intro member
  have apart := ((opening.store.mem_siblings _).1 member).2.2
  rw [opening.layout_store applies,
    FixtureVertex.canonical_piece storable storable.positive] at apart
  exact apart rfl

/-- A live vertex is in pieces: the first one, and the siblings that are merged into
it. -/
theorem pieces_perm
    (opening : measure.Underway fixture label config launch)
    (applies : measure.Applies fixture label)
    (live : fixture.Live vertex)
    {order : List VertexId}
    (every : order.Perm opening.store.siblings) :
    (vertex.piece fixture.layout 0 :: order.filter fun sibling =>
        opening.store.layout.canonical sibling =
          vertex.piece fixture.layout 0).Perm
      (vertex.pieces fixture.layout) := by
  have storable := applies.storable.vertices vertex live.declared
  have distinct : order.Nodup :=
    every.nodup_iff.2 opening.store.nodup_siblings
  have fresh : vertex.piece fixture.layout 0 ∉ order := fun member =>
    opening.first_not_mem_siblings applies live (every.mem_iff.1 member)
  rw [List.perm_ext_iff_of_nodup
    (List.nodup_cons.2 ⟨fun member => fresh (List.mem_filter.1 member).1,
      distinct.filter _⟩) (FixtureVertex.nodup_pieces storable)]
  intro id
  rw [List.mem_cons, List.mem_filter, decide_eq_true_iff, every.mem_iff,
    opening.mem_siblings applies, opening.layout_store applies,
    FixtureVertex.mem_pieces]
  constructor
  · rintro (rfl | ⟨⟨other, liveOther, index, within, -, rfl⟩, first⟩)
    · exact ⟨0, storable.positive, rfl⟩
    · have room := applies.storable.vertices other liveOther.declared
      rw [FixtureVertex.canonical_piece room within] at first
      have same : other = vertex :=
        Fixture.eq_of_mem_pieces applies.storable applies.fits
          liveOther.declared live.declared
          (FixtureVertex.piece_mem_pieces room.positive)
          (first ▸ FixtureVertex.piece_mem_pieces storable.positive)
      exact ⟨index, same ▸ within, by rw [same]⟩
  · rintro ⟨index, within, rfl⟩
    by_cases later : index = 0
    · exact Or.inl (later ▸ rfl)
    · exact Or.inr ⟨⟨vertex, live, index, within, later, rfl⟩,
        FixtureVertex.canonical_piece storable within⟩

/-- Merging the siblings of a live vertex adds its shares up. -/
theorem siblingFold_piece
    (opening : measure.Underway fixture label config launch)
    (applies : measure.Applies fixture label)
    (live : fixture.Live vertex)
    {order : List VertexId}
    (every : order.Perm opening.store.siblings) :
    opening.store.siblingFold order (vertex.piece fixture.layout 0) =
      some (some (some
        (UInt64.ofNat (measure.total fixture label vertex.id)))) := by
  have storable := applies.storable.vertices vertex live.declared
  have bounded := applies.bounded vertex live
  let shares := (List.range vertex.partitions.toNat).map fun index =>
    UInt64.ofNat (measure.share fixture label vertex index)
  have held {index : Nat} (within : index < vertex.partitions.toNat) :=
    opening.entry?_store_piece applies live within
  have sum : (shares.map UInt64.toNat).sum =
      measure.total fixture label vertex.id := by
    have each : shares.map UInt64.toNat =
        (List.range vertex.partitions.toNat).map
          (measure.share fixture label vertex) := by
      rw [List.map_map]
      refine List.map_congr_left fun index _ => ?_
      exact UInt64.toNat_ofNat_of_lt'
        (Nat.lt_of_le_of_lt share_le_total bounded)
    rw [each, ← sum_share storable.positive]
    rfl
  have entries : ((opening.store.entry?
      (vertex.piece fixture.layout 0)).toList ++
      opening.store.siblingEntries order
        (vertex.piece fixture.layout 0)).Perm (shares.map some) := by
    have perm := (opening.pieces_perm applies live every).filterMap
      opening.store.entry?
    rw [List.filterMap_cons, held storable.positive] at perm
    rw [held storable.positive]
    refine perm.trans (List.Perm.of_eq ?_)
    rw [FixtureVertex.pieces, List.filterMap_map, List.map_map,
      ← List.filterMap_eq_map]
    exact List.filterMap_congr fun index member =>
      held (List.mem_range.1 member)
  have filled : shares ≠ [] := by
    rw [ne_eq, List.map_eq_nil_iff, List.range_eq_nil]
    exact Nat.ne_of_gt storable.positive
  rw [StateStore.siblingFold_of_fits entries filled (sum ▸ bounded), sum]

/-- Merging the siblings gets through, in whatever order they come. -/
theorem mergesFreely
    (opening : measure.Underway fixture label config launch)
    (applies : measure.Applies fixture label) :
    opening.MergesFreely fixture.layout := by
  intro _ _ order every
  refine StateStore.through_of_folds every fun sibling member => ?_
  obtain ⟨vertex, live, index, within, -, rfl⟩ :=
    (opening.mem_siblings applies).1 (every.mem_iff.1 member)
  have canonical := (congrArg (IdLayout.canonical · _)
    (opening.layout_store applies)).trans (FixtureVertex.canonical_piece
      (applies.storable.vertices vertex live.declared) within)
  have folds := opening.siblingFold_piece applies live every
  rw [← canonical] at folds
  rw [Option.isSome_iff_exists]
  exact ⟨_, folds⟩

/-- There are no siblings to merge unless a partitioned vertex has been seen. -/
theorem siblings_of_whole
    (opening : measure.Underway fixture label config launch)
    (applies : measure.Applies fixture label)
    (whole : (opening.joined fixture.layout).progress.tally.sawPartitioned =
      false) :
    opening.store.siblings = [] := by
  obtain ⟨joins, views, -⟩ := opening.joined_views applies
  have seen := (opening.covers_joined fixture.layout joins).partitioned
  rw [List.eq_nil_iff_forall_not_mem]
  intro id member
  have partitioned := ((opening.store.mem_siblings id).1 member).2.1
  obtain ⟨vertex, live, index, within, -, rfl⟩ :=
    (opening.mem_siblings applies).1 member
  have among : vertex.piece fixture.layout index ∈ opening.live :=
    (opening.mem_live applies).2
      ⟨vertex, live, FixtureVertex.piece_mem_pieces within⟩
  have dispatched : opening.viewOf (vertex.piece fixture.layout index) ∈
      (opening.joined fixture.layout).progress.account.views := by
    rw [views]
    exact List.mem_map_of_mem among
  have sighted : (opening.joined
      fixture.layout).progress.account.views.any View.isPartitioned = true :=
    List.any_eq_true.2 ⟨_, dispatched, partitioned⟩
  rw [← seen] at sighted
  exact Bool.false_ne_true (whole.symm.trans sighted)

/-- What the job leaves of an id: nothing of a sibling, and what its siblings come to of
any other. -/
theorem entry?_sequential
    (opening : measure.Underway fixture label config launch)
    (applies : measure.Applies fixture label)
    (id : VertexId) :
    (opening.sequential fixture.layout).store.entry? id =
      if id ∈ opening.store.siblings then none
      else (opening.store.siblingFold opening.store.siblings id).join := by
  obtain ⟨joins, -⟩ := opening.joined_views applies
  obtain ⟨-, -, ends⟩ := opening.sequential_of_ok fixture.layout
    (opening.mergesFreely applies) joins rfl
  have stored : (opening.joined fixture.layout).progress.store =
      opening.store := rfl
  rw [ends, stored]
  cases partitioned :
      (opening.joined fixture.layout).progress.tally.sawPartitioned with
  | true =>
      have every := List.Perm.refl opening.store.siblings
      have through : (opening.store.absorbAll opening.store.siblings).2 = true :=
        opening.mergesFreely applies joins partitioned _ every
      rw [if_pos rfl, StateStore.mergeSiblings_eq_mergeInOrder,
        StateStore.mergeInOrder_of_through through]
      exact StateStore.entry?_absorbAll (StateStore.absorbable_of_perm every)
        through id
  | false =>
      rw [if_neg Bool.false_ne_true, opening.siblings_of_whole applies partitioned,
        if_neg List.not_mem_nil]
      rfl

/-- The job leaves the first piece of each live vertex what the measure comes to for it,
and nothing else. -/
theorem entry?_sequential_eq_some
    (opening : measure.Underway fixture label config launch)
    (applies : measure.Applies fixture label)
    {id : VertexId}
    {value : Option UInt64} :
    (opening.sequential fixture.layout).store.entry? id = some value ↔
      ∃ vertex, fixture.Live vertex ∧ vertex.piece fixture.layout 0 = id ∧
        value =
          some (UInt64.ofNat (measure.total fixture label vertex.id)) := by
  have every := List.Perm.refl opening.store.siblings
  have first {vertex : FixtureVertex} (live : fixture.Live vertex) :
      (opening.sequential fixture.layout).store.entry?
          (vertex.piece fixture.layout 0) =
        some (some
          (UInt64.ofNat (measure.total fixture label vertex.id))) := by
    rw [opening.entry?_sequential applies,
      if_neg (opening.first_not_mem_siblings applies live),
      opening.siblingFold_piece applies live every]
    rfl
  constructor
  · intro found
    by_cases living : ∃ vertex, fixture.Live vertex ∧
        vertex.piece fixture.layout 0 = id
    · obtain ⟨vertex, live, rfl⟩ := living
      rw [first live] at found
      exact ⟨vertex, live, rfl, (Option.some.inj found).symm⟩
    · rw [opening.entry?_sequential applies] at found
      split at found
      · cases found
      · next whole =>
        have unclaimed : ∀ sibling ∈ opening.store.siblings,
            opening.store.layout.canonical sibling ≠ id := by
          intro sibling member same
          obtain ⟨vertex, live, index, within, -, rfl⟩ :=
            (opening.mem_siblings applies).1 member
          have storable := applies.storable.vertices vertex live.declared
          rw [opening.layout_store applies,
            FixtureVertex.canonical_piece storable within] at same
          exact living ⟨vertex, live, same⟩
        have dead : id ∉ opening.live := by
          intro among
          obtain ⟨vertex, live, piece⟩ := (opening.mem_live applies).1 among
          obtain ⟨index, within, rfl⟩ := FixtureVertex.mem_pieces.1 piece
          by_cases later : index = 0
          · exact living ⟨vertex, live, later ▸ rfl⟩
          · exact whole ((opening.mem_siblings applies).2
              ⟨vertex, live, index, within, later, rfl⟩)
        rw [StateStore.siblingFold_of_unclaimed unclaimed,
          opening.entry?_store_of_not_live applies dead] at found
        cases found
  · rintro ⟨vertex, live, rfl, rfl⟩
    exact first live

end Underway

end Snapshot
end Measure
end GraphSweep
