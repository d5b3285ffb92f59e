import GraphSweep.Proofs.Join.Ledger

/-!
# Orphans of ascending lanes

Where the items of a lane ascend, the orphans among those taken from it have a closed
form: they are the items of vertices before the last one met that are none of those met,
and one more if the lane has been taken past the last one without finding it. What lies
further behind has not been taken.
-/

namespace GraphSweep

namespace Item

/-- The number of items that no vertex claims when a lane is advanced to some vertices,
one after another. -/
def unclaimed (ids : List VertexId) (items : List Item) : Nat :=
  match ids.getLast? with
  | none => 0
  | some last =>
      (items.countP fun item => item.id < last ∧ item.id ∉ ids) +
        if (∃ item ∈ items, last < item.id) ∧ ∀ item ∈ items, item.id ≠ last
          then 1 else 0

section Unclaimed

variable {items : List Item} {id last : VertexId} {ids : List VertexId}

/-- Of the items before the last vertex, those before the first are unclaimed, and
behind it those that are so for the other vertices. -/
theorem countP_cons
    (later : ∀ other ∈ ids, id < other)
    (final : last ∈ ids) :
    (items.countP fun item => item.id < last ∧ item.id ∉ id :: ids) =
      (items.countP fun item => item.id < id) +
        (after items id).countP fun item => item.id < last ∧ item.id ∉ ids := by
  have behind := later last final
  rw [after, List.countP_filter]
  induction items with
  | nil => rfl
  | cons item rest hypothesis =>
      rw [List.countP_cons, List.countP_cons, List.countP_cons, hypothesis]
      by_cases earlier : item.id < id
      · have unmet : item.id ∉ id :: ids := by
          intro met
          rcases List.mem_cons.1 met with same | among
          · exact Int64.ne_of_lt earlier same
          · exact Int64.lt_asymm earlier (later item.id among)
        have before : item.id < last := Int64.lt_trans earlier behind
        have reached : ¬id < item.id := Int64.lt_asymm earlier
        simp only [earlier, unmet, before, reached, decide_true, decide_false,
          not_false_eq_true, and_self, Bool.and_false, if_true,
          Bool.false_eq_true, if_false]
        omega
      · by_cases same : item.id = id
        · simp [same]
        · have met : item.id ∈ id :: ids ↔ item.id ∈ ids := by simp [same]
          have beyond : id < item.id :=
            Int64.lt_of_le_of_ne (Int64.not_lt.1 earlier) (Ne.symm same)
          simp only [earlier, met, beyond, decide_true, decide_false,
            Bool.and_true, Bool.false_eq_true, if_false]
          omega

/-- The vertex met first leaves the items before it unclaimed, and of those behind it
the ones that the other vertices leave so. -/
theorem unclaimed_cons
    (later : ∀ other ∈ ids, id < other)
    (more : ids ≠ []) :
    unclaimed (id :: ids) items =
      (items.countP fun item => item.id < id) +
        unclaimed ids (after items id) := by
  obtain ⟨last, final⟩ := List.getLast?_isSome.2 more |> Option.isSome_iff_exists.1
  have among := List.mem_of_getLast? final
  have behind := later last among
  have finalAll : (id :: ids).getLast? = some last := by
    rw [List.getLast?_cons, final]
    rfl
  have beyond : (∃ item ∈ after items id, last < item.id) ↔
      ∃ item ∈ items, last < item.id := by
    constructor
    · rintro ⟨item, member, further⟩
      exact ⟨item, List.mem_of_mem_filter member, further⟩
    · rintro ⟨item, member, further⟩
      refine ⟨item, List.mem_filter.2 ⟨member, ?_⟩, further⟩
      exact decide_eq_true (Int64.lt_trans behind further)
  have missed : (∀ item ∈ after items id, item.id ≠ last) ↔
      ∀ item ∈ items, item.id ≠ last := by
    constructor
    · intro other item member same
      refine other item (List.mem_filter.2 ⟨member, ?_⟩) same
      exact decide_eq_true (same ▸ behind)
    · intro other item member
      exact other item (List.mem_of_mem_filter member)
  simp only [unclaimed, final, finalAll, beyond, missed]
  rw [countP_cons later among, Nat.add_assoc]

/-- A single vertex leaves the items before it unclaimed. -/
theorem unclaimed_singleton :
    unclaimed [id] items =
      (items.countP fun item => item.id < id) +
        if (∃ item ∈ items, id < item.id) ∧ ∀ item ∈ items, item.id ≠ id
          then 1 else 0 := by
  have before : (fun item : Item =>
      decide (item.id < id ∧ item.id ∉ [id])) =
        fun item => decide (item.id < id) := by
    funext item
    by_cases earlier : item.id < id
    · simp [earlier, Int64.ne_of_lt earlier]
    · simp [earlier]
  rw [unclaimed, List.getLast?_singleton]
  simp only [before]

theorem unclaimed_nil (ids : List VertexId) : unclaimed ids [] = 0 := by
  rw [unclaimed]
  cases ids.getLast? with
  | none => rfl
  | some last => simp

/-- Nothing is left unclaimed of a lane that has items of the given vertices only. -/
theorem unclaimed_eq_zero
    (ascend : ids.Pairwise (· < ·))
    (among : ∀ item ∈ items, item.id ∈ ids) :
    unclaimed ids items = 0 := by
  rw [unclaimed]
  cases final : ids.getLast? with
  | none => rfl
  | some last =>
      obtain ⟨others, rfl⟩ := List.getLast?_eq_some_iff.1 final
      have between : (items.countP fun item =>
          item.id < last ∧ item.id ∉ others ++ [last]) = 0 := by
        rw [List.countP_eq_zero]
        intro item member
        simp only [among item member, not_true_eq_false, and_false,
          decide_false, Bool.false_eq_true, not_false_eq_true]
      have beyond : ¬∃ item ∈ items, last < item.id := by
        rintro ⟨item, member, further⟩
        rcases List.mem_append.1 (among item member) with other | here
        · have before := (List.pairwise_append.1 ascend).2.2 _ other last
            (List.mem_singleton_self last)
          exact Int64.lt_asymm before further
        · rw [List.mem_singleton.1 here] at further
          exact Int64.lt_irrefl further
      dsimp only
      rw [between, if_neg fun both => beyond both.1]

end Unclaimed
end Item

namespace Lane

section Ascend

variable
  {policy : FailurePolicy}
  {lane : Lane}
  {probed : Probed}
  {items : List Item}
  {found : Sought}

/-- Among ascending items, those before a vertex are orphans. -/
theorem orphans_fates (ascend : Item.Ascend items) :
    Settled.orphans (fates probed items) =
      items.countP fun item => item.id < probed.id := by
  induction items with
  | nil => rfl
  | cons item rest hypothesis =>
      rw [fates, List.countP_cons]
      by_cases earlier : item.id < probed.id
      · rw [if_pos earlier, Settled.orphans_cons_orphan,
          hypothesis (List.Pairwise.of_cons ascend), if_pos (by simpa using earlier)]
      · have none : rest.countP (fun item => item.id < probed.id) = 0 := by
          rw [List.countP_eq_zero]
          intro other member before
          have later := (List.pairwise_cons.1 ascend).1 other member
          exact earlier (Int64.lt_trans later (of_decide_eq_true before))
        rw [if_neg earlier, none, decide_eq_false earlier,
          if_neg Bool.false_ne_true]
        split
        · unfold Probed.fate
          cases probed.live <;> rfl
        · rfl

/-- A lane that has been advanced holds the first item behind the vertex, unless it has
found one of the vertex itself. -/
theorem held_of_seekItems
    (ascend : Item.Ascend items)
    (seeks : lane.seekItems policy probed.id items = .ok found) :
    found.lane.held.isSome ↔
      (∃ item ∈ items, probed.id < item.id) ∧
        ∀ item ∈ items, item.id ≠ probed.id := by
  induction items generalizing found with
  | nil =>
      obtain ⟨_, -, ended⟩ := exists_of_bind_eq_ok seeks
      cases ended
      simp
  | cons item rest hypothesis =>
      rcases seekItems_cases seeks with
        ⟨earlier, others, later, rfl⟩ | ⟨same, rfl⟩ | ⟨beyond, rfl⟩
      · have reached : ¬probed.id < item.id := Int64.lt_asymm earlier
        have other : item.id ≠ probed.id := Int64.ne_of_lt earlier
        simpa [reached, other] using
          hypothesis (List.Pairwise.of_cons ascend) later
      · simp [same]
      · refine ⟨fun _ => ⟨⟨item, List.mem_cons_self, beyond⟩, ?_⟩,
          fun _ => rfl⟩
        intro other member
        exact Ne.symm (Int64.ne_of_lt (ascend.before beyond other member))

/-- A lane that ends badly on the way to a vertex has nothing from the vertex on. -/
theorem allBefore_of_seek
    {error : JobError}
    (ascend : Item.Ascend lane.pending)
    (fails : lane.seek policy probed.id = .error error) :
    ∀ item ∈ lane.pending, item.id < probed.id := by
  obtain ⟨next, dropped, -, -, -, -, found⟩ :=
    seekItems_of_ascend policy lane probed.id ascend
  have seeks : lane.seek policy probed.id =
      lane.seekItems policy probed.id lane.pending := rfl
  rw [seeks, found] at fails
  intro item member
  by_cases before : Item.allBefore lane.pending probed.id
  · rw [Item.allBefore, List.all_eq_true] at before
    exact of_decide_eq_true (before item member)
  · rw [if_neg before] at fails
    cases fails

/-- A lane that is advanced to a vertex is left with the items behind it. -/
theorem pending_of_seek
    (ascend : Item.Ascend lane.pending)
    (seeks : lane.seek policy probed.id = .ok found) :
    found.lane.pending = Item.after lane.pending probed.id := by
  obtain ⟨next, dropped, -, -, -, pending, result⟩ :=
    seekItems_of_ascend policy lane probed.id ascend
  have unfolded : lane.seek policy probed.id =
      lane.seekItems policy probed.id lane.pending := rfl
  rw [unfolded, result] at seeks
  split at seeks
  · cases ends : policy.atEnd lane.stream lane.ending with
    | error error =>
        rw [ends] at seeks
        cases seeks
    | ok _ =>
        rw [ends] at seeks
        cases seeks
        exact pending
  · cases seeks
    exact pending

end Ascend

section Ledger

variable
  {policy : FailurePolicy}
  {lane : Lane}
  {probed : Probed}
  {visits : List Probed}

theorem orphans_ledger_cons
    (ascend : Item.Ascend lane.pending)
    (sorted : (probed :: visits).Pairwise fun one other => one.id < other.id) :
    Settled.orphans (lane.ledger policy (probed :: visits)) =
      Item.unclaimed ((probed :: visits).map Probed.id) lane.pending := by
  induction visits generalizing lane probed with
  | nil =>
      rw [ledger, Settled.orphans_append, orphans_fates ascend]
      cases seeks : lane.seek policy probed.id with
      | error error =>
          have before := allBefore_of_seek ascend seeks
          rw [List.map_singleton, Item.unclaimed_singleton, if_neg]
          · rfl
          · rintro ⟨⟨item, member, beyond⟩, -⟩
            exact Int64.lt_asymm beyond (before item member)
      | ok found =>
          rw [List.map_singleton, Item.unclaimed_singleton]
          exact congrArg _ ((orphans_unclaimed found.lane).trans
            (if_congr (held_of_seekItems ascend seeks) rfl rfl))
  | cons next later hypothesis =>
      obtain ⟨behind, sortedLater⟩ := List.pairwise_cons.1 sorted
      have laterIds : ∀ id ∈ (next :: later).map Probed.id, probed.id < id := by
        intro id member
        obtain ⟨other, among, rfl⟩ := List.mem_map.1 member
        exact behind other among
      rw [ledger, Settled.orphans_append, orphans_fates ascend, List.map_cons,
        Item.unclaimed_cons laterIds (List.cons_ne_nil _ _)]
      congr 1
      cases seeks : lane.seek policy probed.id with
      | error error =>
          have before := allBefore_of_seek ascend seeks
          have none : Item.after lane.pending probed.id = [] := by
            rw [Item.after, List.filter_eq_nil_iff]
            intro item member
            simpa using Int64.le_of_lt (before item member)
          rw [none, Item.unclaimed_nil]
          rfl
      | ok found =>
          have pending := pending_of_seek ascend seeks
          rw [← pending]
          exact hypothesis (pending ▸ ascend.after probed.id) sortedLater

/-- The orphans of an ascending lane that has not been advanced yet. -/
theorem orphans_ledger
    (fresh : lane.held = none)
    (ascend : Item.Ascend lane.pending)
    (sorted : visits.Pairwise fun one other => one.id < other.id) :
    Settled.orphans (lane.ledger policy visits) =
      Item.unclaimed (visits.map Probed.id) lane.pending := by
  cases visits with
  | nil =>
      rw [ledger, orphans_unclaimed, fresh]
      rfl
  | cons probed later => exact orphans_ledger_cons ascend sorted

end Ledger
end Lane
end GraphSweep
