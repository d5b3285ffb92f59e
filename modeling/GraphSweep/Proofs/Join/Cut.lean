import GraphSweep.Join

/-!
# Joins that truncate failing streams

Where a failing stream is truncated, nothing in a join depends on whether a stream
fails or is exhausted: the join goes the same way when every lane is cut where its
stream ends.
-/

namespace GraphSweep

/-- Where failing streams are truncated, no stream ends badly. -/
@[simp] theorem FailurePolicy.atEnd_truncate (stream : Nat) (ending : FeedEnd) :
    FailurePolicy.truncate.atEnd stream ending = .ok () := by
  cases ending <;> rfl

namespace Lane

/-- The lane with its stream cut where it ends. -/
def cut (lane : Lane) : Lane := { lane with ending := .exhausted }

end Lane

namespace Sought

/-- What a lane has for a vertex, with its stream cut where it ends. -/
def cut (sought : Sought) : Sought := { sought with lane := sought.lane.cut }

@[simp] theorem fetched_map_cut (sought : List Sought) :
    fetched (sought.map cut) = fetched sought := by
  rw [fetched, List.filterMap_map]
  rfl

@[simp] theorem totalDropped_map_cut (sought : List Sought) :
    totalDropped (sought.map cut) = totalDropped sought := by
  induction sought with
  | nil => rfl
  | cons found others hypothesis =>
      rw [List.map_cons, totalDropped, hypothesis]
      rfl

end Sought

namespace Lane

theorem seekItems_cut (lane : Lane) (id : VertexId) (items : List Item) :
    lane.cut.seekItems .truncate id items =
      (lane.seekItems .truncate id items).map Sought.cut := by
  induction items with
  | nil =>
      rw [seekItems, seekItems, FailurePolicy.atEnd_truncate,
        FailurePolicy.atEnd_truncate]
      rfl
  | cons item rest hypothesis =>
      rw [seekItems, seekItems, hypothesis]
      by_cases earlier : item.id < id
      · rw [if_pos earlier, if_pos earlier]
        cases lane.seekItems .truncate id rest <;> rfl
      · rw [if_neg earlier, if_neg earlier]
        by_cases same : item.id = id
        · rw [if_pos same, if_pos same]
          rfl
        · rw [if_neg same, if_neg same]
          rfl

/-- A cut lane is advanced as the lane is. -/
theorem seek_cut (lane : Lane) (id : VertexId) :
    lane.cut.seek .truncate id = (lane.seek .truncate id).map Sought.cut :=
  lane.seekItems_cut id _

theorem seekAll_cut (id : VertexId) (lanes : List Lane) :
    seekAll .truncate id (lanes.map cut) =
      (seekAll .truncate id lanes).map (List.map Sought.cut) := by
  induction lanes with
  | nil => rfl
  | cons lane lanes hypothesis =>
      rw [List.map_cons, seekAll, seekAll, hypothesis, seek_cut]
      cases lane.seek .truncate id with
      | error error => rfl
      | ok sought => cases seekAll .truncate id lanes <;> rfl

/-- Cut lanes are waited for as the lanes are. -/
theorem waits_cut
    {σ ρ : Type}
    (id : VertexId)
    (lanes : List Lane) :
    (waits .truncate id (lanes.map cut) : List (Move σ ρ)) =
      waits .truncate id lanes := by
  induction lanes with
  | nil => rfl
  | cons lane lanes hypothesis =>
      rw [List.map_cons, waits, waits, hypothesis, seek_cut]
      cases lane.seek .truncate id <;> rfl

end Lane

namespace Progress

variable {σ ρ : Type}

/-- The join with its streams cut where they end. -/
def cut (progress : Progress σ ρ) : Progress σ ρ :=
  { progress with lanes := progress.lanes.map Lane.cut }

@[simp] theorem leftover_cut (progress : Progress σ ρ) :
    progress.cut.leftover = progress.leftover := by
  rw [leftover, leftover, cut, List.filter_map, List.length_map]
  rfl

variable {sweep : Sweep σ ρ}

/-- A join of cut streams handles a vertex as the join does. -/
theorem step_cut
    (truncates : sweep.policy = .truncate)
    (progress : Progress σ ρ)
    (item : Item) :
    progress.cut.step sweep item = (progress.step sweep item).map cut := by
  have isPast : progress.cut.isPast item.id = progress.isPast item.id := rfl
  rw [step, step, isPast, truncates]
  by_cases past : progress.isPast item.id
  · rw [if_pos past, if_pos past]
    rfl
  · rw [if_neg past, if_neg past]
    cases item.exists? with
    | error error => rfl
    | ok live =>
        have lanes := Lane.seekAll_cut item.id progress.lanes
        have cutLanes : progress.cut.lanes = progress.lanes.map Lane.cut := rfl
        rw [cutLanes, lanes]
        cases Lane.seekAll .truncate item.id progress.lanes with
        | error error => rfl
        | ok sought =>
            have settled : progress.cut.settleLanes item.id
                (sought.map Sought.cut) =
                (progress.settleLanes item.id sought).cut := by
              simp only [settleLanes, cut, Sought.totalDropped_map_cut,
                List.map_map]
              rfl
            cases live
            · exact congrArg (fun next : Progress σ ρ =>
                Except.ok next.skipDeleted) settled
            · have view : (⟨item.id, Sought.fetched (sought.map Sought.cut)⟩ :
                  View) = ⟨item.id, Sought.fetched sought⟩ := by
                rw [Sought.fetched_map_cut]
              have dispatched : (progress.cut.settleLanes item.id
                  (sought.map Sought.cut)).dispatch sweep
                    ⟨item.id, Sought.fetched (sought.map Sought.cut)⟩ =
                  ((progress.settleLanes item.id sought).dispatch sweep
                    ⟨item.id, Sought.fetched sought⟩).cut := by
                rw [settled, view]
                rfl
              exact congrArg Except.ok dispatched

theorem moves_cut
    (truncates : sweep.policy = .truncate)
    (progress : Progress σ ρ)
    (item : Item) :
    progress.cut.moves sweep item = progress.moves sweep item := by
  have isPast : progress.cut.isPast item.id = progress.isPast item.id := rfl
  have cutLanes : progress.cut.lanes = progress.lanes.map Lane.cut := rfl
  rw [moves, moves, isPast, step_cut truncates progress item, cutLanes,
    truncates, Lane.waits_cut]
  by_cases past : progress.isPast item.id
  · rw [if_pos past, if_pos past]
  · rw [if_neg past, if_neg past]
    cases item.exists? with
    | error error => rfl
    | ok live => cases progress.step sweep item <;> rfl

/-- A join of cut streams goes the way of the join. -/
theorem run_cut
    (truncates : sweep.policy = .truncate)
    (progress : Progress σ ρ)
    (ending : FeedEnd)
    (items : List Item) :
    progress.cut.run sweep .exhausted items =
      { progress.run sweep ending items with
        progress := (progress.run sweep ending items).progress.cut } := by
  induction items generalizing progress with
  | nil =>
      rw [run, run, truncates, FailurePolicy.atEnd_truncate,
        FailurePolicy.atEnd_truncate]
  | cons item rest hypothesis =>
      rw [run, run, step_cut truncates progress item,
        moves_cut truncates progress item]
      cases progress.step sweep item with
      | error error => rfl
      | ok next =>
          have later := hypothesis next
          simp only [Except.map, later]

end Progress
end GraphSweep
