import GraphSweep.Timeline
import GraphSweep.Proofs.Join.Course

/-!
# What a join submits

A join submits the vertices that it runs its program for, in order. A timeline on which
its moves are followed submits the same, as far as it gets.
-/

namespace GraphSweep

/-- The view that a move hands to the workers. -/
def Move.submitted? {σ ρ : Type} : Move σ ρ -> Option (Visited σ ρ)
  | .reach _ _ => none
  | .submit visited => some visited

namespace Timeline

variable {σ ρ : Type}

/-- What has been submitted on a timeline, in order. -/
def submitted (timeline : Timeline σ ρ) : List (Visited σ ρ) :=
  timeline.runs.map Run.visited

theorem submitted_submit
    (pace : Pace)
    (timeline : Timeline σ ρ)
    (visited : Visited σ ρ) :
    submitted (timeline.submit pace visited) =
      timeline.submitted ++ [visited] := by
  unfold submit
  split <;> exact List.map_append

/-- Moves that are followed to their end submit what they say. -/
theorem submitted_follow
    (pace : Pace)
    (timeline : Timeline σ ρ)
    {moves : List (Move σ ρ)}
    (onTime : (timeline.follow pace moves).stalled = none) :
    (timeline.follow pace moves).timeline.submitted =
      timeline.submitted ++ moves.filterMap Move.submitted? := by
  induction moves generalizing timeline with
  | nil => exact (List.append_nil _).symm
  | cons move moves hypothesis =>
      cases move with
      | submit visited =>
          rw [follow] at onTime ⊢
          rw [hypothesis _ onTime, submitted_submit, List.append_assoc]
          rfl
      | reach stream left =>
          rw [follow] at onTime ⊢
          split at onTime
          · cases onTime
          · next ready =>
            rw [if_neg ready]
            exact hypothesis _ onTime

/-- Moves submit no more than they say, however far they are followed. -/
theorem submitted_follow_prefix
    (pace : Pace)
    (timeline : Timeline σ ρ)
    (moves : List (Move σ ρ)) :
    (timeline.follow pace moves).timeline.submitted <+:
      timeline.submitted ++ moves.filterMap Move.submitted? := by
  induction moves generalizing timeline with
  | nil => exact List.prefix_append _ _
  | cons move moves hypothesis =>
      cases move with
      | submit visited =>
          have later := hypothesis (timeline.submit pace visited)
          rw [submitted_submit, List.append_assoc] at later
          exact later
      | reach stream left =>
          rw [follow]
          split
          · exact List.prefix_append _ _
          · exact hypothesis _

end Timeline

namespace Lane

/-- Waiting for lanes submits nothing. -/
theorem submitted_waits
    {σ ρ : Type}
    (policy : FailurePolicy)
    (id : VertexId)
    (lanes : List Lane) :
    (waits (σ := σ) (ρ := ρ) policy id lanes).filterMap Move.submitted? = [] := by
  induction lanes with
  | nil => rfl
  | cons lane lanes hypothesis =>
      rw [waits]
      cases lane.seek policy id with
      | error error => rfl
      | ok sought => exact hypothesis

end Lane

namespace Progress

variable {σ ρ : Type}

/-- A step of a join submits the vertices that it runs the program for. -/
theorem submitted_moves
    {sweep : Sweep σ ρ}
    {progress next : Progress σ ρ}
    {item : Item}
    (made : progress.step sweep item = .ok next) :
    next.visited = progress.visited ++
      (progress.moves sweep item).filterMap Move.submitted? := by
  have submits (visited : List (Visited σ ρ)) :
      (visited.map Move.submit).filterMap Move.submitted? = visited := by
    rw [List.filterMap_map]
    exact List.filterMap_some
  have more : progress.visited <+: next.visited := by
    rcases step_cases made with ⟨-, rfl⟩ | ⟨sought, -, ⟨-, rfl⟩ | ⟨-, rfl⟩⟩
    · exact List.prefix_rfl
    · exact List.prefix_append _ _
    · exact List.prefix_rfl
  rw [moves]
  by_cases past : progress.isPast item.id
  · rw [Progress.step, if_pos past] at made
    cases made
    rw [if_pos past]
    exact (List.append_nil _).symm
  · rw [if_neg past]
    cases exist : item.exists? with
    | error error =>
        rw [Progress.step, if_neg past, exist] at made
        cases made
    | ok live =>
        dsimp only
        rw [made, List.filterMap_append, Lane.submitted_waits, List.nil_append,
          submits]
        exact (List.prefix_iff_eq_append.1 more).symm

/-- A step that fails submits nothing. -/
theorem submitted_moves_of_error
    {sweep : Sweep σ ρ}
    {progress : Progress σ ρ}
    {item : Item}
    {error : JobError}
    (fails : progress.step sweep item = .error error) :
    (progress.moves sweep item).filterMap Move.submitted? = [] := by
  rw [moves]
  split
  · rfl
  · cases item.exists? with
    | error other => rfl
    | ok live =>
        dsimp only
        rw [fails, List.append_nil, Lane.submitted_waits]

/-- A join submits the vertices that it runs the program for, also where it fails. -/
theorem submitted_run
    (sweep : Sweep σ ρ)
    (progress : Progress σ ρ)
    (ending : FeedEnd)
    (items : List Item) :
    (progress.run sweep ending items).progress.visited = progress.visited ++
      (progress.run sweep ending items).moves.filterMap Move.submitted? := by
  induction items generalizing progress with
  | nil => exact (List.append_nil _).symm
  | cons item rest hypothesis =>
      unfold run
      cases made : progress.step sweep item with
      | error error =>
          have nothing := submitted_moves_of_error made
          dsimp only
          rw [List.filterMap_cons_none rfl, nothing, List.append_nil]
      | ok next =>
          have later := hypothesis next
          rw [submitted_moves made] at later
          dsimp only
          rw [later, List.filterMap_append, List.append_assoc]
          rfl

end Progress
end GraphSweep
