import GraphSweep.Proofs.Job.Stored
import GraphSweep.Proofs.Pipeline.Coverage

/-!
# What a job runs its program for

Where nothing is in the way of a job, the program is run for the vertices that the join
is bound to dispatch and for no other, and for none of them twice, even if a wait runs
out. As long as no wait runs out it is run for all of them, also if the siblings cannot
be merged in the end.
-/

namespace GraphSweep
namespace Job

variable {σ ρ : Type}

/-- Releasing the read context makes no further runs. -/
theorem visited_release
    [Mergeable σ]
    (context : ReadContext)
    (streams : Nat)
    (progress : Progress σ ρ)
    (inlined now : Nat) :
    (release context streams progress inlined now).visited =
      progress.visited := by
  unfold release
  cases context.releaseFault with
  | some fault => rfl
  | none =>
      dsimp only
      split
      · cases progress.store.mergeSiblings with
        | mk count store => cases count <;> rfl
      · rfl

namespace Opening

variable
  {job : Job σ ρ}
  {context : ReadContext}
  {launch : Launch}

/-- The runs of the program for the vertices that exist, in order, each with the state that
its vertex had when the job began. -/
def livingRuns
    (opening : job.Opening context launch)
    (layout : IdLayout) : List (Visited σ ρ) :=
  (opening.live.map opening.viewOf).map (opening.runOf layout)

/-- These runs are for the vertices that exist. -/
theorem map_id_livingRuns
    (opening : job.Opening context launch)
    (layout : IdLayout) :
    (opening.livingRuns layout).map (fun run => run.view.id) = opening.live := by
  rw [livingRuns, List.map_map]
  exact opening.map_id_viewOf opening.live

/-- With nothing in the way, the join makes the runs for the vertices that exist. -/
theorem visited_joined_of_no_failures
    (opening : job.Opening context launch)
    (layout : IdLayout)
    (ascend : ∀ source ∈ opening.primary :: opening.others, source.Ascends)
    (failures : opening.failures = []) :
    (opening.joined layout).result = .ok () ∧
      (opening.joined layout).progress.visited = opening.livingRuns layout := by
  obtain ⟨joins, views⟩ := opening.joined_of_no_failures layout ascend failures
  have living : (opening.joined layout).progress.account.views =
      opening.live.map opening.viewOf := views
  rw [opening.visited_joined layout joins, living]
  exact ⟨joins, rfl⟩

/-- With nothing in the way, the job is bound to make the runs for the vertices that
exist. -/
theorem foreseen_of_no_failures
    (opening : job.Opening context launch)
    (layout : IdLayout)
    (ascend : ∀ source ∈ opening.primary :: opening.others, source.Ascends)
    (failures : opening.failures = [])
    (released : context.releaseFault = none) :
    ∃ final, opening.foreseen = .ok final ∧
      (Effects.visitAll opening.sweep ⟨opening.start layout, 0, []⟩
        final.views).visited = opening.livingRuns layout := by
  obtain ⟨joins, made⟩ :=
    opening.visited_joined_of_no_failures layout ascend failures
  have foreseen := opening.foreseen_eq layout
  rw [joins, Except.bind, released_eq, released] at foreseen
  refine ⟨_, foreseen, ?_⟩
  rw [(opening.visitAll_of_foreseen layout foreseen).1]
  exact made

section Views

variable
  [Mergeable σ]
  {opening : job.Opening context launch}
  {layout : IdLayout}
  {outcome : Outcome σ ρ}

/-- On the clock a job makes no more runs than its join submits. -/
theorem visited_execute
    (joins : (opening.joined layout).result = .ok ()) :
    (job.execute layout context launch).visited <+:
      (opening.joined layout).progress.visited ∧
    (opening.OnTime layout ->
      (job.execute layout context launch).visited =
        (opening.joined layout).progress.visited) := by
  have submits := Timeline.submitted_follow_prefix job.pace
    (Timeline.start job.pace (opening.primary :: opening.others))
    (opening.joined layout).moves
  have visits := (opening.ready layout).submitted_run opening.sweep
    opening.probe.ending opening.probe.items
  have bounded : (opening.followed layout).timeline.submitted <+:
      (opening.joined layout).progress.visited :=
    visits.symm ▸ submits
  cases served : (opening.followed layout).stalled with
  | some stream =>
      rw [opening.execute_of_stalled layout served]
      exact ⟨bounded, fun onTime => by cases served.symm.trans onTime.served⟩
  | none =>
      refine ⟨?_, fun onTime => ?_⟩
      · rw [opening.execute_of_joined layout served joins]
        rcases job.conclude_cases context (opening.others.length + 1)
          (opening.start layout) (opening.followed layout).timeline
          (opening.joined layout).progress with
          ⟨now, component, given⟩ | ⟨inlined, now, released⟩
        · rw [given]
          exact bounded
        · have same := (congrArg Outcome.visited released).trans
            (visited_release ..)
          exact same ▸ List.prefix_rfl
      · obtain ⟨inlined, now, released⟩ :=
          opening.execute_of_onTime layout joins onTime
        rw [released, visited_release]

omit [Mergeable σ] in
/-- The runs that a job has come to are those made in it. -/
theorem visited_of_outcome?
    {pipeline : Pipeline σ ρ}
    (ends : pipeline.outcome? = some outcome) :
    (∃ result, pipeline.phase = .ended result) ∧
      outcome.visited = pipeline.effects.visited := by
  unfold Pipeline.outcome? at ends
  split at ends
  · next result ended =>
    cases ends
    exact ⟨⟨result, ended⟩, rfl⟩
  · cases ends

/-- With nothing in the way, no run of the job runs the program for a vertex that does
not exist, and none for a vertex twice. -/
theorem Runs.visited_subperm
    {submitted : List View}
    (runs : opening.Runs layout submitted outcome)
    (ascend : ∀ source ∈ opening.primary :: opening.others, source.Ascends)
    (failures : opening.failures = [])
    (released : context.releaseFault = none) :
    outcome.visited.Subperm (opening.livingRuns layout) := by
  cases runs with
  | clocked =>
      obtain ⟨joins, made⟩ :=
        opening.visited_joined_of_no_failures layout ascend failures
      exact made ▸ (visited_execute joins).1.sublist.subperm
  | interleaved actions pipeline _ follows ends =>
      obtain ⟨final, foreseen, made⟩ :=
        opening.foreseen_of_no_failures layout ascend failures released
      have faithful := opening.faithful_launched layout
      rw [foreseen] at faithful
      have confined : (opening.launched layout).Confined opening.setup
          ⟨opening.start layout, 0, []⟩ final :=
        ⟨fun _ => faithful, List.nil_subperm, List.nodup_nil⟩
      have bounded := (confined.follow follows).bounded
      rw [(visited_of_outcome? ends).2, ← made]
      exact (List.prefix_append _ _).sublist.subperm.trans bounded

/-- With nothing in the way, the program is run for all vertices that exist as long as
no wait runs out. -/
theorem Yields.visited_perm
    (yields : opening.Yields layout outcome)
    (ascend : ∀ source ∈ opening.primary :: opening.others, source.Ascends)
    (failures : opening.failures = [])
    (released : context.releaseFault = none) :
    outcome.visited.Perm (opening.livingRuns layout) := by
  cases yields with
  | clocked onTime =>
      obtain ⟨joins, made⟩ :=
        opening.visited_joined_of_no_failures layout ascend failures
      rw [(visited_execute joins).2 onTime, made]
  | interleaved actions pipeline _ punctual follows ends =>
      obtain ⟨final, foreseen, made⟩ :=
        opening.foreseen_of_no_failures layout ascend failures released
      have begins := opening.faithful_launched layout
      rw [foreseen] at begins
      obtain ⟨⟨result, ended⟩, visited⟩ := visited_of_outcome? ends
      rw [visited, ← made]
      rcases Pipeline.Faithful.follow_or_exhausted (Or.inl begins) punctual
        follows with faithful | exhausted
      · have foretold := faithful.foretold
        rw [Pipeline.forecast, ended] at foretold
        cases result with
        | error error => cases foretold
        | ok tally =>
            cases foretold
            exact (faithful.concluded tally ended).visited
      · exact exhausted.visited

end Views
end Opening
end Job
end GraphSweep
