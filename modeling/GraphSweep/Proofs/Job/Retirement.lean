import GraphSweep.Proofs.Job.Standing
import GraphSweep.Proofs.Pipeline.Workers

/-!
# The workers when the read context is released

A job whose join has come to its end waits for its workers before it releases its read
context. A job that is given up only tells them to stop: when it releases its context
they may still be running the program.
-/

namespace GraphSweep
namespace Job
namespace Opening

variable
  {σ ρ : Type}
  [Mergeable σ]
  {job : Job σ ρ}
  {context : ReadContext}
  {launch : Launch}
  {layout : IdLayout}
  {closeFault : Nat -> Option StorageError}
  {actions : List Lifetime.Action}
  {action : Lifetime.Action}
  {lifetime next : Lifetime σ ρ}

/-- It is known what has become of each vertex that a job has handed over. -/
theorem accounted_of_follow
    (opening : job.Opening context launch)
    (follows : (opening.lifetime layout).follow opening.setup closeFault
      actions = some lifetime) :
    lifetime.Accounted := by
  have fresh : (opening.lifetime layout).Accounted :=
    ⟨List.Perm.refl _, List.Perm.refl _, nofun, fun _ _ => ⟨rfl, rfl⟩, nofun⟩
  exact Lifetime.follow_induction Lifetime.Accounted Lifetime.Accounted.act fresh
    follows

/-- What the workers of a job have done when it releases its read context. Unless the
job has been given up for an error that its join ran into, each vertex handed over has
been run to its end and no run begins afterwards, also if the release fails and is
repeated. When the job has been given up nothing waits for the workers any more and
nothing is handed to them afterwards, but of the vertices handed over some may be left
behind, and some runs may be broken off or still be going on. The workers have then
stopped, so that no run is going on from the release on, exactly if none is going on right
after it and no vertex was left behind. -/
theorem workers_at_release
    (opening : job.Opening context launch)
    (follows : (opening.lifetime layout).follow opening.setup closeFault
      actions = some lifetime)
    (acts : lifetime.act opening.setup closeFault action = some next)
    (releases : next.pipeline.events =
      lifetime.pipeline.events ++ [.released]) :
    (lifetime.pipeline.phase.isGivenUp = false ->
      lifetime.Finished ∧
      ∀ others later,
        next.follow opening.setup closeFault others = some later ->
          later.Finished ∧
            later.pipeline.effects.visited =
              lifetime.pipeline.effects.visited) ∧
    (lifetime.pipeline.phase.isGivenUp = true ->
      lifetime.Scattered ∧
      (∀ others later,
        next.follow opening.setup closeFault others = some later ->
          later.Scattered ∧
            later.pipeline.account.views =
              lifetime.pipeline.account.views) ∧
      ((∀ others later,
        next.follow opening.setup closeFault others = some later ->
          later.pipeline.running = []) ↔
        next.pipeline.running = [] ∧ next.left = [])) := by
  have accounted := opening.accounted_of_follow follows
  have phases := Lifetime.phase_of_releasing acts releases
  refine ⟨fun spared => ?spared, fun givenUp => ?givenUp⟩
  case spared =>
    have idle : lifetime.pipeline.phase.isIdle = true ∧
        next.pipeline.phase.isReleased = true := by
      rcases phases with ⟨stopping, released⟩ | ⟨error, abandoning, ended⟩
      · rw [stopping]
        exact ⟨rfl, released⟩
      · rw [abandoning, JoinPhase.isGivenUp] at spared
        rw [abandoning, ended, JoinPhase.isIdle, JoinPhase.isReleased, spared]
        exact ⟨rfl, rfl⟩
    have done := Lifetime.visited_of_idle accounted idle.1 acts
    refine ⟨accounted.finished idle.1, fun others later reaches => ?_⟩
    obtain ⟨after, released, visited⟩ := Lifetime.follow_induction _
      Lifetime.released_act ⟨accounted.act acts, idle.2, done⟩ reaches
    exact ⟨after.finished (JoinPhase.isIdle_of_isReleased released), visited⟩
  case givenUp =>
    have start := Lifetime.givenUp_act ⟨accounted, givenUp, rfl⟩ acts
    refine ⟨accounted.scattered givenUp, fun others later reaches => ?_,
      fun stopped => ?_, ?_⟩
    · obtain ⟨after, lost, views⟩ := Lifetime.follow_induction _
        Lifetime.givenUp_act start reaches
      exact ⟨after.scattered lost, views⟩
    · have idle := stopped [] next rfl
      refine ⟨idle, ?_⟩
      by_contra waits
      obtain ⟨later, lingers, busy⟩ :=
        Lifetime.exists_linger opening.setup_pos.1 idle waits
      refine busy (stopped [.linger] later ?_)
      rw [Lifetime.follow, lingers]
      rfl
    · rintro ⟨idle, left⟩ others later reaches
      exact (Lifetime.follow_induction _ Lifetime.Vacant.act
        ⟨start.1, start.2.1, idle, left⟩ reaches).idle

end Opening
end Job

/-! ## Two streams

Both ways to a release: of the job when its other stream fails while a worker runs the
program, and of the job over a single vertex. -/

namespace TwoStreams

/-- A reader goes on for some steps. -/
def reading (stream steps : Nat) : List Lifetime.Action :=
  List.replicate steps (.go (.read stream))

/-- The join goes on for some steps. -/
def joining (steps : Nat) : List Lifetime.Action :=
  List.replicate steps (.go .join)

/-- The job when the other stream fails before the second vertex that exists. -/
def failing : (job .fail).Opening (context primary broken) Launch.ordinary :=
  opening .fail primary broken

/-- A worker takes up the first vertex and does not go on. The join runs into the stream
that fails, the job is given up, and both readers stop. -/
def untilGivenUp : List Lifetime.Action :=
  reading 0 3 ++ joining 1 ++ reading 1 3 ++ joining 4 ++ [.go .pick] ++
    reading 0 5 ++ joining 1 ++ reading 1 5 ++ joining 2 ++ reading 0 4

/-- When the context of a job that was given up is released, the run for a vertex may be
going on. -/
theorem release_with_run_going_on :
    ∃ lifetime next,
      (failing.lifetime IdLayout.standard).follow failing.setup
          (fun _ => none) untilGivenUp = some lifetime ∧
      lifetime.act failing.setup (fun _ => none) (.go .join) = some next ∧
      next.pipeline.events = lifetime.pipeline.events ++ [.released] ∧
      next.pipeline.running.map Running.id = [4] ∧
      next.pipeline.running.map Running.due = [[1]] := by
  have reaches :
      ((failing.lifetime IdLayout.standard).follow failing.setup
        (fun _ => none) untilGivenUp).any (fun lifetime =>
          (lifetime.act failing.setup (fun _ => none) (.go .join)).any
            fun next =>
              next.pipeline.events = lifetime.pipeline.events ++ [.released] ∧
              next.pipeline.running.map Running.id = [4] ∧
              next.pipeline.running.map Running.due = [[1]]) = true := by
    decide +kernel
  obtain ⟨lifetime, follows, more⟩ := (Option.any_eq_true _ _).1 reaches
  obtain ⟨next, acts, holds⟩ := (Option.any_eq_true _ _).1 more
  exact ⟨lifetime, next, follows, acts, of_decide_eq_true holds⟩

/-- The job over a vertex for which the other stream has nothing. -/
def single : (job .fail).Opening
    (context (reads [(4, [Relation.markerEntry])]) []) Launch.ordinary :=
  opening .fail (reads [(4, [Relation.markerEntry])]) []

/-- The vertex is run to its end, and both readers stop. -/
def untilStopped : List Lifetime.Action :=
  reading 0 3 ++ joining 1 ++ reading 1 5 ++ joining 4 ++
    [.go .pick, .go (.work 0), .go (.work 0)] ++ reading 0 5 ++ joining 2

theorem workers_of_two_streams_at_release :
    (∃ lifetime next,
      (failing.lifetime IdLayout.standard).follow failing.setup
          (fun _ => none) untilGivenUp = some lifetime ∧
      lifetime.act failing.setup (fun _ => none) (.go .join) = some next ∧
      lifetime.pipeline.phase.isGivenUp = true ∧ lifetime.Scattered ∧
      ¬∀ others later,
        next.follow failing.setup (fun _ => none) others = some later ->
          later.pipeline.running = []) ∧
    ∃ lifetime next,
      (single.lifetime IdLayout.standard).follow single.setup
          (fun _ => none) untilStopped = some lifetime ∧
      lifetime.act single.setup (fun _ => none) (.go (.release [])) =
        some next ∧
      lifetime.pipeline.phase.isGivenUp = false ∧ lifetime.Finished ∧
      lifetime.completed.map (fun visited => visited.view.id) = [4] := by
  refine ⟨?_, ?_⟩
  · have reaches :
        ((failing.lifetime IdLayout.standard).follow failing.setup
          (fun _ => none) untilGivenUp).any (fun lifetime =>
            (lifetime.act failing.setup (fun _ => none) (.go .join)).any
              fun next =>
                next.pipeline.events =
                    lifetime.pipeline.events ++ [.released] ∧
                  lifetime.pipeline.phase.isGivenUp = true ∧
                  next.pipeline.running.length = 1) = true := by
      decide +kernel
    obtain ⟨lifetime, follows, more⟩ := (Option.any_eq_true _ _).1 reaches
    obtain ⟨next, acts, holds⟩ := (Option.any_eq_true _ _).1 more
    obtain ⟨releases, givenUp, busy⟩ := of_decide_eq_true holds
    have workers := failing.workers_at_release follows acts releases
    obtain ⟨scattered, -, stops⟩ := workers.2 givenUp
    refine ⟨lifetime, next, follows, acts, givenUp, scattered, fun stopped => ?_⟩
    rw [(stops.1 stopped).1] at busy
    cases busy
  · have reaches :
        ((single.lifetime IdLayout.standard).follow single.setup
          (fun _ => none) untilStopped).any (fun lifetime =>
            (lifetime.act single.setup (fun _ => none)
              (.go (.release []))).any fun next =>
                next.pipeline.events =
                    lifetime.pipeline.events ++ [.released] ∧
                  lifetime.pipeline.phase.isGivenUp = false ∧
                  lifetime.completed.map
                    (fun visited => visited.view.id) = [4]) = true := by
      decide +kernel
    obtain ⟨lifetime, follows, more⟩ := (Option.any_eq_true _ _).1 reaches
    obtain ⟨next, acts, holds⟩ := (Option.any_eq_true _ _).1 more
    obtain ⟨releases, spared, done⟩ := of_decide_eq_true holds
    have workers := single.workers_at_release follows acts releases
    exact ⟨lifetime, next, follows, acts, spared, (workers.1 spared).1, done⟩

end TwoStreams
end GraphSweep
