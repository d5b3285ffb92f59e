import GraphSweep.Proofs.Pipeline.Coverage
import GraphSweep.Proofs.Pipeline.Lifetime
import Mathlib.Data.List.Perm.Basic

/-!
# What becomes of the vertices that the workers are given

Each vertex that the join hands over waits in the queue, is being run, has been run to
its end, has been broken off, or was left behind. Only a job that is given up for an
error which the join ran into, or that is called off, leaves vertices behind or breaks
runs off. A job whose join came to its end has waited for its workers before.
-/

namespace GraphSweep

namespace Pipeline

variable {σ ρ : Type} {setup : Setup σ ρ} {pipeline next : Pipeline σ ρ}

/-- The views that the workers have been given. -/
def handed (pipeline : Pipeline σ ρ) : List View :=
  pipeline.effects.visited.map Visited.view ++ pipeline.queue

/-- The view that an action hands to the workers. -/
def dispatches (pipeline : Pipeline σ ρ) : Action -> List View
  | .join =>
      match pipeline.phase with
      | .submitting view => [view]
      | _ => []
  | _ => []

@[simp] theorem visited_finish
    (effects : Effects σ ρ)
    (visited : Visited σ ρ) :
    (effects.finish visited).visited = effects.visited := by
  unfold Effects.finish
  split <;> rfl

/-- The views handed over, with those of before. -/
theorem views_act
    [Mergeable σ]
    {action : Action}
    (acts : pipeline.act setup action = some next) :
    next.account.views =
      pipeline.account.views ++ pipeline.dispatches action := by
  cases action with
  | read stream =>
      cases reads_of_read acts with
      | primary | channel => exact (List.append_nil _).symm
  | release order =>
      cases releases_of_release acts with
      | refused | merged | plain => exact (List.append_nil _).symm
  | pick =>
      obtain ⟨view, rest, queue, rfl⟩ := pick_eq_some acts
      exact (List.append_nil _).symm
  | work position =>
      cases works_of_work acts with
      | writes | finishes => exact (List.append_nil _).symm
  | breakOff position =>
      obtain ⟨-, -, rfl⟩ := breakOff_eq_some acts
      exact (List.append_nil _).symm
  | expire =>
      obtain ⟨phase, rfl, -, -⟩ := expire_eq_some acts
      exact (List.append_nil _).symm
  | join =>
      cases joins_of_join acts with
      | queues view phase | inlines view phase =>
          simp only [dispatches, phase]
          rfl
      | skips item rest phase | meets item rest live phase
      | chokes item rest error phase | drains phase | breaks error phase
      | moves _ _ _ _ _ _ _ phase | passes _ _ _ _ _ _ _ phase
      | fails _ _ _ _ _ _ phase | completes _ _ _ phase | deletes _ _ _ phase
      | resumes phase | stops phase | abandons error phase
      | ends error phase =>
          simp only [dispatches, phase]
          exact (List.append_nil _).symm

/-- What the workers have been given, with what an action leaves behind, is what they
had been given, with what the action hands to them. -/
theorem handed_leaves_act
    [Mergeable σ]
    {action : Action}
    (acts : pipeline.act setup action = some next) :
    (next.handed ++ pipeline.leaves action).Perm
      (pipeline.handed ++ pipeline.dispatches action) := by
  cases action with
  | read stream =>
      cases reads_of_read acts with
      | primary | channel => exact List.Perm.refl _
  | release order =>
      cases releases_of_release acts with
      | refused | merged | plain => exact List.Perm.refl _
  | pick =>
      obtain ⟨view, rest, queue, rfl⟩ := pick_eq_some acts
      simp [handed, leaves, dispatches, launch, Effects.note, queue]
  | work position =>
      cases works_of_work acts with
      | writes => exact List.Perm.refl _
      | finishes => simp [handed, leaves, dispatches]
  | breakOff position =>
      obtain ⟨-, -, rfl⟩ := breakOff_eq_some acts
      exact List.Perm.refl _
  | expire =>
      obtain ⟨phase, rfl, -, -⟩ := expire_eq_some acts
      exact List.Perm.refl _
  | join =>
      cases joins_of_join acts with
      | queues view phase => simp [handed, leaves, dispatches, phase]
      | inlines view phase =>
          simp only [handed, leaves, dispatches, phase, launch, Effects.note,
            List.map_append, List.append_nil, List.append_assoc]
          exact List.perm_append_comm.append_left _
      | abandons error phase => simp [handed, leaves, dispatches, phase, cancelReaders]
      | skips item rest phase | meets item rest live phase
      | chokes item rest error phase | drains phase | breaks error phase
      | moves _ _ _ _ _ _ _ phase | passes _ _ _ _ _ _ _ phase
      | fails _ _ _ _ _ _ phase | completes _ _ _ phase | deletes _ _ _ phase
      | resumes phase | stops phase | ends error phase =>
          simp only [leaves, dispatches, phase]
          exact List.Perm.refl _

/-- A run at a position with the runs at the others is all runs. -/
theorem runAt_perm (pipeline : Pipeline σ ρ) (position : Nat) :
    ((pipeline.running.eraseIdx position).map Running.visited ++
        pipeline.runAt position).Perm
      (pipeline.running.map Running.visited) := by
  unfold runAt
  by_cases within : position < pipeline.running.length
  · rw [List.getElem?_eq_getElem within]
    have perm := (List.getElem_cons_eraseIdx_perm within).map Running.visited
    rw [List.map_cons] at perm
    exact (List.perm_append_singleton _ _).trans perm
  · rw [List.getElem?_eq_none (Nat.le_of_not_lt within),
      List.eraseIdx_of_length_le (Nat.le_of_not_lt within)]
    simp

/-- The runs under way, with those that an action ends, are the runs that were under
way, with those that it begins. -/
theorem running_act
    [Mergeable σ]
    {action : Action}
    (acts : pipeline.act setup action = some next) :
    ∃ begun, next.effects.visited = pipeline.effects.visited ++ begun ∧
      (next.running.map Running.visited ++ pipeline.completes action ++
          pipeline.breaksOff action).Perm
        (pipeline.running.map Running.visited ++ begun) := by
  cases action with
  | read stream =>
      cases reads_of_read acts with
      | primary | channel => exact ⟨[], by simp, by simp [completes, breaksOff]⟩
  | release order =>
      cases releases_of_release acts with
      | refused | merged | plain =>
          exact ⟨[], by simp, by simp [completes, breaksOff]⟩
  | pick =>
      obtain ⟨view, rest, queue, rfl⟩ := pick_eq_some acts
      exact ⟨[_], rfl, by simp [launch, completes, breaksOff, Running.start]⟩
  | work position =>
      cases works_of_work acts with
      | writes run state due found more =>
          refine ⟨[], by simp [Effects.write], ?_⟩
          have same : (pipeline.running.set position
              { run with due := due }).map Running.visited =
              pipeline.running.map Running.visited := map_set_of_eq found rfl
          simp [completes, breaksOff, found, more, same]
      | finishes run found spent =>
          refine ⟨[], by simp, ?_⟩
          have perm := pipeline.runAt_perm position
          simpa [completes, breaksOff, runAt, found, spent] using perm
  | breakOff position =>
      obtain ⟨-, -, rfl⟩ := breakOff_eq_some acts
      refine ⟨[], by simp, ?_⟩
      have perm := pipeline.runAt_perm position
      simpa [completes, breaksOff] using perm
  | expire =>
      obtain ⟨phase, rfl, -, -⟩ := expire_eq_some acts
      exact ⟨[], by simp, by simp [completes, breaksOff]⟩
  | join =>
      cases joins_of_join acts with
      | inlines view =>
          exact ⟨[_], rfl, by simp [launch, completes, breaksOff, Running.start]⟩
      | skips | meets | chokes | drains | breaks | moves | passes | fails
      | completes | deletes | queues | resumes | stops | abandons | ends =>
          exact ⟨[], by simp [cancelReaders],
            by simp [Pipeline.completes, breaksOff, cancelReaders]⟩

end Pipeline

namespace JoinPhase

/-- Whether the join has waited for its workers. -/
def isIdle : JoinPhase -> Bool
  | stopping | ended (.ok _) => true
  | failing error | abandoning error | ended (.error error) => !error.isFatal
  | probing | seeking _ _ _ _ | submitting _ | inlining | draining => false

/-- Whether the job has been given up for an error that the join ran into. -/
def isGivenUp : JoinPhase -> Bool
  | abandoning error | ended (.error error) => error.isFatal
  | probing | seeking _ _ _ _ | submitting _ | inlining | draining | stopping
  | failing _ | ended (.ok _) => false

/-- Whether the join has waited for its workers and has released the context. -/
def isReleased : JoinPhase -> Bool
  | ended (.ok _) => true
  | failing error | abandoning error | ended (.error error) => !error.isFatal
  | probing | seeking _ _ _ _ | submitting _ | inlining | draining | stopping =>
      false

theorem isIdle_of_isReleased
    {phase : JoinPhase}
    (released : phase.isReleased = true) :
    phase.isIdle = true := by
  unfold isReleased at released
  split at released <;> first | rfl | exact released

end JoinPhase

namespace Pipeline

section Phases

variable {σ ρ : Type} {setup : Setup σ ρ} {pipeline next : Pipeline σ ρ}

/-- The join has waited for its workers before, or it is done with waiting for them
now. -/
theorem isIdle_of_joins
    (joins : pipeline.Joins setup next)
    (idle : next.phase.isIdle = true) :
    pipeline.phase.isIdle = true ∨
      pipeline.queue = [] ∧ pipeline.running = [] ∧
        pipeline.phase = .draining := by
  cases joins with
  | stops phase drained quiet => exact Or.inr ⟨drained, quiet, phase⟩
  | skips | moves => exact Or.inl idle
  | meets | drains | passes | completes | deletes | queues | inlines
  | resumes => cases idle
  | abandons error phase | ends error phase =>
      left
      rw [phase]
      exact idle
  | chokes item rest error phase queue fresh exist =>
      simp [JoinPhase.isIdle, Item.isFatal_of_exists? exist] at idle
  | breaks error phase queue gone badly =>
      simp [JoinPhase.isIdle, ReaderStatus.isFatal_of_verdict badly] at idle
  | fails id live fetched position channel error phase found glance =>
      simp [JoinPhase.isIdle, Channel.isFatal_of_broken glance] at idle

theorem isIdle_of_act
    [Mergeable σ]
    {action : Action}
    (acts : pipeline.act setup action = some next)
    (idle : next.phase.isIdle = true) :
    pipeline.phase.isIdle = true ∨
      pipeline.queue = [] ∧ pipeline.running = [] ∧
        pipeline.phase = .draining ∧ action = .join := by
  rcases phase_act acts with same | ⟨rfl, joins⟩ | ⟨order, releases⟩ | expires
  · exact Or.inl (same ▸ idle)
  · rcases isIdle_of_joins joins idle with before | ⟨drained, quiet, phase⟩
    · exact Or.inl before
    · exact Or.inr ⟨drained, quiet, phase, rfl⟩
  · left
    cases releases with
    | refused fault phase | merged phase | plain phase =>
        rw [phase]
        rfl
  · cases expires with
    | stalls | lasts => cases idle
    | deserts error phase =>
        left
        rw [phase]
        exact idle

/-- Where the workers have nothing to do once the join has waited for them or has given
the job up, nothing begins any more. -/
theorem idle_act
    [Mergeable σ]
    {action : Action}
    (acts : pipeline.act setup action = some next)
    (idle : (pipeline.phase.isIdle || pipeline.phase.isGivenUp) = true)
    (drained : pipeline.queue = [])
    (quiet : pipeline.running = []) :
    next.queue = [] ∧ next.running = [] ∧
      next.effects.visited = pipeline.effects.visited := by
  cases action with
  | read stream =>
      cases reads_of_read acts with
      | primary | channel => exact ⟨drained, quiet, rfl⟩
  | join =>
      cases joins_of_join acts with
      | abandons error phase => exact ⟨rfl, quiet, rfl⟩
      | ends error phase => exact ⟨drained, quiet, rfl⟩
      | skips item rest phase | meets item rest live phase
      | chokes item rest error phase | drains phase | breaks error phase
      | moves _ _ _ _ _ _ _ phase | passes _ _ _ _ _ _ _ phase
      | fails _ _ _ _ _ _ phase | completes _ _ _ phase | deletes _ _ _ phase
      | queues _ phase | inlines _ phase | resumes phase | stops phase =>
          rw [phase] at idle
          cases idle
  | release order =>
      cases releases_of_release acts with
      | refused | merged | plain => exact ⟨drained, quiet, rfl⟩
  | pick =>
      obtain ⟨view, rest, queue, rfl⟩ := pick_eq_some acts
      rw [drained] at queue
      cases queue
  | work position => simp [act, work, quiet] at acts
  | breakOff position =>
      obtain ⟨-, within, -⟩ := breakOff_eq_some acts
      rw [quiet] at within
      cases within
  | expire =>
      obtain ⟨phase, rfl, -, -⟩ := expire_eq_some acts
      exact ⟨drained, quiet, rfl⟩

/-- A job that has been given up stays so. -/
theorem isGivenUp_act
    [Mergeable σ]
    {action : Action}
    (acts : pipeline.act setup action = some next)
    (givenUp : pipeline.phase.isGivenUp = true) :
    next.phase.isGivenUp = true := by
  cases before : pipeline.phase with
  | ended result =>
      rw [ended_act before acts, ← before]
      exact givenUp
  | abandoning error =>
      rw [before] at givenUp
      rcases phase_act acts with same | ⟨-, joins⟩ | ⟨order, releases⟩ | expires
      · rw [same, before]
        exact givenUp
      · cases joins with
        | ends other phase =>
            cases before.symm.trans phase
            exact givenUp
        | skips item rest phase | meets item rest live phase
        | chokes item rest error phase | drains phase | breaks error phase
        | moves _ _ _ _ _ _ _ phase | passes _ _ _ _ _ _ _ phase
        | fails _ _ _ _ _ _ phase | completes _ _ _ phase
        | deletes _ _ _ phase | queues _ phase | inlines _ phase
        | resumes phase | stops phase | abandons error phase =>
            cases before.symm.trans phase
      · cases releases with
        | refused fault phase | merged phase | plain phase =>
            cases before.symm.trans phase
      · cases expires with
        | stalls stream waits => simp [before] at waits
        | lasts component waits => simp [before] at waits
        | deserts other phase =>
            cases before.symm.trans phase
            exact givenUp
  | probing | seeking | submitting | inlining | draining | stopping | failing =>
      rw [before] at givenUp
      cases givenUp

/-- Nothing waits for a worker once a job has been given up. -/
theorem shut_act
    [Mergeable σ]
    {action : Action}
    (acts : pipeline.act setup action = some next)
    (shut : pipeline.phase.isGivenUp = true -> pipeline.queue = [])
    (givenUp : next.phase.isGivenUp = true) :
    next.queue = [] := by
  cases action with
  | read stream =>
      cases reads_of_read acts with
      | primary | channel => exact shut givenUp
  | join =>
      cases joins_of_join acts with
      | abandons => rfl
      | ends error phase =>
          rw [phase] at shut
          exact shut givenUp
      | skips | moves => exact shut givenUp
      | meets | chokes | drains | breaks | passes | fails | completes
      | deletes | queues | inlines | resumes | stops => cases givenUp
  | release order =>
      cases releases_of_release acts with
      | refused | plain => cases givenUp
      | merged =>
          cases merges : (pipeline.effects.store.mergeInOrder order).1.isSome <;>
            simp [merges, JoinPhase.isGivenUp, JobError.isFatal] at givenUp
  | pick =>
      obtain ⟨view, rest, queue, rfl⟩ := pick_eq_some acts
      have none := shut givenUp
      rw [queue] at none
      cases none
  | work position =>
      cases works_of_work acts with
      | writes | finishes => exact shut givenUp
  | breakOff position =>
      obtain ⟨-, -, rfl⟩ := breakOff_eq_some acts
      exact shut givenUp
  | expire =>
      cases expires_of_expire acts with
      | stalls | lasts => cases givenUp
      | deserts error phase =>
          rw [phase] at shut
          exact shut givenUp

/-- A join that has released the context does not go back to its workers. -/
theorem isReleased_act
    [Mergeable σ]
    {action : Action}
    (acts : pipeline.act setup action = some next)
    (released : pipeline.phase.isReleased = true) :
    next.phase.isReleased = true := by
  rcases phase_act acts with same | ⟨-, joins⟩ | ⟨order, releases⟩ | expires
  · exact same ▸ released
  · cases joins with
    | abandons error phase | ends error phase =>
        rw [phase] at released
        exact released
    | skips item rest phase | meets item rest live phase
    | chokes item rest error phase | drains phase | breaks error phase
    | moves _ _ _ _ _ _ _ phase | passes _ _ _ _ _ _ _ phase
    | fails _ _ _ _ _ _ phase | completes _ _ _ phase | deletes _ _ _ phase
    | queues _ phase | inlines _ phase | resumes phase | stops phase =>
        rw [phase] at released
        cases released
  · cases releases with
    | refused fault phase | merged phase | plain phase =>
        rw [phase] at released
        cases released
  · cases expires with
    | deserts error phase =>
        rw [phase] at released
        exact released
    | stalls stream waits =>
        rcases waits with phase | ⟨_, _, _, _, phase⟩ <;>
          simp [phase, JoinPhase.isReleased] at released
    | lasts component waits =>
        rcases waits with phase | phase <;>
          simp [phase, JoinPhase.isReleased] at released

/-- The context is released while the join stops, or at the end of a job that has been
given up. -/
theorem phase_of_releasing
    [Mergeable σ]
    {action : Action}
    (acts : pipeline.act setup action = some next)
    (releases : next.events = pipeline.events ++ [.released]) :
    pipeline.phase = .stopping ∧ next.phase.isReleased = true ∨
      ∃ error, pipeline.phase = .abandoning error ∧
        next.phase = .ended (.error error) := by
  have once := congrArg (List.count ContextEvent.released) releases
  rw [List.count_append, List.count_singleton_self] at once
  rcases phase_act acts with same | ⟨-, joins⟩ | ⟨order, made⟩ | expires
  · have balance := released_act acts
    rw [same] at balance
    omega
  · cases joins with
    | ends error phase => exact Or.inr ⟨error, phase, rfl⟩
    | skips | meets | chokes | drains | breaks | moves | passes | fails
    | completes | deletes | queues | inlines | resumes | stops | abandons =>
        exact absurd once.symm (Nat.succ_ne_self _)
  · cases made with
    | refused fault phase | plain phase => exact Or.inl ⟨phase, rfl⟩
    | merged phase =>
        refine Or.inl ⟨phase, ?_⟩
        cases merges : (pipeline.effects.store.mergeInOrder order).1.isSome <;>
          rfl
  · cases expires with
    | stalls | lasts | deserts => exact absurd once.symm (Nat.succ_ne_self _)

/-- A view is handed to the workers only by a join that is submitting it. -/
theorem dispatches_of_givenUp
    (givenUp : pipeline.phase.isGivenUp = true)
    (action : Action) :
    pipeline.dispatches action = [] := by
  unfold dispatches
  split
  · split
    · next view phase =>
      rw [phase] at givenUp
      cases givenUp
    · rfl
  · rfl

end Phases
end Pipeline

namespace Lifetime

variable
  {σ ρ : Type}
  [Mergeable σ]
  {setup : Setup σ ρ}
  {closeFault : Nat -> Option StorageError}
  {lifetime next : Lifetime σ ρ}

/-- The workers have nothing to do, and nothing was taken from them. -/
structure Quiet (lifetime : Lifetime σ ρ) : Prop where
  drained : lifetime.pipeline.queue = []
  idle : lifetime.pipeline.running = []
  left : lifetime.left = []
  broken : lifetime.broken = []

/-- It is known what has become of each vertex handed over. -/
structure Accounted (lifetime : Lifetime σ ρ) : Prop where
  submitted : lifetime.pipeline.account.views.Perm
    (lifetime.pipeline.handed ++ lifetime.left)
  visited : lifetime.pipeline.effects.visited.Perm
    (lifetime.pipeline.running.map Running.visited ++ lifetime.completed ++
      lifetime.broken)
  quiet : lifetime.pipeline.phase.isIdle = true -> lifetime.Quiet
  whole : lifetime.pipeline.phase.isGivenUp = false ->
    lifetime.calledOff = false ->
      lifetime.left = [] ∧ lifetime.broken = []
  shut : lifetime.pipeline.phase.isGivenUp = true ->
    lifetime.pipeline.queue = []

/-- Only giving a job up for an error that the join ran into leaves vertices behind or
breaks runs off. -/
theorem Accounted.spares
    {action : Pipeline.Action}
    {pipeline : Pipeline σ ρ}
    (accounted : lifetime.Accounted)
    (acts : lifetime.pipeline.act setup action = some pipeline)
    (kept : pipeline.phase.isGivenUp = false) :
    lifetime.pipeline.leaves action = [] ∧
      lifetime.pipeline.breaksOff action = [] := by
  cases action with
  | read | release | pick | work | expire => exact ⟨rfl, rfl⟩
  | join =>
      refine ⟨?_, rfl⟩
      unfold Pipeline.leaves
      dsimp only
      split
      · next error failing =>
        have harmless : error.isFatal = false := by
          simp only [Pipeline.act, Pipeline.join, failing,
            Option.some.injEq] at acts
          subst acts
          exact kept
        exact (accounted.quiet
          (by rw [failing, JoinPhase.isIdle, harmless]; rfl)).drained
      · rfl
  | breakOff position =>
      refine ⟨rfl, ?_⟩
      obtain ⟨⟨error, phase⟩, within, rfl⟩ := Pipeline.breakOff_eq_some acts
      have idle : lifetime.pipeline.phase.isIdle = true := by
        rcases phase with phase | phase <;>
          · simp only [phase, JoinPhase.isGivenUp] at kept
            rw [phase, JoinPhase.isIdle, kept]
            rfl
      rw [(accounted.quiet idle).idle] at within
      cases within

omit [Mergeable σ] in
/-- Where no vertex waits, none is left behind. -/
theorem leaves_of_drained
    (drained : lifetime.pipeline.queue = [])
    (action : Pipeline.Action) :
    lifetime.pipeline.leaves action = [] := by
  unfold Pipeline.leaves
  split
  · split
    · exact drained
    · rfl
  · rfl

omit [Mergeable σ] in
/-- Where nothing is being run, nothing is broken off. -/
theorem breaksOff_of_idle
    (idle : lifetime.pipeline.running = [])
    (action : Pipeline.Action) :
    lifetime.pipeline.breaksOff action = [] := by
  unfold Pipeline.breaksOff
  split
  · rw [Pipeline.runAt, idle]
    rfl
  · rfl

/-- Once the join has waited for its workers, they have nothing to do. -/
theorem Accounted.quiet_note
    {action : Pipeline.Action}
    {pipeline : Pipeline σ ρ}
    (accounted : lifetime.Accounted)
    (lasts : lifetime.calledOff = true -> action.outlasts = true)
    (acts : lifetime.pipeline.act setup action = some pipeline)
    (idle : pipeline.phase.isIdle = true) :
    (lifetime.note closeFault action pipeline).Quiet := by
  have before : lifetime.Quiet ∧ pipeline.queue = [] ∧ pipeline.running = [] := by
    rcases Pipeline.isIdle_of_act acts idle with
      already | ⟨drained, quiet, phase, rfl⟩
    · have quiet := accounted.quiet already
      have next := Pipeline.idle_act acts (by rw [already]; rfl) quiet.drained
        quiet.idle
      exact ⟨quiet, next.1, next.2.1⟩
    · have kept : lifetime.calledOff = false := by
        rw [Bool.eq_false_iff]
        intro calledOff
        cases lasts calledOff
      obtain ⟨left, broken⟩ := accounted.whole (by rw [phase]; rfl) kept
      simp only [Pipeline.act, Pipeline.join, phase, drained, quiet,
        List.isEmpty_nil, Bool.and_self, if_true, Option.some.injEq] at acts
      subst acts
      exact ⟨⟨drained, quiet, left, broken⟩, drained, quiet⟩
  obtain ⟨quiet, drained, still⟩ := before
  refine ⟨drained, still, ?_, ?_⟩
  · simp only [Lifetime.note, quiet.left, leaves_of_drained quiet.drained,
      List.append_nil]
  · simp only [Lifetime.note, quiet.broken, breaksOff_of_idle quiet.idle,
      List.append_nil]

/-- An action in a job keeps the account. -/
theorem Accounted.note
    {action : Pipeline.Action}
    {pipeline : Pipeline σ ρ}
    (accounted : lifetime.Accounted)
    (lasts : lifetime.calledOff = true -> action.outlasts = true)
    (acts : lifetime.pipeline.act setup action = some pipeline) :
    (lifetime.note closeFault action pipeline).Accounted := by
  refine ⟨?_, ?_, accounted.quiet_note lasts acts, fun spared kept => ?_,
    Pipeline.shut_act acts accounted.shut⟩
  · have handed := (Pipeline.handed_leaves_act acts).symm
    change pipeline.account.views.Perm
      (pipeline.handed ++ (lifetime.left ++ lifetime.pipeline.leaves action))
    rw [Pipeline.views_act acts]
    classical
    rw [List.perm_iff_count] at handed ⊢
    intro view
    have submitted := accounted.submitted.count_eq view
    have moved := handed view
    simp only [List.count_append] at submitted moved ⊢
    omega
  · obtain ⟨begun, visited, running⟩ := Pipeline.running_act acts
    change pipeline.effects.visited.Perm
      (pipeline.running.map Running.visited ++
          (lifetime.completed ++ lifetime.pipeline.completes action) ++
        (lifetime.broken ++ lifetime.pipeline.breaksOff action))
    rw [visited]
    classical
    rw [List.perm_iff_count] at running ⊢
    intro run
    have before := accounted.visited.count_eq run
    have moved := running run
    simp only [List.count_append] at before moved ⊢
    omega
  · have before : lifetime.pipeline.phase.isGivenUp = false := by
      rw [Bool.eq_false_iff]
      intro givenUp
      have after : pipeline.phase.isGivenUp = true :=
        Pipeline.isGivenUp_act acts givenUp
      exact Bool.false_ne_true (spared.symm.trans after)
    obtain ⟨left, broken⟩ := accounted.whole before kept
    obtain ⟨none, nothing⟩ := accounted.spares acts spared
    simp only [Lifetime.note, left, broken, none, nothing]
    exact ⟨rfl, rfl⟩

/-- Whatever happens, it stays known what has become of each vertex handed over. -/
theorem Accounted.act
    {action : Action}
    (accounted : lifetime.Accounted)
    (acts : lifetime.act setup closeFault action = some next) :
    next.Accounted := by
  cases acts_of_act acts with
  | goes action pipeline lasts moves => exact accounted.note lasts moves
  | callsOff kept going =>
      obtain ⟨submitted, visited, quiet, whole, shut⟩ := accounted
      refine ⟨?_, visited, fun idle => ?_, nofun, fun _ => rfl⟩
      · refine submitted.trans ?_
        simp only [Pipeline.handed, Pipeline.cancelReaders, List.append_nil,
          List.append_assoc]
        exact List.perm_append_comm.append_left _
      · obtain ⟨drained, still, left, broken⟩ := quiet idle
        exact ⟨rfl, still, by simp only [left, drained, List.append_nil], broken⟩
  | lingers view rest waits =>
      obtain ⟨submitted, visited, quiet, whole, shut⟩ := accounted
      refine ⟨?_, ?_, fun idle => ?_, fun spared kept => ?_, shut⟩
      · refine submitted.trans ?_
        rw [waits]
        simp only [Pipeline.handed, Pipeline.launch, Effects.note,
          List.map_append, List.append_assoc, List.map_cons, List.map_nil]
        exact List.perm_middle.append_left _
      · classical
        rw [List.perm_iff_count]
        intro run
        have before := visited.count_eq run
        simp only [Pipeline.launch, Effects.note, Running.start,
          List.map_append, List.map_cons, List.map_nil,
          List.count_append] at before ⊢
        omega
      · have none := (quiet idle).left
        rw [waits] at none
        cases none
      · have none := (whole spared kept).1
        rw [waits] at none
        cases none
  | drops position calledOff within =>
      obtain ⟨submitted, visited, quiet, whole, shut⟩ := accounted
      refine ⟨submitted, ?_, fun idle => ?_, fun spared kept => ?_, shut⟩
      · have perm := lifetime.pipeline.runAt_perm position
        classical
        rw [List.perm_iff_count] at perm ⊢
        intro run
        have before := visited.count_eq run
        have moved := perm run
        simp only [List.count_append] at before moved ⊢
        omega
      · rw [(quiet idle).idle] at within
        cases within
      · rw [calledOff] at kept
        cases kept

/-! ## When the read context is released -/

/-- All vertices handed over have been run to their ends, and the workers have nothing
to do. -/
structure Finished (lifetime : Lifetime σ ρ) : Prop
    extends Quiet lifetime where
  done : lifetime.pipeline.account.views.Perm
    (lifetime.completed.map Visited.view)

/-- Nothing waits for the workers, and each vertex handed over has been run to its end,
has been broken off, is still being run, or was left behind. -/
structure Scattered (lifetime : Lifetime σ ρ) : Prop where
  shut : lifetime.pipeline.queue = []
  parts : lifetime.pipeline.account.views.Perm
    (lifetime.completed.map Visited.view ++ lifetime.broken.map Visited.view ++
      (lifetime.pipeline.running.map Running.visited).map Visited.view ++
      lifetime.left)

omit [Mergeable σ] in
theorem Accounted.finished
    (accounted : lifetime.Accounted)
    (idle : lifetime.pipeline.phase.isIdle = true) :
    lifetime.Finished := by
  have quiet := accounted.quiet idle
  have submitted := accounted.submitted
  have visited := accounted.visited
  rw [quiet.idle, quiet.broken, List.map_nil, List.nil_append,
    List.append_nil] at visited
  rw [Pipeline.handed, quiet.drained, quiet.left, List.append_nil,
    List.append_nil] at submitted
  exact ⟨quiet, submitted.trans (visited.map Visited.view)⟩

omit [Mergeable σ] in
theorem Accounted.scattered
    (accounted : lifetime.Accounted)
    (givenUp : lifetime.pipeline.phase.isGivenUp = true) :
    lifetime.Scattered := by
  have shut := accounted.shut givenUp
  refine ⟨shut, ?_⟩
  have submitted := accounted.submitted
  rw [Pipeline.handed, shut, List.append_nil] at submitted
  refine submitted.trans (List.Perm.append_right _ ?_)
  refine (accounted.visited.map Visited.view).trans ?_
  rw [List.map_append, List.map_append, List.append_assoc]
  exact List.perm_append_comm

/-- A release of the context is an action of the job itself, while the join stops or at
the end of a job that has been given up. -/
theorem phase_of_releasing
    {action : Action}
    (acts : lifetime.act setup closeFault action = some next)
    (releases : next.pipeline.events =
      lifetime.pipeline.events ++ [.released]) :
    lifetime.pipeline.phase = .stopping ∧ next.pipeline.phase.isReleased = true ∨
      ∃ error, lifetime.pipeline.phase = .abandoning error ∧
        next.pipeline.phase = .ended (.error error) := by
  cases acts_of_act acts with
  | goes action pipeline lasts moves =>
      exact Pipeline.phase_of_releasing moves releases
  | callsOff | lingers | drops =>
      have longer := congrArg List.length releases
      rw [List.length_append] at longer
      exact absurd longer.symm (Nat.succ_ne_self _)

/-- Once the join has waited for its workers, nothing begins any more. -/
theorem visited_of_idle
    {action : Action}
    (accounted : lifetime.Accounted)
    (idle : lifetime.pipeline.phase.isIdle = true)
    (acts : lifetime.act setup closeFault action = some next) :
    next.pipeline.effects.visited = lifetime.pipeline.effects.visited := by
  have quiet := accounted.quiet idle
  cases acts_of_act acts with
  | goes action pipeline lasts moves =>
      exact (Pipeline.idle_act moves (by rw [idle]; rfl) quiet.drained
        quiet.idle).2.2
  | callsOff | drops => rfl
  | lingers view rest waits =>
      rw [quiet.left] at waits
      cases waits

/-- A job that has released its context after its workers were done begins no further
run. -/
theorem released_act
    {action : Action}
    {runs : List (Visited σ ρ)}
    (done : lifetime.Accounted ∧
      lifetime.pipeline.phase.isReleased = true ∧
        lifetime.pipeline.effects.visited = runs)
    (acts : lifetime.act setup closeFault action = some next) :
    next.Accounted ∧ next.pipeline.phase.isReleased = true ∧
      next.pipeline.effects.visited = runs := by
  obtain ⟨accounted, released, visited⟩ := done
  have same := visited_of_idle accounted
    (JoinPhase.isIdle_of_isReleased released) acts
  refine ⟨accounted.act acts, ?_, same.trans visited⟩
  cases acts_of_act acts with
  | goes action pipeline lasts moves =>
      exact Pipeline.isReleased_act moves released
  | callsOff | lingers | drops => exact released

/-- A job that has been given up stays so, and is handed no further view. -/
theorem givenUp_act
    {action : Action}
    {views : List View}
    (givenUp : lifetime.Accounted ∧
      lifetime.pipeline.phase.isGivenUp = true ∧
        lifetime.pipeline.account.views = views)
    (acts : lifetime.act setup closeFault action = some next) :
    next.Accounted ∧ next.pipeline.phase.isGivenUp = true ∧
      next.pipeline.account.views = views := by
  obtain ⟨accounted, lost, same⟩ := givenUp
  refine ⟨accounted.act acts, ?_⟩
  cases acts_of_act acts with
  | goes action pipeline lasts moves =>
      refine ⟨Pipeline.isGivenUp_act moves lost, ?_⟩
      have views := Pipeline.views_act moves
      rw [Pipeline.dispatches_of_givenUp lost, List.append_nil] at views
      exact views.trans same
  | callsOff | lingers | drops => exact ⟨lost, same⟩

/-- The job has been given up, and there is nothing left that its workers could do. -/
structure Vacant (lifetime : Lifetime σ ρ) : Prop where
  accounted : lifetime.Accounted
  givenUp : lifetime.pipeline.phase.isGivenUp = true
  idle : lifetime.pipeline.running = []
  left : lifetime.left = []

/-- Workers that have nothing left to do after the job was given up are given nothing. -/
theorem Vacant.act
    {action : Action}
    (vacant : lifetime.Vacant)
    (acts : lifetime.act setup closeFault action = some next) :
    next.Vacant := by
  obtain ⟨accounted, givenUp, idle, left⟩ := vacant
  have drained := accounted.shut givenUp
  obtain ⟨accounts, stays, -⟩ := givenUp_act ⟨accounted, givenUp, rfl⟩ acts
  have rests : next.pipeline.running = [] ∧ next.left = [] := by
    cases acts_of_act acts with
    | goes action pipeline lasts moves =>
        have quiet := Pipeline.idle_act moves (by rw [givenUp, Bool.or_true])
          drained idle
        refine ⟨quiet.2.1, ?_⟩
        simp only [note, left, leaves_of_drained drained, List.append_nil]
    | callsOff =>
        exact ⟨idle, by simp only [left, drained, List.append_nil]⟩
    | lingers view rest waits =>
        rw [left] at waits
        cases waits
    | drops position calledOff within =>
        rw [idle] at within
        cases within
  exact ⟨accounts, stays, rests.1, rests.2⟩

/-- A vertex that was left behind may be taken up when no worker runs the program. -/
theorem exists_linger
    (staffed : 0 < setup.workers)
    (idle : lifetime.pipeline.running = [])
    (waits : lifetime.left ≠ []) :
    ∃ later, lifetime.act setup closeFault .linger = some later ∧
      later.pipeline.running ≠ [] := by
  obtain ⟨view, rest, left⟩ := List.exists_cons_of_ne_nil waits
  have free : lifetime.pipeline.busy < setup.workers := by
    rw [Pipeline.busy, idle]
    exact staffed
  refine ⟨_, by simp only [act, linger, left, free, if_true]; rfl, ?_⟩
  simp [Pipeline.launch]

end Lifetime
end GraphSweep
