import GraphSweep.Proofs.Pipeline.Faithful
import GraphSweep.Proofs.Pipeline.Progress

/-!
# Jobs under way that end well

A job that has been given up, be it because a wait ran out or because siblings could
not be merged, ends with an error whatever happens. So a job that has ended well has
kept to its forecast all the way, and nothing needs to be known about its schedule.
-/

namespace GraphSweep

namespace JoinPhase

/-- Whether the job is bound to end with an error. -/
def isDoomed : JoinPhase -> Bool
  | failing _ | abandoning _ | ended (.error _) => true
  | probing | seeking _ _ _ _ | submitting _ | inlining | draining | stopping
  | ended (.ok _) => false

end JoinPhase

namespace Pipeline

variable
  {σ ρ : Type}
  {setup : Setup σ ρ}
  {pipeline next : Pipeline σ ρ}

/-- When a wait has run out, the job is bound to end with an error. -/
theorem isDoomed_of_expire (acts : pipeline.expire setup = some next) :
    next.phase.isDoomed = true := by
  obtain ⟨phase, rfl, ⟨error, rfl | rfl⟩, -⟩ := expire_eq_some acts <;> rfl

/-- The join does not go back to a job that is bound to end with an error. -/
theorem isDoomed_of_joins
    (doomed : pipeline.phase.isDoomed = true)
    (joins : pipeline.Joins setup next) :
    next.phase.isDoomed = true := by
  cases joins with
  | abandons | ends => rfl
  | skips item rest phase | meets item rest live phase
  | chokes item rest error phase | drains phase | breaks error phase
  | moves id live fetched position channel moved dropped phase
  | passes id live fetched position channel passed entries phase
  | fails id live fetched position channel error phase
  | completes id fetched position phase | deletes id fetched position phase
  | queues view phase | inlines view phase | resumes phase | stops phase =>
      rw [phase] at doomed
      cases doomed

section Act

variable [Mergeable σ]

/-- Whatever happens in a job that is bound to end with an error, it stays so. -/
theorem isDoomed_act
    {action : Action}
    (doomed : pipeline.phase.isDoomed = true)
    (acts : pipeline.act setup action = some next) :
    next.phase.isDoomed = true := by
  cases action with
  | read stream =>
      cases reads_of_read acts with
      | primary | channel => exact doomed
  | join => exact isDoomed_of_joins doomed (joins_of_join acts)
  | release order =>
      cases releases_of_release acts with
      | refused fault phase | merged phase | plain phase =>
          rw [phase] at doomed
          cases doomed
  | pick =>
      obtain ⟨view, rest, queue, rfl⟩ := pick_eq_some acts
      exact doomed
  | work position =>
      cases works_of_work acts with
      | writes | finishes => exact doomed
  | breakOff position =>
      obtain ⟨-, -, rfl⟩ := breakOff_eq_some acts
      exact doomed
  | expire => exact isDoomed_of_expire acts

theorem isDoomed_follow
    {actions : List Action}
    (doomed : pipeline.phase.isDoomed = true)
    (follows : pipeline.follow setup actions = some next) :
    next.phase.isDoomed = true := by
  induction actions generalizing pipeline with
  | nil =>
      cases follows
      exact doomed
  | cons action actions hypothesis =>
      rw [follow_cons] at follows
      obtain ⟨middle, acts, follows⟩ := Option.bind_eq_some_iff.1 follows
      exact hypothesis (isDoomed_act doomed acts) follows

/-- A job that is not bound to end with an error has not been so before. -/
theorem isDoomed_of_follow
    {actions : List Action}
    (follows : pipeline.follow setup actions = some next)
    (sound : next.phase.isDoomed = false) :
    pipeline.phase.isDoomed = false := by
  rw [Bool.eq_false_iff]
  intro doomed
  rw [isDoomed_follow doomed follows] at sound
  cases sound

variable
  {start : Effects σ ρ}
  {foreseen : Except JobError Account}

/-- Whatever happens, a job keeps to its forecast unless it is bound to end with an
error from then on. -/
theorem Faithful.act_of_sound
    {action : Action}
    (faithful : pipeline.Faithful setup start foreseen)
    (acts : pipeline.act setup action = some next)
    (sound : next.phase.isDoomed = false) :
    next.Faithful setup start foreseen := by
  have punctual : action ≠ .expire := by
    rintro rfl
    rw [isDoomed_of_expire acts] at sound
    cases sound
  rcases faithful.act_or_loses punctual acts with kept | loses
  · exact kept
  · rw [loses.lost] at sound
    cases sound

/-- A job that is not bound to end with an error has kept to its forecast. -/
theorem Faithful.follow_of_sound
    {actions : List Action}
    (faithful : pipeline.Faithful setup start foreseen)
    (follows : pipeline.follow setup actions = some next)
    (sound : next.phase.isDoomed = false) :
    next.Faithful setup start foreseen := by
  induction actions generalizing pipeline with
  | nil =>
      cases follows
      exact faithful
  | cons action actions hypothesis =>
      rw [follow_cons] at follows
      obtain ⟨middle, acts, follows⟩ := Option.bind_eq_some_iff.1 follows
      have soundMiddle := isDoomed_of_follow follows sound
      exact hypothesis (faithful.act_of_sound acts soundMiddle) follows

/-- A job that is bound to succeed does not end before it releases its read context. -/
theorem Faithful.going_of_quiet
    {action : Action}
    {final : Account}
    (faithful : pipeline.Faithful setup start (.ok final))
    (going : ∀ result, pipeline.phase ≠ .ended result)
    (quiet : action.isQuiet)
    (acts : pipeline.act setup action = some next) :
    ∀ result, next.phase ≠ .ended result := by
  cases action with
  | release | expire => cases quiet
  | read stream =>
      cases reads_of_read acts with
      | primary | channel => exact going
  | join =>
      cases joins_of_join acts with
      | ends error phase =>
          have foretold := faithful.foretold
          rw [forecast, phase] at foretold
          cases foretold
      | skips | moves => exact going
      | meets | chokes | drains | breaks | passes | fails | completes | deletes
      | queues | inlines | resumes | stops | abandons =>
          intro result ended
          cases ended
  | pick =>
      obtain ⟨view, rest, queue, rfl⟩ := pick_eq_some acts
      exact going
  | work position =>
      cases works_of_work acts with
      | writes | finishes => exact going
  | breakOff position =>
      obtain ⟨-, -, rfl⟩ := breakOff_eq_some acts
      exact going

/-- A job that is bound to succeed can come to have nothing left to do but to release its
read context. -/
theorem Faithful.exists_follow_ready
    {final : Account}
    (faithful : pipeline.Faithful setup start (.ok final))
    (roomy : 0 < setup.capacity)
    (staffed : 0 < setup.workers)
    (told : pipeline.Told)
    (going : ∀ result, pipeline.phase ≠ .ended result) :
    ∃ actions last, (∀ action ∈ actions, action.isQuiet) ∧
      pipeline.follow setup actions = some last ∧
      last.Faithful setup start (.ok final) ∧ last.IsReady := by
  have goesOn {pipeline : Pipeline σ ρ}
      (holds : pipeline.Faithful setup start (.ok final) ∧ pipeline.Told ∧
        ∀ result, pipeline.phase ≠ .ended result)
      (waits : ¬pipeline.IsReady) :
      ∃ action next, action.isQuiet ∧
        pipeline.act setup action = some next ∧
        next.Faithful setup start (.ok final) ∧ next.Told ∧
          ∀ result, next.phase ≠ .ended result := by
    obtain ⟨faithful, told, going⟩ := holds
    obtain ⟨action, quiet, goes⟩ :=
      canGoOn_of_not_ready roomy staffed told going waits
    obtain ⟨next, acts⟩ := Option.isSome_iff_exists.1 goes
    exact ⟨action, next, quiet, acts, faithful.act_of_quiet quiet acts,
      told.act acts, faithful.going_of_quiet going quiet acts⟩
  obtain ⟨actions, last, quiet, follows, ⟨kept, -⟩, ready⟩ :=
    exists_follow_of_goesOn goesOn ⟨faithful, told, going⟩
  exact ⟨actions, last, quiet, follows, kept, ready⟩

end Act
end Pipeline
end GraphSweep
