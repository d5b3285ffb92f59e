import GraphSweep.Proofs.Pipeline.Record

/-!
# What holds throughout the lifetime of a job

What a job does to its read context stays in order whatever happens in its lifetime, and
streams that fail to close make no difference to it.
-/

namespace GraphSweep

namespace Lifetime

variable
  {σ ρ : Type}
  [Mergeable σ]
  {setup : Setup σ ρ}
  {closeFault : Nat -> Option StorageError}
  {lifetime next : Lifetime σ ρ}

theorem follow_cons
    (action : Action)
    (actions : List Action) :
    lifetime.follow setup closeFault (action :: actions) =
      (lifetime.act setup closeFault action).bind fun next =>
        next.follow setup closeFault actions := rfl

/-- What every action keeps, all actions keep. -/
theorem follow_induction
    (Keeps : Lifetime σ ρ -> Prop)
    (step : ∀ {before after : Lifetime σ ρ} {action : Action},
      Keeps before -> before.act setup closeFault action = some after ->
        Keeps after)
    {actions : List Action}
    (holds : Keeps lifetime)
    (follows : lifetime.follow setup closeFault actions = some next) :
    Keeps next := by
  induction actions generalizing lifetime with
  | nil =>
      cases follows
      exact holds
  | cons action actions hypothesis =>
      rw [follow_cons] at follows
      obtain ⟨middle, acts, follows⟩ := Option.bind_eq_some_iff.1 follows
      exact hypothesis (step holds acts) follows

/-- All that an action in the lifetime of a job can be. -/
inductive Acts
    (setup : Setup σ ρ)
    (closeFault : Nat -> Option StorageError)
    (lifetime : Lifetime σ ρ) : Action -> Lifetime σ ρ -> Prop
  | goes
      (action : Pipeline.Action)
      (pipeline : Pipeline σ ρ)
      (lasts : lifetime.calledOff = true -> action.outlasts = true)
      (acts : lifetime.pipeline.act setup action = some pipeline) :
      Acts setup closeFault lifetime (.go action)
        (lifetime.note closeFault action pipeline)
  | callsOff
      (kept : lifetime.calledOff = false)
      (going : lifetime.pipeline.phase.hasEnded = false) :
      Acts setup closeFault lifetime .callOff { lifetime with
        pipeline := { lifetime.pipeline.cancelReaders with queue := [] }
        calledOff := true
        left := lifetime.left ++ lifetime.pipeline.queue }
  | lingers
      (view : View)
      (rest : List View)
      (waits : lifetime.left = view :: rest) :
      Acts setup closeFault lifetime .linger { lifetime with
        pipeline := lifetime.pipeline.launch setup view false
        left := rest }
  | drops
      (position : Nat)
      (calledOff : lifetime.calledOff = true)
      (within : position < lifetime.pipeline.running.length) :
      Acts setup closeFault lifetime (.drop position) { lifetime with
        pipeline := { lifetime.pipeline with
          running := lifetime.pipeline.running.eraseIdx position }
        broken := lifetime.broken ++ lifetime.pipeline.runAt position }

theorem acts_of_act
    {action : Action}
    (acts : lifetime.act setup closeFault action = some next) :
    lifetime.Acts setup closeFault action next := by
  cases action with
  | go action =>
      simp only [act, go] at acts
      split at acts
      · cases acts
      · next lasts =>
        obtain ⟨pipeline, moves, rfl⟩ := Option.map_eq_some_iff.1 acts
        refine Acts.goes action pipeline (fun calledOff => ?_) moves
        simpa [calledOff] using lasts
  | callOff =>
      simp only [act, callOff] at acts
      split at acts
      · cases acts
      · next going =>
        cases acts
        rw [Bool.or_eq_true, not_or, Bool.not_eq_true, Bool.not_eq_true] at going
        exact Acts.callsOff going.1 going.2
  | linger =>
      simp only [act, linger] at acts
      split at acts
      · cases acts
      · next view rest waits =>
        split at acts
        · cases acts
          exact Acts.lingers view rest waits
        · cases acts
  | drop position =>
      simp only [act, drop] at acts
      split at acts
      · next ready =>
        cases acts
        rw [Bool.and_eq_true, decide_eq_true_eq] at ready
        exact Acts.drops position ready.1 ready.2
      · cases acts

/-! ## The read context -/

/-- Whatever happens, what a job does to its read context stays in order. -/
theorem kept_act
    {action : Action}
    (kept : lifetime.pipeline.Kept)
    (acts : lifetime.act setup closeFault action = some next) :
    next.pipeline.Kept := by
  cases acts_of_act acts with
  | goes action pipeline lasts moves => exact kept.act moves
  | callsOff =>
      obtain ⟨named, records⟩ := kept
      refine ⟨named.of_streams List.map_map, ?_⟩
      have same : lifetime.pipeline.cancelReaders.closures =
          lifetime.pipeline.closures := Pipeline.closures_cancelReaders
      exact same ▸ records
  | lingers | drops => exact ⟨kept.named, kept.records⟩

/-- How often the context has been released follows from what the join is about to do,
and from whether the job has ended without its readers. -/
structure Counted (lifetime : Lifetime σ ρ) : Prop where
  released : lifetime.pipeline.events.count .released +
    lifetime.deserted.toNat = lifetime.pipeline.phase.releases
  gone : lifetime.deserted = true ->
    ∃ error, lifetime.pipeline.phase = .ended (.error error)

theorem Counted.act
    {action : Action}
    (counted : lifetime.Counted)
    (acts : lifetime.act setup closeFault action = some next) :
    next.Counted := by
  obtain ⟨released, gone⟩ := counted
  cases acts_of_act acts with
  | callsOff | lingers | drops => exact ⟨released, gone⟩
  | goes action pipeline lasts moves =>
      have balance := Pipeline.released_act moves
      by_cases deserted : lifetime.deserted = true
      · obtain ⟨error, ended⟩ := gone deserted
        have after := Pipeline.ended_act ended moves
        have once : lifetime.pipeline.deserts action = false := by
          unfold Pipeline.deserts
          rw [ended]
          split <;> rfl
        refine ⟨?_, fun _ => ⟨error, after⟩⟩
        simp only [note, deserted, once, Bool.or_false, Bool.toNat_true,
          Bool.toNat_false, ended, after] at released balance ⊢
        omega
      · rw [Bool.not_eq_true] at deserted
        refine ⟨?_, fun leaves => ?_⟩
        · simp only [note, deserted, Bool.false_or, Bool.toNat_false] at released ⊢
          omega
        · simp only [note, deserted, Bool.false_or] at leaves
          exact Pipeline.ended_of_deserts leaves moves

omit [Mergeable σ] in
/-- A job that has been answered, and has not been deserted, has released its context
as often as its answer tells. -/
theorem Counted.released_of_answered
    {result : Except JobError Tally}
    (counted : lifetime.Counted)
    (ended : lifetime.pipeline.phase = .ended result)
    (stayed : lifetime.deserted = false) :
    lifetime.pipeline.events.count .released =
      (JoinPhase.ended result).releases := by
  have released := counted.released
  rw [stayed, ended] at released
  exact released

/-- A job that fails with an error of storage fails with what releasing its context
fails with, also if it has been called off. -/
theorem blames_act
    {action : Action}
    (blames : lifetime.pipeline.Blames setup)
    (acts : lifetime.act setup closeFault action = some next) :
    next.pipeline.Blames setup := by
  cases acts_of_act acts with
  | goes action pipeline lasts moves => exact blames.act moves
  | callsOff | lingers | drops => exact blames

/-! ## Streams that fail to close -/

end Lifetime
end GraphSweep
