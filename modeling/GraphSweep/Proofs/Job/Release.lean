import GraphSweep.Proofs.Job.Standing

/-!
# Releasing the read context

However a job ends, its streams have been closed once each before it releases its read
context. It releases the context once, unless it is refused before it touches the
context or the release itself fails.
-/

namespace GraphSweep

namespace ContextEvent

variable {events : List ContextEvent} {closures : List Bool}

/-- Opening and closing streams releases nothing. -/
theorem count_released_closings (count : Nat) :
    (openings count ++ closings count).count released = 0 := by
  simp [openings, closings, List.count_eq_zero]

end ContextEvent

/-- Who is answered is told the result. -/
theorem Outcome.result_of_answered
    {σ ρ : Type}
    {outcome : Outcome σ ρ}
    {launch : Launch}
    {result : Except JobError Tally}
    (answered : (outcome.standing launch).answer? = some result) :
    outcome.result = result := by
  unfold standing at answered
  dsimp only at answered
  split at answered
  · next tally ends =>
    cases answered
    exact ends
  · next error ends =>
    split at answered
    · cases answered
    · cases answered
      exact ends

namespace Job

variable
  {σ ρ : Type}
  {job : Job σ ρ}
  {layout : IdLayout}
  {context : ReadContext}
  {launch : Launch}

/-- How often a job that has been answered has released its read context. -/
def releases
    (job : Job σ ρ)
    (context : ReadContext)
    (launch : Launch)
    (result : Except JobError Tally) : Nat :=
  if (job.refusal? launch).isSome then 0
  else if (job.openFault? context).isSome then 1
  else
    match result with
    | .error (.storage _) => 2
    | _ => 1

theorem Opening.releases_eq
    (opening : job.Opening context launch)
    (result : Except JobError Tally) :
    job.releases context launch result = (JoinPhase.ended result).releases := by
  unfold releases
  obtain ⟨accepted, opens, -⟩ := nonempty_opening_iff.1 ⟨opening⟩
  rw [accepted, opens]
  cases result with
  | ok tally => rfl
  | error error => cases error <;> rfl

/-- The streams of a job are opened one for each query. -/
theorem Opening.kept_launched
    (opening : job.Opening context launch)
    (layout : IdLayout) :
    (opening.launched layout).Kept :=
  Pipeline.kept_start opening.primary (opening.start layout)
    (ReadContext.openAll_opens opening.opensAll).length_eq

section Standing

variable
  [Mergeable σ]
  {closeFault : Nat -> Option StorageError}
  {standing : Standing σ}

/-- What has been done to the read context is in order. -/
theorem Stands.records
    (stands : job.Stands layout context launch closeFault standing) :
    ∃ closures, ContextEvent.Records standing.events closures := by
  cases stands with
  | clocked => exact records_of_calls (job.calls_of_execute layout context launch)
  | interleaved opening actions lifetime follows =>
      have kept := Lifetime.follow_induction
        (fun lifetime => lifetime.pipeline.Kept)
        Lifetime.kept_act (opening.kept_launched layout) follows
      exact ⟨_, kept.records⟩

/-- An error of storage at the end comes of a release that failed. -/
theorem result_of_release
    (context : ReadContext)
    (streams : Nat)
    (progress : Progress σ ρ)
    (inlined now : Nat) :
    match context.releaseFault with
    | some fault =>
        (release context streams progress inlined now).result =
          .error (.storage fault)
    | none => ∀ fault,
        (release context streams progress inlined now).result ≠
          .error (.storage fault) := by
  unfold release
  cases context.releaseFault with
  | some fault => rfl
  | none =>
      dsimp only
      intro fault
      split
      · split <;> exact nofun
      · exact nofun

/-- How often a job that gets under way has released its context on the clock. -/
theorem Opening.released_of_execute
    (opening : job.Opening context launch)
    (layout : IdLayout)
    (stayed : (job.execute layout context launch).stragglers = []) :
    let outcome := job.execute layout context launch
    outcome.events.count .released =
        (JoinPhase.ended outcome.result).releases ∧
      ∀ fault, outcome.result = .error (.storage fault) ->
        context.releaseFault = some fault := by
  rcases opening.execute_cases layout with
    ⟨timeline, now, error, fatal, called⟩ | ⟨progress, inlined, now, called⟩
  · rw [called] at stayed ⊢
    have punctual :
        (Stopped.ofTimeline timeline now job.graceMillis).inTime = true := by
      rw [Stopped.inTime, List.isEmpty_iff]
      exact stayed
    refine ⟨?_, fun fault fails => ?_⟩
    · simp only [giveUp, punctual, if_true, Stopped.closings_of_inTime punctual]
      rw [List.count_append, ContextEvent.count_released_closings,
        JoinPhase.releases,
        JobError.releases_of_isFatal fatal]
      rfl
    · exact absurd (Except.error.inj fails)
        (Pipeline.ne_storage_of_isFatal fatal fault)
  · rw [called]
    have result := result_of_release context (opening.others.length + 1)
      progress inlined now
    dsimp only
    rw [events_of_release, List.count_append,
      ContextEvent.count_released_closings]
    cases fault : context.releaseFault with
    | some fault =>
        simp only [fault] at result
        rw [result]
        refine ⟨rfl, fun other fails => ?_⟩
        cases fails
        rfl
    | none =>
        simp only [fault] at result
        refine ⟨?_, fun other fails => absurd fails (result other)⟩
        cases ends : (release context (opening.others.length + 1) progress
            inlined now).result with
        | ok tally => rfl
        | error error =>
            cases error with
            | storage source => exact absurd ends (result source)
            | stalled | stopTimeout | probeDecode | readFailed | config
            | refused | taskLost | queueTooLong | tooManyWorkers => rfl

/-- What a lifetime keeps of how often the context has been released. -/
theorem Opening.counted_of_follow
    {actions : List Lifetime.Action}
    {lifetime : Lifetime σ ρ}
    (opening : job.Opening context launch)
    (layout : IdLayout)
    (follows : (opening.lifetime layout).follow opening.setup closeFault
      actions = some lifetime) :
    lifetime.Counted ∧ lifetime.pipeline.Blames opening.setup := by
  have fresh : (opening.lifetime layout).Counted ∧
      (opening.lifetime layout).pipeline.Blames opening.setup := by
    refine ⟨⟨?_, nofun⟩, nofun⟩
    have none : ContextEvent.released ∉
        ContextEvent.openings (opening.others.length + 1) := by
      simp [ContextEvent.openings]
    exact List.count_eq_zero.2 none
  exact Lifetime.follow_induction
    (fun lifetime =>
      lifetime.Counted ∧ lifetime.pipeline.Blames opening.setup)
    (fun holds acts =>
      ⟨holds.1.act acts, Lifetime.blames_act holds.2 acts⟩)
    fresh follows

/-- How often a job that has been answered has released its context on the clock. -/
theorem released_of_calls
    {outcome : Outcome σ ρ}
    {result : Except JobError Tally}
    (calls : job.Calls layout context launch outcome)
    (answered : (outcome.standing launch).answer? = some result)
    (kept : launch.aborted = false)
    (stayed : outcome.stragglers = []) :
    outcome.events.count .released = job.releases context launch result ∧
      ∀ fault, job.refusal? launch = none -> job.openFault? context = none ->
        result = .error (.storage fault) ->
          context.releaseFault = some fault := by
  have ends := Outcome.result_of_answered answered
  cases calls with
  | refused error refusal =>
      refine ⟨?_, fun _ accepted => ?_⟩
      · unfold releases
        rw [refusal]
        rfl
      · rw [refusal] at accepted
        cases accepted
  | unopened fault streams accepted fails closed =>
      obtain ⟨count, rfl⟩ := closed
      refine ⟨?_, fun _ _ opens => ?_⟩
      · unfold releases
        rw [accepted, fails, unread, List.count_append,
          ContextEvent.count_released_closings]
        rfl
      · rw [fails] at opens
        cases opens
  | overlong | crowded => cases answered
  | aborted streams accepted calledOff =>
      rw [kept] at calledOff
      cases calledOff
  | started opening =>
      obtain ⟨count, blames⟩ := opening.released_of_execute layout stayed
      rw [ends] at count blames
      exact ⟨count.trans (opening.releases_eq result).symm,
        fun fault _ _ => blames fault⟩

/-- How often a job that has been answered has released its context. An error of storage
in its answer comes of a stream that did not open or of a release that failed. -/
theorem Stands.released
    {result : Except JobError Tally}
    (stands : job.Stands layout context launch closeFault standing)
    (answered : standing.answer? = some result)
    (kept : standing.calledOff = false)
    (stayed : standing.deserted = false) :
    standing.events.count .released = job.releases context launch result ∧
      ∀ fault, job.refusal? launch = none -> job.openFault? context = none ->
        result = .error (.storage fault) ->
          context.releaseFault = some fault := by
  cases stands with
  | clocked =>
      have calls := job.calls_of_execute layout context launch
      have stragglers :
          (job.execute layout context launch).stragglers = [] := by
        simpa [Outcome.standing] using stayed
      exact released_of_calls calls answered kept stragglers
  | interleaved opening actions lifetime follows =>
      obtain ⟨counted, blames⟩ := opening.counted_of_follow layout follows
      have off : lifetime.calledOff = false := kept
      have ended : lifetime.pipeline.phase = .ended result := by
        simp only [Lifetime.standing, off, Bool.false_eq_true, if_false]
          at answered
        split at answered
        · next other phase =>
          cases answered
          exact phase
        · cases answered
      refine ⟨?_, fun fault _ _ fails => ?_⟩
      · rw [opening.releases_eq]
        exact counted.released_of_answered ended stayed
      · rw [Pipeline.Blames, ended, fails] at blames
        exact blames fault rfl

/-- The context is released as often as the answer tells. A job that has been answered,
that was not called off and whose readers stopped in time has not released its context
if it was refused, has released it twice if a release failed, and once otherwise; so
once whenever it was accepted and releases do not fail. -/
theorem context_is_released_as_answered
    {result : Except JobError Tally}
    (stands : job.Stands layout context launch closeFault standing)
    (answered : standing.answer? = some result)
    (kept : standing.calledOff = false)
    (stayed : standing.deserted = false) :
    standing.events.count .released = job.releases context launch result ∧
    (job.refusal? launch = none -> context.releaseFault = none ->
      standing.events.count .released = 1) := by
  obtain ⟨count, blames⟩ := stands.released answered kept stayed
  refine ⟨count, fun accepted releases => ?_⟩
  rw [count]
  unfold Job.releases
  rw [accepted]
  cases opens : job.openFault? context with
  | some fault => rfl
  | none =>
      cases result with
      | ok tally => rfl
      | error error =>
          cases error with
          | storage source =>
              have broken := blames source accepted opens rfl
              rw [releases] at broken
              cases broken
          | stalled | stopTimeout | probeDecode | readFailed | config | refused
          | taskLost | queueTooLong | tooManyWorkers => rfl

end Standing
end Job

namespace TwoStreams

/-- How the job over two streams stands in the end. -/
def concluded (context : ReadContext) (job : Job UInt64 Unit) : Standing UInt64 :=
  (job.execute IdLayout.standard context Launch.ordinary).standing
    Launch.ordinary

/-- The job that is given no initializer. -/
def uninitialized : Job UInt64 Unit := { job .fail with initializer := none }

/-- A context over two streams whose releases fail. -/
def clinging : ReadContext :=
  { context primary other with releaseFault := some (.closed .transaction) }

theorem two_streams_are_released_once :
    let standing := concluded (context primary broken) (job .fail)
    standing.answer? = some (.error (.readFailed 1 .readerCrashed)) ∧
      standing.events.count .released = 1 := by
  have answered : (concluded (context primary broken) (job .fail)).answer? =
      some (.error (.readFailed 1 .readerCrashed)) := by decide +kernel
  have stands : (job .fail).Stands IdLayout.standard (context primary broken)
      Launch.ordinary (fun _ => none)
      (concluded (context primary broken) (job .fail)) := Job.Stands.clocked
  have released := Job.context_is_released_as_answered stands answered
    (by decide +kernel) (by decide +kernel)
  exact ⟨answered, released.2 (by decide +kernel) rfl⟩

/-- A job whose release fails releases its context twice, and one that is refused does
not release it at all. -/
theorem two_streams_are_released_twice_or_never :
    let twice := concluded clinging (job .fail)
    let never := concluded (context primary other) uninitialized
    (job .fail).Stands IdLayout.standard clinging Launch.ordinary
        (fun _ => none) twice ∧
      twice.answer? = some (.error (.storage (.closed .transaction))) ∧
      twice.calledOff = false ∧ twice.deserted = false ∧
      twice.events.count .released = 2 ∧
    uninitialized.Stands IdLayout.standard (context primary other)
        Launch.ordinary (fun _ => none) never ∧
      never.answer? = some (.error (.refused .noInitializer)) ∧
      never.calledOff = false ∧ never.deserted = false ∧
      never.events.count .released = 0 := by
  refine ⟨Job.Stands.clocked, ?_, ?_, ?_, ?_, Job.Stands.clocked, ?_, ?_, ?_,
    ?_⟩ <;> decide +kernel

end TwoStreams
end GraphSweep
