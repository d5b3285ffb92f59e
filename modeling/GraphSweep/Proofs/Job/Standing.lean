import GraphSweep.Proofs.Job.Schedules
import GraphSweep.Proofs.Join.Errors
import GraphSweep.Proofs.Pipeline.Lifetime

/-!
# How a job stands

At any time a job has done something to its read context, and may have been answered.
Whatever becomes of a job, be it on the clock or in an interleaving of its parts, it
closes each stream that it has opened once, and before it releases the context.
-/

namespace GraphSweep

/-- What can be told about a job at some time. -/
structure Standing (σ : Type) where
  /-- What was done to the read context so far, in order. -/
  events : List ContextEvent
  /-- What the job has come to, once whoever waits for it has an answer. -/
  answer? : Option (Except JobError Tally)
  /-- The states as they are. -/
  store : StateStore σ
  /-- Whether the job has been called off. -/
  calledOff : Bool
  /-- Whether readers have not stopped in time. -/
  deserted : Bool

namespace Outcome

variable {σ ρ : Type}

/-- How a job stands that has come to its end on the clock. Who crashes in starting a
job gets no answer. -/
def standing (outcome : Outcome σ ρ) (launch : Launch) : Standing σ where
  events := outcome.events
  answer? :=
    match outcome.result with
    | .ok tally => some (.ok tally)
    | .error error => if error.isCrash then none else some (.error error)
  store := outcome.store
  calledOff := launch.aborted
  deserted := !outcome.stragglers.isEmpty

end Outcome

namespace Lifetime

variable {σ ρ : Type}

/-- How a job stands that has got somewhere. The task of a job that has been called
off is lost. -/
def standing (lifetime : Lifetime σ ρ) : Standing σ where
  events := lifetime.pipeline.events
  answer? :=
    if lifetime.calledOff then some (.error .taskLost)
    else
      match lifetime.pipeline.phase with
      | .ended result => some result
      | _ => none
  store := lifetime.pipeline.effects.store
  calledOff := lifetime.calledOff
  deserted := lifetime.deserted

end Lifetime

namespace Job

variable {σ ρ : Type}

/-- The lifetime of a job that has just been started. -/
def Opening.lifetime
    {job : Job σ ρ}
    {context : ReadContext}
    {launch : Launch}
    (opening : job.Opening context launch)
    (layout : IdLayout) : Lifetime σ ρ :=
  Lifetime.start (opening.launched layout)

/-- How a job may stand, where closing its streams may fail: as its clock makes it end,
or as any interleaving leaves it. -/
inductive Stands
    [Mergeable σ]
    (job : Job σ ρ)
    (layout : IdLayout)
    (context : ReadContext)
    (launch : Launch)
    (closeFault : Nat -> Option StorageError) : Standing σ -> Prop
  | clocked :
      Stands job layout context launch closeFault
        ((job.execute layout context launch).standing launch)
  | interleaved
      (opening : job.Opening context launch)
      (actions : List Lifetime.Action)
      (lifetime : Lifetime σ ρ)
      (follows : (opening.lifetime layout).follow opening.setup closeFault
        actions = some lifetime) :
      Stands job layout context launch closeFault lifetime.standing

/-! ## What a call comes to -/

/-- All that a call may come to. -/
inductive Calls
    [Mergeable σ]
    (job : Job σ ρ)
    (layout : IdLayout)
    (context : ReadContext)
    (launch : Launch) : Outcome σ ρ -> Prop
  | refused
      (error : JobError)
      (refusal : job.refusal? launch = some error) :
      Calls job layout context launch
        (unread error (job.startStore layout) [])
  | unopened
      (fault : StorageError)
      (streams : List ContextEvent)
      (accepted : job.refusal? launch = none)
      (fails : job.openFault? context = some fault)
      (closed : ∃ count, streams =
        ContextEvent.openings count ++ ContextEvent.closings count) :
      Calls job layout context launch
        (unread (.storage fault) (job.startStore layout).reopen
          (streams ++ [.released]))
  | overlong
      (count : Nat)
      (accepted : job.refusal? launch = none) :
      Calls job layout context launch
        (unread .queueTooLong (job.startStore layout).reopen
          (ContextEvent.openings count ++ ContextEvent.droppings count))
  | crowded
      (streams : List KeyStream)
      (accepted : job.refusal? launch = none) :
      Calls job layout context launch
        (job.lose (job.startStore layout).reopen streams .tooManyWorkers)
  | aborted
      (streams : List KeyStream)
      (accepted : job.refusal? launch = none)
      (calledOff : launch.aborted = true) :
      Calls job layout context launch
        (job.lose (job.startStore layout).reopen streams .taskLost)
  | started
      (opening : job.Opening context launch) :
      Calls job layout context launch (job.execute layout context launch)

/-- A call whose streams have all been opened. -/
theorem calls_of_opened
    [Mergeable σ]
    {job : Job σ ρ}
    {context : ReadContext}
    {launch : Launch}
    {initializer : Initializer σ}
    {primary : KeyStream}
    {others : List KeyStream}
    (layout : IdLayout)
    (accepted : job.refusal? launch = none)
    (initialized : job.initializer = some initializer)
    (probed : context.openStream Slice.probe = .ok primary)
    (opened : context.openAll (registerQueries job.queries) = (others, none)) :
    job.Calls layout context launch (job.execute layout context launch) := by
  by_cases overlong :
      JobError.longestQueue < job.config.queueLength.toNat
  · have call : job.Calls layout context launch _ :=
      Calls.overlong (others.length + 1) accepted
    simpa [execute, accepted, initialized, probed, opened, overlong] using call
  · by_cases crowded : JobError.mostWorkers < job.config.workers.toNat
    · have call : job.Calls layout context launch _ :=
        Calls.crowded (primary :: others) accepted
      simpa [execute, accepted, initialized, probed, opened, overlong, crowded]
        using call
    · by_cases calledOff : launch.aborted
      · have call : job.Calls layout context launch _ :=
          Calls.aborted (primary :: others) accepted calledOff
        simpa [execute, accepted, initialized, probed, opened, overlong,
          crowded, calledOff] using call
      · exact Calls.started
          { initializer := initializer
            primary := primary
            others := others
            accepted := accepted
            initialized := initialized
            opensProbe := probed
            opensAll := opened
            queueFits := Nat.le_of_not_lt overlong
            workersFit := Nat.le_of_not_lt crowded
            kept := by simpa using calledOff }

theorem calls_of_execute
    [Mergeable σ]
    (job : Job σ ρ)
    (layout : IdLayout)
    (context : ReadContext)
    (launch : Launch) :
    job.Calls layout context launch (job.execute layout context launch) := by
  cases refusal : job.refusal? launch with
  | some error =>
      have called : job.execute layout context launch =
          unread error (job.startStore layout) [] := by
        unfold execute
        simp only [refusal]
      exact called ▸ Calls.refused error refusal
  | none =>
      obtain ⟨initializer, initialized⟩ := exists_initializer refusal
      cases probed : context.openStream Slice.probe with
      | error fault =>
          have fails : job.openFault? context = some fault := by
            rw [openFault?, probed]
          have call : job.Calls layout context launch _ :=
            Calls.unopened fault [] refusal fails ⟨0, rfl⟩
          simpa [execute, refusal, initialized, probed] using call
      | ok primary =>
          cases opened : context.openAll (registerQueries job.queries) with
          | mk others fault =>
              cases fault with
              | some fault =>
                  have fails : job.openFault? context = some fault := by
                    rw [openFault?, probed]
                    exact congrArg Prod.snd opened
                  have call : job.Calls layout context launch _ :=
                    Calls.unopened fault _ refusal fails
                      ⟨others.length + 1, rfl⟩
                  simpa [execute, refusal, initialized, probed, opened]
                    using call
              | none =>
                  exact calls_of_opened layout refusal initialized probed opened

end Job

/-! ## The join on the clock -/

/-- The join runs into streams that end badly. -/
theorem FailurePolicy.isFatal_of_atEnd
    {policy : FailurePolicy}
    {stream : Nat}
    {ending : FeedEnd}
    {error : JobError}
    (ends : policy.atEnd stream ending = .error error) :
    error.isFatal := by
  cases ending with
  | exhausted => cases ends
  | failed source =>
      cases policy with
      | fail =>
          cases ends
          rfl
      | truncate => cases ends

/-- Where joining the streams fails, the join has run into the error. -/
theorem Progress.isFatal_of_run
    {σ ρ : Type}
    {sweep : Sweep σ ρ}
    {progress : Progress σ ρ}
    {ending : FeedEnd}
    {items : List Item}
    {error : JobError}
    (fails : (progress.run sweep ending items).result = .error error) :
    error.isFatal := by
  rcases Progress.error_of_run fails with
    ⟨item, -, chokes⟩ | ⟨lane, -, ends⟩ | ends
  · exact Item.isFatal_of_exists? chokes
  · exact FailurePolicy.isFatal_of_atEnd ends
  · exact FailurePolicy.isFatal_of_atEnd ends

namespace Job

variable {σ ρ : Type}

/-- A job that gets under way is given up for an error that the join ran into, or it
comes to releasing its read context. -/
theorem Opening.execute_cases
    [Mergeable σ]
    {job : Job σ ρ}
    {context : ReadContext}
    {launch : Launch}
    (opening : job.Opening context launch)
    (layout : IdLayout) :
    (∃ timeline now error, error.isFatal = true ∧
      job.execute layout context launch =
        job.giveUp (opening.others.length + 1) (opening.start layout) timeline
          now error) ∨
    ∃ progress inlined now,
      job.execute layout context launch =
        release context (opening.others.length + 1) progress inlined now := by
  cases onTime : (opening.followed layout).stalled with
  | some stream =>
      exact Or.inl ⟨_, _, _, rfl, opening.execute_of_stalled layout onTime⟩
  | none =>
      cases joins : (opening.joined layout).result with
      | error error =>
          have fatal := Progress.isFatal_of_run joins
          have given := opening.execute_eq_giveUp layout onTime joins
          exact Or.inl ⟨_, _, error, fatal, given⟩
      | ok _ =>
          rw [opening.execute_of_joined layout onTime joins]
          rcases job.conclude_cases context (opening.others.length + 1)
            (opening.start layout) (opening.followed layout).timeline
            (opening.joined layout).progress with
            ⟨now, component, given⟩ | ⟨inlined, now, released⟩
          · exact Or.inl ⟨_, _, _, rfl, given⟩
          · exact Or.inr ⟨_, _, _, released⟩

end Job

/-! ## What a call does to the read context -/

namespace ContextEvent

/-- Closing some of the streams that have been opened keeps the record in order. -/
theorem records_closings (count : Nat) (keep : Nat -> Bool) :
    Records
      (openings count ++ ((List.range count).filter keep).map closed)
      ((List.range count).map keep) := by
  refine ⟨fun stream => ?_, fun stream => ?_, fun before after split => ?_⟩
  · have none : opened stream ∉
        ((List.range count).filter keep).map closed := by simp
    rw [List.count_append, (records_openings count).opened,
      List.count_eq_zero.2 none, List.length_replicate, List.length_map,
      List.length_range, Nat.add_zero]
  · have none : closed stream ∉ openings count := by simp [openings]
    have once := List.count_map_of_injective
      ((List.range count).filter keep) closed (fun _ _ same => closed.inj same)
      stream
    rw [List.count_append, List.count_eq_zero.2 none, once, Nat.zero_add,
      (List.nodup_range.filter keep).count]
    by_cases within : stream < count
    · simp [within]
    · simp [within]
  · have absent : released ∉
        openings count ++ ((List.range count).filter keep).map closed := by
      simp [openings]
    exact absurd (by rw [split]; simp) absent

/-- Closing all streams that have been opened keeps the record in order. -/
theorem records_closed (count : Nat) :
    Records (openings count ++ closings count)
      ((List.range count).map fun _ => true) := by
  have records := records_closings count fun _ => true
  rwa [List.filter_true] at records

/-- Letting go of streams closes none of them. -/
theorem records_dropped (count : Nat) :
    Records (openings count ++ droppings count)
      (List.replicate count false) := by
  have records := records_openings count
  refine ⟨fun stream => ?_, fun stream => ?_, fun before after split => ?_⟩
  · have none : opened stream ∉ droppings count := by simp [droppings]
    rw [List.count_append, List.count_eq_zero.2 none, records.opened]
    rfl
  · have none : closed stream ∉ droppings count := by simp [droppings]
    rw [List.count_append, List.count_eq_zero.2 none, records.closed]
    rfl
  · have absent : released ∉ openings count ++ droppings count := by
      simp [openings, droppings]
    exact absurd (by rw [split]; simp) absent

end ContextEvent

namespace Stopped

/-- The streams that have been closed are those whose readers have stopped. -/
theorem closings_eq (stopped : Stopped) (count : Nat) :
    stopped.closings count =
      ((List.range count).filter fun stream =>
        !stopped.stragglers.any fun straggler => straggler.stream = stream).map
          ContextEvent.closed := by
  rw [closings, ContextEvent.closings, List.filter_map]
  congr 2
  funext stream
  simp only [Function.comp, ContextEvent.closed.injEq]
  congr 2
  funext straggler
  exact decide_eq_decide.2 eq_comm

/-- Where all readers have stopped in time, all streams have been closed. -/
theorem closings_of_inTime
    {stopped : Stopped}
    (punctual : stopped.inTime = true)
    (count : Nat) :
    stopped.closings count = ContextEvent.closings count := by
  rw [inTime, List.isEmpty_iff] at punctual
  simp [closings, punctual]

end Stopped

namespace Job

variable {σ ρ : Type}

/-- Stopping the readers as far as they stop in time, and releasing the context if all
of them do, keeps the record in order. -/
theorem records_stopped (stopped : Stopped) (count : Nat) :
    ∃ closures, ContextEvent.Records
      (ContextEvent.openings count ++ stopped.closings count ++
        if stopped.inTime then [.released] else []) closures := by
  cases punctual : stopped.inTime with
  | true =>
      rw [Stopped.closings_of_inTime punctual]
      exact ⟨_, (ContextEvent.records_closed count).release (by simp)⟩
  | false =>
      rw [stopped.closings_eq]
      simp only [Bool.false_eq_true, if_false, List.append_nil]
      exact ⟨_, ContextEvent.records_closings count _⟩

/-- Releasing the context once or twice keeps the record in order. -/
theorem events_of_release
    [Mergeable σ]
    (context : ReadContext)
    (streams : Nat)
    (progress : Progress σ ρ)
    (inlined now : Nat) :
    (release context streams progress inlined now).events =
      ContextEvent.openings streams ++ ContextEvent.closings streams ++
        if context.releaseFault.isSome then [.released, .released]
        else [.released] := by
  unfold release
  cases context.releaseFault with
  | some fault => rfl
  | none =>
      dsimp only
      split
      · split <;> rfl
      · rfl

theorem records_release
    [Mergeable σ]
    (context : ReadContext)
    (streams : Nat)
    (progress : Progress σ ρ)
    (inlined now : Nat) :
    ∃ closures, ContextEvent.Records
      (release context streams progress inlined now).events closures := by
  have once := (ContextEvent.records_closed streams).release (by simp)
  have twice := once.release (by simp)
  rw [events_of_release]
  split
  · exact ⟨_, by simpa using twice⟩
  · exact ⟨_, once⟩

/-- What was done to the read context is in order, whatever a call comes to. -/
theorem records_of_calls
    [Mergeable σ]
    {job : Job σ ρ}
    {layout : IdLayout}
    {context : ReadContext}
    {launch : Launch}
    {outcome : Outcome σ ρ}
    (calls : job.Calls layout context launch outcome) :
    ∃ closures, ContextEvent.Records outcome.events closures := by
  cases calls with
  | refused error refusal => exact ⟨_, ContextEvent.records_openings 0⟩
  | unopened fault streams accepted fails closed =>
      obtain ⟨count, rfl⟩ := closed
      exact ⟨_, (ContextEvent.records_closed count).release (by simp)⟩
  | overlong count accepted => exact ⟨_, ContextEvent.records_dropped count⟩
  | crowded streams accepted | aborted streams accepted calledOff =>
      change ∃ closures, ContextEvent.Records
        (ContextEvent.openings _ ++ Stopped.closings _ _) closures
      rw [Stopped.closings_eq]
      exact ⟨_, ContextEvent.records_closings _ _⟩
  | started opening =>
      rcases opening.execute_cases layout with
        ⟨timeline, now, error, -, called⟩ | ⟨progress, inlined, now, called⟩
      · rw [called]
        exact records_stopped _ _
      · rw [called]
        exact records_release _ _ _ _ _

end Job
end GraphSweep
