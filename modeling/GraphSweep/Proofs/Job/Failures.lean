import GraphSweep.Proofs.Job.Streams
import GraphSweep.Proofs.Join.Continued

/-!
# Failures of streams

Where a failing stream fails the job and the vertices of every stream ascend, the
failure that the job comes to is the first in its way. If none is in its way, the
failing streams have brought all that they could have brought for any vertex: the
job does what it does when they go on with further reads.
-/

namespace GraphSweep

/-- A stream is continued by another one: both give the same reads, or it fails and
the other one has further reads in place of the failing one and those behind it. -/
inductive KeyStream.ContinuedBy (source other : KeyStream) : Prop
  | same (reads : other.reads = source.reads)
  | longer
      {error : StorageError}
      (fails : source.fault? = some error)
      (more : List Read)
      (reads : other.reads = Read.beforeFault source.reads ++ more)

/-- The lane of a stream that continues another one continues the lane of that
one. -/
theorem KeyStream.ContinuedBy.lane
    {source other : KeyStream}
    (continued : source.ContinuedBy other)
    (stream : Nat)
    (query : Slice) :
    (source.lane stream query).ContinuedBy (other.lane stream query) := by
  cases continued with
  | same reads =>
      have lane : other.lane stream query = source.lane stream query := by
        rw [KeyStream.lane, KeyStream.lane, delivered, delivered, fault?, fault?,
          reads]
      rw [lane]
      exact Lane.ContinuedBy.same _
  | longer fails more reads =>
      have feed := other.feed_eq
      rw [reads, Feed.ofReads_beforeFault_append, source.feed_eq] at feed
      have delivered : source.delivered ++ (Feed.ofReads more).items =
          other.delivered := congrArg Feed.items feed
      have ends : (Feed.ofReads more).ending = FeedEnd.ofFault? other.fault? :=
        congrArg Feed.ending feed
      have lane : other.lane stream query =
          (source.lane stream query).further (Feed.ofReads more).items
            (Feed.ofReads more).ending := by
        rw [KeyStream.lane, ← delivered, ← ends]
        rfl
      have ending : (source.lane stream query).ending = .failed _ :=
        congrArg FeedEnd.ofFault? fails
      rw [lane]
      exact Lane.ContinuedBy.longer ending _ _

/-- The lanes of streams that continue others continue the lanes of those. -/
theorem Job.lanes_continuedBy
    {sources others : List KeyStream}
    (continued : List.Forall₂ KeyStream.ContinuedBy sources others)
    (stream : Nat)
    (queries : List Slice) :
    List.Forall₂ Lane.ContinuedBy
      (Job.lanes stream queries
        (sources.map fun source => Feed.ofReads source.reads))
      (Job.lanes stream queries
        (others.map fun source => Feed.ofReads source.reads)) := by
  induction continued generalizing stream queries with
  | nil =>
      cases queries <;> exact List.Forall₂.nil
  | @cons source other sources others head _ hypothesis =>
      cases queries with
      | nil => exact List.Forall₂.nil
      | cons query queries =>
          have lane := head.lane stream query
          rw [List.map_cons, List.map_cons, Job.lanes, Job.lanes,
            source.feed_eq, other.feed_eq]
          exact List.Forall₂.cons lane (hypothesis (stream + 1) queries)

namespace Job
namespace Opening

variable
  {σ ρ : Type}
  {job : Job σ ρ}
  {context otherContext : ReadContext}
  {launch : Launch}

/-- A job is continued by itself over streams that continue its own. The first
stream is the same. -/
structure ContinuedBy
    (opening : job.Opening context launch)
    (other : job.Opening otherContext launch) : Prop where
  primary : other.primary.reads = opening.primary.reads
  others : List.Forall₂ KeyStream.ContinuedBy opening.others other.others

/-- What a job does for the vertices it meets is a matter of the job alone. -/
theorem sweep_eq
    (opening : job.Opening context launch)
    (other : job.Opening otherContext launch) :
    other.sweep = opening.sweep := by
  have initializer := other.initialized.symm.trans opening.initialized
  rw [sweep, sweep, Option.some.inj initializer]

section Foreseen

variable
  {opening : job.Opening context launch}
  {other : job.Opening otherContext launch}
  {account : Account}

/-- A job that is foreseen to succeed is foreseen to note the same over streams that
continue its own. -/
theorem ContinuedBy.foreseen
    (continued : opening.ContinuedBy other)
    (fails : job.config.policy = .fail)
    (released : otherContext.releaseFault = none)
    (succeeds : opening.foreseen = .ok account) :
    other.foreseen = .ok account := by
  have probe : other.probe = opening.probe := by
    rw [Opening.probe, Opening.probe, continued.primary]
  have policy : opening.setup.sweep.policy = .fail := fails
  have policyOther : other.setup.sweep.policy = .fail := fails
  have lanes : (⟨Account.blank, opening.lanes⟩ : Course).ContinuedBy
      ⟨Account.blank, other.lanes⟩ :=
    ⟨rfl, Job.lanes_continuedBy continued.others 1 _⟩
  rw [Opening.foreseen, Setup.foresee, policy] at succeeds
  rw [Opening.foreseen, Setup.foresee, policyOther, probe]
  obtain ⟨last, run, noted⟩ := exists_of_bind_eq_ok succeeds
  obtain ⟨reached, runs, like⟩ := lanes.run run
  rw [released_eq] at noted
  rw [runs, Except.bind, released_eq, released, like.close]
  cases fault : context.releaseFault with
  | some fault =>
      rw [fault] at noted
      cases noted
  | none =>
      rw [fault] at noted
      exact noted

/-- Jobs that note the same make the same runs. -/
theorem joined_eq_of_foreseen
    (layout : IdLayout)
    (foreseen : opening.foreseen = .ok account)
    (foreseenOther : other.foreseen = .ok account) :
    (other.joined layout).progress.effects =
        (opening.joined layout).progress.effects ∧
      (other.joined layout).progress.course.close =
        (opening.joined layout).progress.course.close := by
  obtain ⟨-, -, noted⟩ := opening.joined_of_ok layout foreseen
  obtain ⟨-, -, notedOther⟩ := other.joined_of_ok layout foreseenOther
  have effects := opening.visitAll_of_foreseen layout foreseen
  have effectsOther := other.visitAll_of_foreseen layout foreseenOther
  rw [sweep_eq opening other] at effectsOther
  exact ⟨effectsOther.1.symm.trans effects.1, notedOther.symm.trans noted⟩

variable [Mergeable σ] {layout : IdLayout}

/-- Where merging the siblings has answers, it does in a job that notes the same. -/
theorem mergesFreely_of_foreseen
    (free : opening.MergesFreely layout)
    (foreseen : opening.foreseen = .ok account)
    (foreseenOther : other.foreseen = .ok account) :
    other.MergesFreely layout := by
  obtain ⟨effects, close⟩ :=
    joined_eq_of_foreseen layout foreseen foreseenOther
  obtain ⟨joins, -, -⟩ := opening.joined_of_ok layout foreseen
  intro _ partitioned
  have seen : (other.joined layout).progress.tally.sawPartitioned =
      (opening.joined layout).progress.tally.sawPartitioned :=
    congrArg (fun noted => noted.tally.sawPartitioned) close
  have store : (other.joined layout).progress.store =
      (opening.joined layout).progress.store :=
    congrArg Effects.store effects
  rw [store]
  exact free joins (seen ▸ partitioned)

/-- The sequential runs of jobs that note the same match. -/
theorem sequential_matches_of_foreseen
    (free : opening.MergesFreely layout)
    (foreseen : opening.foreseen = .ok account)
    (foreseenOther : other.foreseen = .ok account) :
    (opening.sequential layout).Matches (other.sequential layout) := by
  obtain ⟨effects, close⟩ :=
    joined_eq_of_foreseen layout foreseen foreseenOther
  obtain ⟨joins, released, -⟩ := opening.joined_of_ok layout foreseen
  obtain ⟨joinsOther, releasedOther, -⟩ :=
    other.joined_of_ok layout foreseenOther
  have freeOther := mergesFreely_of_foreseen free foreseen foreseenOther
  obtain ⟨result, visited, -⟩ :=
    opening.sequential_of_ok layout free joins released
  obtain ⟨resultOther, visitedOther, -⟩ :=
    other.sequential_of_ok layout freeOther joinsOther releasedOther
  -- The counts are those of the account, but for the runs that have failed.
  have tally (progress : Progress σ ρ) :
      ({ progress.tally with
        orphans := progress.tally.orphans + progress.leftover
        inlined := 0 } : Tally) =
      { progress.course.close.tally with
        failed := progress.effects.failed
        inlined := 0 } := rfl
  refine ⟨?_, ?_⟩
  · rw [result, resultOther, tally, tally, effects, close]
  · intro counts _
    have same : (other.joined layout).progress.visited =
        (opening.joined layout).progress.visited :=
      congrArg Effects.visited effects
    rw [visited, visitedOther, same]

end Foreseen

/-- A job fails with the first failure in its way. Where a failing stream fails the
job and the vertices of every stream ascend, the job fails however its parts
interleave if anything is in its way, with what comes first. If nothing is, the job
succeeds, and it does the same when each of its failing streams goes on with further
reads, whatever these are. On its clock the job does so too if its pauses and its runs do
not take longer than it waits. -/
theorem first_failure_is_reported
    [Mergeable σ]
    (opening : job.Opening context launch)
    (layout : IdLayout)
    (fails : job.config.policy = .fail)
    (ascend : ∀ source ∈ opening.primary :: opening.others, source.Ascends) :
    (∃ outcome, opening.Yields layout outcome) ∧
    (opening.Brisk layout ->
      opening.Yields layout (job.execute layout context launch)) ∧
    (∀ error others, opening.failures = error :: others ->
      ∀ outcome, opening.Yields layout outcome ->
        outcome.result = .error error) ∧
    (opening.failures = [] -> context.releaseFault = none ->
      opening.MergesFreely layout ->
      ∀ outcome, opening.Yields layout outcome ->
        (∃ tally, outcome.result = .ok tally) ∧
        ∀ otherContext (other : job.Opening otherContext launch),
          otherContext.releaseFault = none -> opening.ContinuedBy other ->
          ∀ continued, other.Yields layout continued ->
            outcome.Matches continued) := by
  refine ⟨opening.exists_yields layout, yields_of_brisk, ?_, ?_⟩
  · intro error others failures outcome yields
    exact yields.of_failures ascend failures
  · intro failures released free outcome yields
    refine ⟨(yields.of_no_failures ascend failures released free).1, ?_⟩
    intro otherContext other releasedOther continued outcomeOther yieldsOther
    have joins := (opening.joined_of_no_failures layout ascend failures).1
    have foreseen := opening.foreseen_eq layout
    rw [joins, Except.bind, released_eq, released] at foreseen
    have foreseenOther := continued.foreseen fails releasedOther foreseen
    have freeOther := mergesFreely_of_foreseen free foreseen foreseenOther
    have reference := sequential_matches_of_foreseen free foreseen foreseenOther
    have there := (yieldsOther.matches freeOther).trans_symm reference
    exact (yields.matches free).trans_symm there

end Opening
end Job

namespace TwoStreams

/-- These streams ascend, whether the other one fails early or late. -/
theorem ascend_broken :
    ∀ other ∈ [broken, brokenLate],
      ∀ source ∈ (opening .fail primary other).primary ::
        (opening .fail primary other).others, source.Ascends := by
  unfold KeyStream.Ascends Item.Ascend
  decide +kernel

/-- A stream that fails late is continued where it goes on. -/
theorem continuedBy_goingOn :
    (opening .fail primary brokenLate).ContinuedBy
      (opening .fail primary goingOn) := by
  have fails : KeyStream.fault? ⟨brokenLate, none⟩ = some .readerCrashed := by
    decide +kernel
  have goesOn : goingOn =
      Read.beforeFault brokenLate ++ reads [(16, [plain])] := by
    decide +kernel
  have longer : KeyStream.ContinuedBy ⟨brokenLate, none⟩ ⟨goingOn, none⟩ :=
    KeyStream.ContinuedBy.longer fails _ goesOn
  exact ⟨rfl, List.Forall₂.cons longer List.Forall₂.nil⟩

theorem first_failure_of_two_streams_is_reported :
    (job .fail).config.policy = .fail ∧
    (opening .fail primary broken).failures =
      [.readFailed 1 .readerCrashed, .readFailed 1 .readerCrashed] ∧
    (opening .fail primary broken).Yields IdLayout.standard
      ((job .fail).execute IdLayout.standard (context primary broken)
        Launch.ordinary) ∧
    (∀ outcome,
      (opening .fail primary broken).Yields IdLayout.standard outcome ->
        outcome.result = .error (.readFailed 1 .readerCrashed)) ∧
    (opening .fail primary brokenLate).failures = [] ∧
    ∀ outcome,
      (opening .fail primary brokenLate).Yields IdLayout.standard outcome ->
        ∀ continued,
          (opening .fail primary goingOn).Yields IdLayout.standard continued ->
            outcome.Matches continued := by
  have early : broken ∈ [broken, brokenLate] := List.mem_cons_self
  have late : brokenLate ∈ [broken, brokenLate] :=
    List.mem_cons_of_mem _ List.mem_cons_self
  have failures : (opening .fail primary broken).failures =
      [.readFailed 1 .readerCrashed, .readFailed 1 .readerCrashed] := by
    decide +kernel
  have harmless : (opening .fail primary brokenLate).failures = [] := by
    decide +kernel
  have free := mergesFreely brokenLate
    (List.mem_cons_of_mem _ List.mem_cons_self)
  have brisk : (opening .fail primary broken).Brisk IdLayout.standard := by
    decide +kernel
  obtain ⟨-, clock, reported, -⟩ := Job.Opening.first_failure_is_reported
    (opening .fail primary broken) IdLayout.standard rfl
    (ascend_broken broken early)
  obtain ⟨-, -, -, spared⟩ := Job.Opening.first_failure_is_reported
    (opening .fail primary brokenLate) IdLayout.standard rfl
    (ascend_broken brokenLate late)
  refine ⟨rfl, failures, clock brisk, reported _ _ failures, harmless, ?_⟩
  intro outcome yields
  exact (spared harmless rfl free outcome yields).2 _
    (opening .fail primary goingOn) rfl continuedBy_goingOn

end TwoStreams
end GraphSweep
