import GraphSweep.Proofs.Job.Punctual
import GraphSweep.Proofs.Pipeline.Faithful
import GraphSweep.Proofs.Pipeline.Progress

/-!
# Jobs do not depend on their schedule

However the readers, the join and the workers of a job interleave, as long as no
wait runs out the job comes to what its sequential run comes to.
-/

namespace GraphSweep

/-- The channels of a job bring what the lanes of its join do. -/
theorem Channel.map_lane_start
    (stream : Nat)
    (queries : List Slice)
    (sources : List KeyStream) :
    (Channel.start stream queries sources).map Channel.lane =
      Job.lanes stream queries
        (sources.map fun source => Feed.ofReads source.reads) := by
  induction queries generalizing stream sources with
  | nil => rfl
  | cons query queries hypothesis =>
      cases sources with
      | nil => rfl
      | cons source sources =>
          rw [Channel.start, List.map_cons, hypothesis]
          rfl

/-- The channels of a job have nothing to do with the end of their streams yet. -/
theorem Channel.sound_start
    (policy : FailurePolicy)
    {stream : Nat}
    {queries : List Slice}
    {sources : List KeyStream}
    {channel : Channel}
    (member : channel ∈ Channel.start stream queries sources) :
    channel.Sound policy := by
  induction queries generalizing stream sources with
  | nil => cases member
  | cons query queries hypothesis =>
      cases sources with
      | nil => cases member
      | cons source sources =>
          rcases List.mem_cons.1 member with rfl | later
          · refine ⟨rfl, ?_⟩
            intro finished
            cases finished
          · exact hypothesis later

namespace Job
namespace Opening

variable
  {σ ρ : Type}
  {job : Job σ ρ}
  {context : ReadContext}
  {launch : Launch}

/-- What the job is set up with. -/
def setup (opening : job.Opening context launch) : Setup σ ρ where
  sweep := opening.sweep
  capacity := job.config.queueLength.toNat
  workers := job.config.workers.toNat
  timeout := job.config.timeout
  releaseFault := context.releaseFault

/-- The job when its readers, its join and its workers have just been started. -/
def launched
    (opening : job.Opening context launch)
    (layout : IdLayout) : Pipeline σ ρ :=
  Pipeline.start (registerQueries job.queries) opening.primary opening.others
    (opening.start layout)

/-- What the join of the job is bound to note. -/
def foreseen (opening : job.Opening context launch) : Except JobError Account :=
  opening.setup.foresee ⟨Account.blank, opening.lanes⟩ opening.probe

/-- Merging the siblings in the end has answers in whatever order they come, if it
comes to that. -/
def MergesFreely
    [Mergeable σ]
    (opening : job.Opening context launch)
    (layout : IdLayout) : Prop :=
  (opening.joined layout).result = .ok () ->
    (opening.joined layout).progress.tally.sawPartitioned ->
      (opening.joined layout).progress.store.MergesFreely

/-- The outcomes that the job may have when none of its waits runs out: the one that
its clock makes of it, and that of any interleaving. -/
inductive Yields
    [Mergeable σ]
    (opening : job.Opening context launch)
    (layout : IdLayout) : Outcome σ ρ -> Prop
  | clocked
      (onTime : opening.OnTime layout) :
      Yields opening layout (job.execute layout context launch)
  | interleaved
      (actions : List Pipeline.Action)
      (pipeline : Pipeline σ ρ)
      (outcome : Outcome σ ρ)
      (punctual : .expire ∉ actions)
      (follows : (opening.launched layout).follow opening.setup actions =
        some pipeline)
      (ends : pipeline.outcome? = some outcome) :
      Yields opening layout outcome

/-- An accepted job has workers, and its queues hold something. -/
theorem setup_pos (opening : job.Opening context launch) :
    0 < opening.setup.workers ∧ 0 < opening.setup.capacity := by
  have faultless := fault?_of_accepted opening.accepted
  unfold JobConfig.fault? at faultless
  split at faultless
  · cases faultless
  · next staffed =>
    split at faultless
    · cases faultless
    · next roomy =>
      refine ⟨Nat.pos_of_ne_zero fun none => staffed ?_,
        Nat.pos_of_ne_zero fun none => roomy ?_⟩
      · exact UInt64.toNat_inj.1 none
      · exact UInt64.toNat_inj.1 none

/-- The job is bound to note what its streams come to when they are joined as if
they had been read in full. -/
theorem foreseen_eq
    (opening : job.Opening context launch)
    (layout : IdLayout) :
    opening.foreseen =
      (opening.joined layout).result.bind fun _ =>
        opening.setup.released
          (opening.joined layout).progress.course.close := by
  have follows : (opening.ready layout).Follows opening.sweep
      ⟨opening.start layout, 0, []⟩ := rfl
  have course := (Progress.run_eq_course follows opening.probe.ending
    opening.probe.items).1
  have ready : (opening.ready layout).course =
      ⟨Account.blank, opening.lanes⟩ := rfl
  rw [ready] at course
  have sweep : opening.setup.sweep = opening.sweep := rfl
  rw [foreseen, Setup.foresee, sweep, ← course, joined]
  cases (Progress.run opening.sweep (opening.ready layout)
    opening.probe.ending opening.probe.items).result <;> rfl

/-- The runs of the sequential job are those for the dispatched vertices, one after
another. -/
theorem effects_joined
    (opening : job.Opening context launch)
    (layout : IdLayout) :
    (opening.joined layout).progress.effects =
      Effects.visitAll opening.sweep ⟨opening.start layout, 0, []⟩
        (opening.joined layout).progress.account.views := by
  have follows : (opening.ready layout).Follows opening.sweep
      ⟨opening.start layout, 0, []⟩ := rfl
  exact (Progress.run_eq_course follows opening.probe.ending
    opening.probe.items).2

/-- A job begins with nothing but its forecast to keep to. -/
theorem faithful_launched
    [Mergeable σ]
    (opening : job.Opening context launch)
    (layout : IdLayout) :
    (opening.launched layout).Faithful opening.setup
      ⟨opening.start layout, 0, []⟩ opening.foreseen := by
  have lanes : (opening.launched layout).lanes = opening.lanes :=
    Channel.map_lane_start 1 _ _
  refine ⟨?_, ?_, ⟨Account.Ascends.blank, ?_⟩, ?_, ?_, ?_⟩
  · intro _
    exact ⟨rfl, fun channel member => Channel.sound_start _ member⟩
  · have forecast : (opening.launched layout).forecast opening.setup =
        opening.setup.foresee
          ⟨Account.blank, (opening.launched layout).lanes⟩ opening.probe := rfl
    rw [forecast, lanes, foreseen]
  · intro id current
    cases current
  · intro _
    exact ⟨Effects.Same.refl _, List.nodup_nil, fun id member => by cases member⟩
  · intro stopping
    cases stopping
  · intro tally ended
    cases ended

/-- What is noted in the end, by how releasing the read context ends. -/
theorem released_eq
    (opening : job.Opening context launch)
    (account : Account) :
    opening.setup.released account =
      match context.releaseFault with
      | some fault => .error (.storage fault)
      | none => .ok account := rfl

/-- The end of a job whose join is bound to fail. -/
theorem sequential_of_error
    [Mergeable σ]
    (opening : job.Opening context launch)
    (layout : IdLayout)
    {error : JobError}
    (foreseen : opening.foreseen = .error error) :
    (opening.sequential layout).result = .error error := by
  rw [opening.foreseen_eq layout] at foreseen
  rw [sequential]
  cases result : (opening.joined layout).result with
  | error other =>
      rw [result] at foreseen
      cases foreseen
      rfl
  | ok _ =>
      rw [result, Except.bind, released_eq] at foreseen
      dsimp only
      rw [release]
      cases fails : context.releaseFault with
      | none =>
          rw [fails] at foreseen
          cases foreseen
      | some fault =>
          rw [fails] at foreseen
          cases foreseen
          rfl

/-- The end of a job whose join is bound to succeed. -/
theorem joined_of_ok
    (opening : job.Opening context launch)
    (layout : IdLayout)
    {account : Account}
    (foreseen : opening.foreseen = .ok account) :
    (opening.joined layout).result = .ok () ∧ context.releaseFault = none ∧
      account = (opening.joined layout).progress.course.close := by
  rw [opening.foreseen_eq layout] at foreseen
  obtain ⟨_, result, noted⟩ := exists_of_bind_eq_ok foreseen
  rw [released_eq] at noted
  cases fails : context.releaseFault with
  | some fault =>
      rw [fails] at noted
      cases noted
  | none =>
      rw [fails] at noted
      cases noted
      exact ⟨result, rfl, rfl⟩

/-- The views that are foreseen are those that the join dispatches. -/
theorem views_of_foreseen
    (opening : job.Opening context launch)
    (layout : IdLayout)
    {account : Account}
    (foreseen : opening.foreseen = .ok account) :
    account.views = (opening.joined layout).progress.account.views := by
  obtain ⟨-, -, rfl⟩ := opening.joined_of_ok layout foreseen
  rfl

/-- What the sequential run comes to whose join has succeeded. -/
theorem sequential_of_ok
    [Mergeable σ]
    (opening : job.Opening context launch)
    (layout : IdLayout)
    (free : opening.MergesFreely layout)
    (result : (opening.joined layout).result = .ok ())
    (released : context.releaseFault = none) :
    let progress := (opening.joined layout).progress
    let outcome := opening.sequential layout
    outcome.result = .ok { progress.tally with
        orphans := progress.tally.orphans + progress.leftover
        inlined := 0 } ∧
      outcome.visited = progress.visited ∧
      outcome.store =
        if progress.tally.sawPartitioned then
          progress.store.mergeSiblings.2
        else progress.store := by
  intro progress outcome
  have ended : outcome =
      release context (opening.others.length + 1) progress 0 0 := by
    simp only [outcome, sequential, result, progress]
  rw [ended, release, released]
  dsimp only
  by_cases partitioned : progress.tally.sawPartitioned
  · have through := free result partitioned progress.store.siblings
      (List.Perm.refl _)
    have merges := StateStore.mergeInOrder_of_through through
    rw [if_pos partitioned, if_pos partitioned,
      StateStore.mergeSiblings_eq_mergeInOrder, merges]
    exact ⟨rfl, rfl, rfl⟩
  · rw [if_neg partitioned, if_neg partitioned]
    exact ⟨rfl, rfl, rfl⟩

/-- What is noted in the end of a job is what its sequential run has noted. -/
theorem visitAll_of_foreseen
    (opening : job.Opening context launch)
    (layout : IdLayout)
    {account : Account}
    (foreseen : opening.foreseen = .ok account) :
    Effects.visitAll opening.sweep ⟨opening.start layout, 0, []⟩ account.views =
        (opening.joined layout).progress.effects ∧
      account.tally.sawPartitioned =
        (opening.joined layout).progress.tally.sawPartitioned := by
  obtain ⟨-, -, rfl⟩ := opening.joined_of_ok layout foreseen
  exact ⟨(opening.effects_joined layout).symm, rfl⟩

section Concluded

variable
  [Mergeable σ]
  {pipeline : Pipeline σ ρ}
  {outcome : Outcome σ ρ}
  {tally : Tally}
  {layout : IdLayout}

/-- A job that has ended well matches its sequential run. -/
theorem matches_of_concluded
    (opening : job.Opening context launch)
    (free : opening.MergesFreely layout)
    (foreseen : opening.foreseen =
      .ok (pipeline.account.drop pipeline.leftover))
    (concluded : pipeline.Concluded opening.sweep
      ⟨opening.start layout, 0, []⟩ tally)
    (result : outcome.result = .ok tally)
    (visited : outcome.visited = pipeline.effects.visited) :
    outcome.Matches (opening.sequential layout) := by
  obtain ⟨joins, released, noted⟩ := opening.joined_of_ok layout foreseen
  obtain ⟨reference, runs, -⟩ :=
    opening.sequential_of_ok layout free joins released
  have effects := (opening.visitAll_of_foreseen layout foreseen).1
  have failed : pipeline.effects.failed =
      (opening.joined layout).progress.tally.failed :=
    concluded.failed.trans (congrArg Effects.failed effects)
  have counted : tally.withoutInlined =
      Tally.withoutInlined { (opening.joined layout).progress.tally with
        orphans := (opening.joined layout).progress.tally.orphans +
          (opening.joined layout).progress.leftover
        inlined := 0 } := by
    rw [concluded.tally, Pipeline.tally, noted, failed]
    rfl
  refine ⟨?_, fun _ _ => ?_⟩
  · rw [result, reference]
    exact congrArg Except.ok counted
  · rw [visited, runs]
    have dispatched : (Effects.visitAll opening.sweep
        ⟨opening.start layout, 0, []⟩ pipeline.account.views).visited =
        (opening.joined layout).progress.visited :=
      congrArg Effects.visited effects
    exact dispatched ▸ concluded.visited

/-- A job that has ended well leaves the states that its sequential run leaves. -/
theorem same_of_concluded
    {combine : σ -> σ -> σ}
    (lawful : Mergeable.Commutes combine)
    (opening : job.Opening context launch)
    (free : opening.MergesFreely layout)
    (foreseen : opening.foreseen =
      .ok (pipeline.account.drop pipeline.leftover))
    (concluded : pipeline.Concluded opening.sweep
      ⟨opening.start layout, 0, []⟩ tally) :
    pipeline.effects.store.Same (opening.sequential layout).store := by
  obtain ⟨joins, released, -⟩ := opening.joined_of_ok layout foreseen
  obtain ⟨-, -, states⟩ :=
    opening.sequential_of_ok layout free joins released
  obtain ⟨effects, seen⟩ := opening.visitAll_of_foreseen layout foreseen
  have store : (Effects.visitAll opening.sweep
      ⟨opening.start layout, 0, []⟩ pipeline.account.views).store =
      (opening.joined layout).progress.store :=
    congrArg Effects.store effects
  have partitioned : pipeline.account.tally.sawPartitioned =
      (opening.joined layout).progress.tally.sawPartitioned := seen
  rw [states, ← partitioned]
  by_cases here : pipeline.account.tally.sawPartitioned
  · rw [if_pos here]
    obtain ⟨order, perm, merged⟩ := concluded.merged here
    rw [store] at perm merged
    exact merged.trans (StateStore.mergeInOrder_same_mergeSiblings lawful
      (free joins (partitioned ▸ here)) perm)
  · rw [if_neg here, ← store]
    exact concluded.plain (by simpa using here)

/-- The end that a job has come to: a failure that was foreseen, or a good end. -/
theorem ends_cases
    {opening : job.Opening context launch}
    (faithful : pipeline.Faithful opening.setup
      ⟨opening.start layout, 0, []⟩ opening.foreseen)
    (ends : pipeline.outcome? = some outcome) :
    (∃ error, opening.foreseen = .error error ∧
      outcome.result = .error error) ∨
    ∃ tally,
      opening.foreseen = .ok (pipeline.account.drop pipeline.leftover) ∧
      pipeline.Concluded opening.sweep ⟨opening.start layout, 0, []⟩ tally ∧
      outcome.result = .ok tally ∧
      outcome.store = pipeline.effects.store ∧
      outcome.visited = pipeline.effects.visited := by
  have foretold := faithful.foretold
  cases phase : pipeline.phase with
  | ended result =>
      simp only [Pipeline.outcome?, phase, Option.some.injEq] at ends
      simp only [Pipeline.forecast, phase] at foretold
      subst ends
      cases result with
      | error error => exact Or.inl ⟨error, foretold.symm, rfl⟩
      | ok tally =>
          exact Or.inr ⟨tally, foretold.symm, faithful.concluded tally phase,
            rfl, rfl, rfl⟩
  | probing | seeking | submitting | inlining | draining | stopping | failing
  | abandoning => simp [Pipeline.outcome?, phase] at ends

/-- A job that has ended matches its sequential run. -/
theorem matches_of_faithful
    (opening : job.Opening context launch)
    (free : opening.MergesFreely layout)
    (faithful : pipeline.Faithful opening.setup
      ⟨opening.start layout, 0, []⟩ opening.foreseen)
    (ends : pipeline.outcome? = some outcome) :
    outcome.Matches (opening.sequential layout) := by
  rcases ends_cases faithful ends with
    ⟨error, foreseen, failed⟩ |
    ⟨tally, foreseen, concluded, result, -, visited⟩
  · have reference := opening.sequential_of_error layout foreseen
    exact (Outcome.Agrees.of_error failed reference).toMatches
  · exact opening.matches_of_concluded free foreseen concluded result visited

/-- A job that has ended comes to what its sequential run comes to. -/
theorem agrees_of_faithful
    {combine : σ -> σ -> σ}
    (lawful : Mergeable.Commutes combine)
    (opening : job.Opening context launch)
    (free : opening.MergesFreely layout)
    (faithful : pipeline.Faithful opening.setup
      ⟨opening.start layout, 0, []⟩ opening.foreseen)
    (ends : pipeline.outcome? = some outcome) :
    outcome.Agrees (opening.sequential layout) := by
  refine ⟨opening.matches_of_faithful free faithful ends, ?_⟩
  intro counts succeeded
  rcases ends_cases faithful ends with
    ⟨error, -, failed⟩ | ⟨tally, foreseen, concluded, -, store, -⟩
  · rw [failed] at succeeded
    cases succeeded
  · rw [store]
    exact opening.same_of_concluded lawful free foreseen concluded

end Concluded

section Yields

variable
  [Mergeable σ]
  {opening : job.Opening context launch}
  {layout : IdLayout}
  {outcome : Outcome σ ρ}

/-- What merges freely in the sequential run does in any. -/
theorem free_of_mergesFreely
    (free : opening.MergesFreely layout)
    (account : Account)
    (foreseen : opening.foreseen = .ok account)
    (partitioned : account.tally.sawPartitioned) :
    StateStore.MergesFreely (Effects.visitAll opening.sweep
      ⟨opening.start layout, 0, []⟩ account.views).store := by
  obtain ⟨effects, seen⟩ := opening.visitAll_of_foreseen layout foreseen
  rw [effects]
  exact free (opening.joined_of_ok layout foreseen).1 (seen ▸ partitioned)

/-- An interleaving of the job keeps to what was foreseen. -/
theorem faithful_of_follow
    {actions : List Pipeline.Action}
    {pipeline : Pipeline σ ρ}
    (free : opening.MergesFreely layout)
    (punctual : .expire ∉ actions)
    (follows : (opening.launched layout).follow opening.setup actions =
      some pipeline) :
    pipeline.Faithful opening.setup ⟨opening.start layout, 0, []⟩
      opening.foreseen :=
  (opening.faithful_launched layout).follow (free_of_mergesFreely free) punctual
    follows

/-- Whatever the job yields matches its sequential run. -/
theorem Yields.matches
    (yields : opening.Yields layout outcome)
    (free : opening.MergesFreely layout) :
    outcome.Matches (opening.sequential layout) := by
  cases yields with
  | clocked onTime => exact (opening.execute_agrees layout onTime).toMatches
  | interleaved actions pipeline _ punctual follows ends =>
      have faithful := faithful_of_follow free punctual follows
      exact opening.matches_of_faithful free faithful ends

/-- Whatever the job yields comes to what its sequential run comes to, where merging
is commutative and associative. -/
theorem Yields.agrees
    {combine : σ -> σ -> σ}
    (yields : opening.Yields layout outcome)
    (lawful : Mergeable.Commutes combine)
    (free : opening.MergesFreely layout) :
    outcome.Agrees (opening.sequential layout) := by
  cases yields with
  | clocked onTime => exact opening.execute_agrees layout onTime
  | interleaved actions pipeline _ punctual follows ends =>
      have faithful := faithful_of_follow free punctual follows
      exact opening.agrees_of_faithful lawful free faithful ends

end Yields

/-- From wherever a job has got to, it can come to an end without a wait running
out. -/
theorem exists_ended
    [Mergeable σ]
    (opening : job.Opening context launch)
    (layout : IdLayout)
    {actions : List Pipeline.Action}
    {pipeline : Pipeline σ ρ}
    (follows : (opening.launched layout).follow opening.setup actions =
      some pipeline) :
    ∃ others last outcome, .expire ∉ others ∧
      pipeline.follow opening.setup others = some last ∧
      last.outcome? = some outcome := by
  obtain ⟨staffed, roomy⟩ := opening.setup_pos
  have told : (opening.launched layout).Told := by
    intro awaits
    cases awaits
  obtain ⟨others, last, result, punctual, reaches, ended⟩ :=
    Pipeline.exists_follow_ended roomy staffed (told.follow follows)
  have ends : ∃ outcome, last.outcome? = some outcome := by
    rw [Pipeline.outcome?, ended]
    exact ⟨_, rfl⟩
  obtain ⟨outcome, ends⟩ := ends
  exact ⟨others, last, outcome, punctual, reaches, ends⟩

/-- A job yields something. -/
theorem exists_yields
    [Mergeable σ]
    (opening : job.Opening context launch)
    (layout : IdLayout) :
    ∃ outcome, opening.Yields layout outcome := by
  have here : (opening.launched layout).follow opening.setup [] =
      some (opening.launched layout) := rfl
  obtain ⟨actions, last, outcome, punctual, reaches, ends⟩ :=
    opening.exists_ended layout here
  exact ⟨outcome, Yields.interleaved actions last outcome punctual reaches ends⟩

/-- A brisk job yields what its clock makes of it. -/
theorem yields_of_brisk
    [Mergeable σ]
    {opening : job.Opening context launch}
    {layout : IdLayout}
    (brisk : opening.Brisk layout) :
    opening.Yields layout (job.execute layout context launch) :=
  .clocked brisk.onTime

end Opening

/-- No schedule makes a difference. Take any job that is accepted, whose streams open and
that is not given up at once. If it fits it gets under way, and where merging is
commutative and associative and has answers it then comes to what its sequential run
comes to, however its readers, its join and its workers interleave, as long as no wait
runs out. From wherever it has got to, it can come to an end without a wait running out,
and it cannot go on for ever. On its clock it comes to the same if its pauses and its runs
do not take longer than it waits. If it does not fit, starting it crashes. -/
theorem every_schedule_agrees
    [Mergeable σ]
    {combine : σ -> σ -> σ}
    (lawful : Mergeable.Commutes combine)
    (job : Job σ ρ)
    (context : ReadContext)
    (launch : Launch)
    (layout : IdLayout)
    (accepted : job.refusal? launch = none)
    (opens : job.openFault? context = none)
    (kept : launch.aborted = false) :
    (job.Fits -> Nonempty (job.Opening context launch)) ∧
    (¬job.Fits -> ∃ error, error.isCrash ∧
      (job.execute layout context launch).result = .error error) ∧
    ∀ opening : job.Opening context launch, opening.MergesFreely layout ->
      (∀ outcome, opening.Yields layout outcome ->
        outcome.Agrees (opening.sequential layout)) ∧
      (∀ actions pipeline, .expire ∉ actions ->
        (opening.launched layout).follow opening.setup actions =
          some pipeline ->
        ∃ others last outcome, .expire ∉ others ∧
          pipeline.follow opening.setup others = some last ∧
          last.outcome? = some outcome) ∧
      (∀ schedule : Nat -> Pipeline.Action, ∃ count,
        (opening.launched layout).follow opening.setup
          ((List.range count).map schedule) = none) ∧
      (opening.Brisk layout ->
        opening.Yields layout (job.execute layout context launch)) := by
  refine ⟨?starts, ?crashes, ?agrees⟩
  case starts =>
    exact fun fits => nonempty_opening_iff.2 ⟨accepted, opens, fits, kept⟩
  case crashes =>
    intro oversize
    obtain ⟨long, many⟩ := result_of_oversize layout accepted opens
    by_cases queues : job.config.queueLength.toNat ≤ JobError.longestQueue
    · have workers : JobError.mostWorkers < job.config.workers.toNat :=
        Nat.lt_of_not_le fun workers => oversize ⟨queues, workers⟩
      exact ⟨_, rfl, many queues workers⟩
    · exact ⟨_, rfl, long (Nat.lt_of_not_le queues)⟩
  case agrees =>
    intro opening free
    refine ⟨fun outcome yields => yields.agrees lawful free, ?_, ?_,
      Opening.yields_of_brisk⟩
    · intro actions pipeline _ follows
      exact opening.exists_ended layout follows
    · exact Pipeline.exists_follow_eq_none opening.setup
        (opening.launched layout)

end Job

namespace TwoStreams

/-- Merging the one sibling has an answer, also when the other stream fails. -/
theorem mergesFreely :
    ∀ reads ∈ [other, brokenLate],
      (opening .fail primary reads).MergesFreely IdLayout.standard := by
  intro reads member _ _
  have single : ∀ reads ∈ [other, brokenLate],
      ((opening .fail primary reads).joined
        IdLayout.standard).progress.store.siblings = [9] := by
    decide +kernel
  have through : ∀ reads ∈ [other, brokenLate],
      (((opening .fail primary reads).joined
        IdLayout.standard).progress.store.absorbAll [9]).2 = true := by
    decide +kernel
  exact StateStore.mergesFreely_of_single (single reads member)
    (through reads member)

/-- The job when it is to have a longer queue than there can be. -/
def overlong : Job UInt64 Unit :=
  { job .fail with config := ⟨2, 2305843009213693952, 10, 1000, .fail⟩ }

/-- A job that is accepted crashes over streams over which its sequential run succeeds,
which has no queues. -/
theorem overlong_queue_crashes :
    overlong.config.fault? = none ∧
    overlong.refusal? Launch.ordinary = none ∧
    overlong.openFault? (context primary other) = none ∧
    Launch.ordinary.aborted = false ∧
    usual.MergesFreely IdLayout.standard ∧
    (usual.sequential IdLayout.standard).result =
      .ok ⟨2, 1, 0, 1, 0, 0, true⟩ ∧
    (overlong.execute IdLayout.standard (context primary other)
      Launch.ordinary).result = .error .queueTooLong := by
  refine ⟨by decide, by decide, by decide, rfl,
    mergesFreely other List.mem_cons_self, ?_, ?_⟩ <;>
    decide +kernel

theorem every_schedule_of_two_streams_agrees :
    Mergeable.Commutes (fun left right : UInt64 => left + right) ∧
    (job .fail).refusal? Launch.ordinary = none ∧
    (job .fail).openFault? (context primary other) = none ∧
    Launch.ordinary.aborted = false ∧
    usual.MergesFreely IdLayout.standard ∧
    usual.Brisk IdLayout.standard ∧
    usual.Yields IdLayout.standard ((job .fail).execute IdLayout.standard
      (context primary other) Launch.ordinary) ∧
    ∀ outcome, usual.Yields IdLayout.standard outcome ->
      outcome.Agrees (usual.sequential IdLayout.standard) := by
  have lawful := Mergeable.commutes_uint64
  have free : usual.MergesFreely IdLayout.standard :=
    mergesFreely other List.mem_cons_self
  have brisk : usual.Brisk IdLayout.standard := by
    decide +kernel
  obtain ⟨-, -, agrees⟩ := Job.every_schedule_agrees lawful (job .fail)
    (context primary other) Launch.ordinary IdLayout.standard rfl rfl rfl
  obtain ⟨agrees, -, -, clock⟩ := agrees usual free
  exact ⟨lawful, rfl, rfl, rfl, free, brisk, clock brisk, agrees⟩

end TwoStreams
end GraphSweep
