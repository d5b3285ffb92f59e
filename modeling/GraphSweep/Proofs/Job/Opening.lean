import GraphSweep.Job
import GraphSweep.Proofs.Join.Course

/-!
# Jobs that get under way

A job gets under way when it is not refused, all its streams open and it is not
given up. What it comes to is then settled by its streams, unless one of its waits
runs out: it is what the sequential run comes to, which joins the streams as if
they had been read in full, runs the program for one vertex after another and
merges the siblings in the end.
-/

namespace GraphSweep

/-- A stream opens for each of the queries. -/
theorem ReadContext.openAll_opens
    {context : ReadContext}
    {queries : List Slice}
    {streams : List KeyStream}
    (opens : context.openAll queries = (streams, none)) :
    List.Forall₂ (fun query stream => context.openStream query = .ok stream)
      queries streams := by
  induction queries generalizing streams with
  | nil =>
      cases opens
      exact List.Forall₂.nil
  | cons query queries hypothesis =>
      unfold openAll at opens
      cases opened : context.openStream query with
      | error error => simp [opened] at opens
      | ok stream =>
          simp only [opened, Prod.mk.injEq] at opens
          obtain ⟨rfl, faultless⟩ := opens
          exact List.Forall₂.cons opened
            (hypothesis (Prod.ext rfl faultless))

namespace Job

variable {σ ρ : Type}

/-- The queues of a job are not longer, and its workers not more, than there can be. -/
structure Fits (job : Job σ ρ) : Prop where
  queues : job.config.queueLength.toNat ≤ JobError.longestQueue
  workers : job.config.workers.toNat ≤ JobError.mostWorkers

/-- Why the streams of a job do not all open, if they do not. -/
def openFault? (job : Job σ ρ) (context : ReadContext) : Option StorageError :=
  match context.openStream Slice.probe with
  | .error fault => some fault
  | .ok _ => (context.openAll (registerQueries job.queries)).2

/-- All that lets a job get under way. -/
structure Opening
    (job : Job σ ρ)
    (context : ReadContext)
    (launch : Launch) where
  initializer : Initializer σ
  /-- The stream that tells which vertices exist. -/
  primary : KeyStream
  /-- The streams of the queries registered. -/
  others : List KeyStream
  accepted : job.refusal? launch = none
  initialized : job.initializer = some initializer
  opensProbe : context.openStream Slice.probe = .ok primary
  opensAll : context.openAll (registerQueries job.queries) = (others, none)
  queueFits : job.config.queueLength.toNat ≤ JobError.longestQueue
  workersFit : job.config.workers.toNat ≤ JobError.mostWorkers
  kept : launch.aborted = false

end Job

theorem Launch.aborted_ordinary : Launch.ordinary.aborted = false := rfl

namespace Tally

/-- The counts but for the runs made by the join itself. -/
def withoutInlined (tally : Tally) : Tally := { tally with inlined := 0 }

end Tally

namespace Outcome

variable {σ ρ : Type}

/-- A bounded wait of the job has run out. -/
def TimedOut (outcome : Outcome σ ρ) : Prop :=
  ∃ error, outcome.result = .error error ∧ error.isTimeout

/-- Two outcomes that match: the same error, or the same counts and the same runs of
the program. How many runs were made by the join itself is left open. -/
structure Matches (left right : Outcome σ ρ) : Prop where
  result : left.result.map Tally.withoutInlined =
    right.result.map Tally.withoutInlined
  visited : ∀ tally, left.result = .ok tally ->
    left.visited.Perm right.visited

/-- Two outcomes that agree: they match, and the states read alike unless the job
has failed. -/
structure Agrees (left right : Outcome σ ρ) : Prop
    extends Matches left right where
  store : ∀ tally, left.result = .ok tally -> left.store.Same right.store

/-- Where the results are the same but for the runs made by the join itself, both
are good or none is. -/
theorem exists_ok_of_same
    {left right : Outcome σ ρ}
    {tally : Tally}
    (same : left.result.map Tally.withoutInlined =
      right.result.map Tally.withoutInlined)
    (succeeded : left.result = .ok tally) :
    ∃ counts, right.result = .ok counts := by
  rw [succeeded] at same
  cases other : right.result with
  | error error =>
      rw [other] at same
      cases same
  | ok counts => exact ⟨counts, rfl⟩

/-- An outcome that matches one with an error has that error. -/
theorem Matches.error_of
    {left right : Outcome σ ρ}
    {error : JobError}
    (like : left.Matches right)
    (failed : right.result = .error error) :
    left.result = .error error := by
  have same := like.result
  rw [failed] at same
  cases ends : left.result with
  | ok tally =>
      rw [ends] at same
      cases same
  | error other =>
      rw [ends] at same
      cases same
      rfl

/-- Outcomes that match a third match one another. -/
theorem Matches.trans_symm
    {left middle right : Outcome σ ρ}
    (first : left.Matches middle)
    (second : right.Matches middle) :
    left.Matches right := by
  have result := first.result.trans second.result.symm
  refine ⟨result, ?_⟩
  intro tally succeeded
  obtain ⟨counts, other⟩ := exists_ok_of_same result succeeded
  exact (first.visited tally succeeded).trans (second.visited counts other).symm

/-- Outcomes that agree with a third agree with one another. -/
theorem Agrees.trans_symm
    {left middle right : Outcome σ ρ}
    (first : left.Agrees middle)
    (second : right.Agrees middle) :
    left.Agrees right := by
  have both := first.toMatches.trans_symm second.toMatches
  refine ⟨both, ?_⟩
  intro tally succeeded
  obtain ⟨counts, other⟩ := exists_ok_of_same both.result succeeded
  exact (first.store tally succeeded).trans (second.store counts other).symm

/-- Outcomes with one error agree. -/
theorem Agrees.of_error
    {left right : Outcome σ ρ}
    {error : JobError}
    (failed : left.result = .error error)
    (reference : right.result = .error error) :
    left.Agrees right := by
  refine ⟨⟨by rw [failed, reference], fun tally succeeded => ?_⟩,
    fun tally succeeded => ?_⟩ <;>
    simp [failed] at succeeded

end Outcome

namespace Job

variable {σ ρ : Type}

/-- A job that is accepted has an initializer. -/
theorem exists_initializer
    {job : Job σ ρ}
    {launch : Launch}
    (accepted : job.refusal? launch = none) :
    ∃ initializer, job.initializer = some initializer := by
  rw [← Option.isSome_iff_exists, Option.isSome_iff_ne_none]
  intro none
  unfold refusal? at accepted
  split at accepted
  · cases accepted
  · split at accepted
    · cases accepted
    · simp [none] at accepted

/-- The streams of a job open where no fault is in the way. -/
theorem exists_streams
    {job : Job σ ρ}
    {context : ReadContext}
    (opens : job.openFault? context = none) :
    ∃ primary others, context.openStream Slice.probe = .ok primary ∧
      context.openAll (registerQueries job.queries) = (others, none) := by
  unfold openFault? at opens
  cases probed : context.openStream Slice.probe with
  | error fault =>
      rw [probed] at opens
      cases opens
  | ok primary =>
      rw [probed] at opens
      exact ⟨primary, _, rfl, Prod.ext rfl opens⟩

/-- A job gets under way exactly if it is accepted, its streams open, it fits and it is
not given up at once. -/
theorem nonempty_opening_iff
    {job : Job σ ρ}
    {context : ReadContext}
    {launch : Launch} :
    Nonempty (job.Opening context launch) ↔
      job.refusal? launch = none ∧ job.openFault? context = none ∧ job.Fits ∧
        launch.aborted = false := by
  constructor
  · rintro ⟨opening⟩
    refine ⟨opening.accepted, ?_, ⟨opening.queueFits, opening.workersFit⟩,
      opening.kept⟩
    rw [openFault?, opening.opensProbe]
    exact congrArg Prod.snd opening.opensAll
  · rintro ⟨accepted, opens, fits, kept⟩
    obtain ⟨initializer, initialized⟩ := exists_initializer accepted
    obtain ⟨primary, others, probed, opened⟩ := exists_streams opens
    exact ⟨
      { initializer := initializer
        primary := primary
        others := others
        accepted := accepted
        initialized := initialized
        opensProbe := probed
        opensAll := opened
        queueFits := fits.queues
        workersFit := fits.workers
        kept := kept }⟩

/-- A job that is accepted and whose streams open crashes where it is started if it does
not fit. -/
theorem result_of_oversize
    [Mergeable σ]
    {job : Job σ ρ}
    {context : ReadContext}
    {launch : Launch}
    (layout : IdLayout)
    (accepted : job.refusal? launch = none)
    (opens : job.openFault? context = none) :
    (JobError.longestQueue < job.config.queueLength.toNat ->
      (job.execute layout context launch).result = .error .queueTooLong) ∧
    (job.config.queueLength.toNat ≤ JobError.longestQueue ->
      JobError.mostWorkers < job.config.workers.toNat ->
      (job.execute layout context launch).result = .error .tooManyWorkers) := by
  obtain ⟨initializer, initialized⟩ := exists_initializer accepted
  obtain ⟨primary, others, probed, opened⟩ := exists_streams opens
  constructor
  · intro long
    simp only [execute, accepted, initialized, probed, opened]
    rw [if_pos long]
    rfl
  · intro fits many
    simp only [execute, accepted, initialized, probed, opened]
    rw [if_neg (Nat.not_lt.2 fits), if_pos many]
    rfl

/-- The configuration of an accepted job has no fault. -/
theorem fault?_of_accepted
    {job : Job σ ρ}
    {launch : Launch}
    (accepted : job.refusal? launch = none) :
    job.config.fault? = none := by
  unfold refusal? at accepted
  cases fault : job.config.fault? with
  | none => rfl
  | some fault => simp [fault] at accepted

/-- A job whose join has succeeded is given up because its workers or its readers do
not stop in time, or it comes to releasing its read context. -/
theorem conclude_cases
    [Mergeable σ]
    (job : Job σ ρ)
    (context : ReadContext)
    (streams : Nat)
    (start : StateStore σ)
    (timeline : Timeline σ ρ)
    (progress : Progress σ ρ) :
    (∃ now component,
      job.conclude context streams start timeline progress =
        job.giveUp streams start timeline now
          (.stopTimeout component job.config.timeout)) ∨
    ∃ inlined now, job.conclude context streams start timeline progress =
      release context streams progress inlined now := by
  unfold conclude
  dsimp only
  split
  · exact Or.inl ⟨_, _, rfl⟩
  · split
    · exact Or.inr ⟨_, _, rfl⟩
    · exact Or.inl ⟨_, _, rfl⟩

namespace Opening

variable {job : Job σ ρ} {context : ReadContext} {launch : Launch}

/-- The store that the job begins with. -/
def start
    (_ : job.Opening context launch)
    (layout : IdLayout) : StateStore σ :=
  (job.startStore layout).reopen

/-- What the job does for the vertices it meets. -/
def sweep (opening : job.Opening context launch) : Sweep σ ρ :=
  ⟨job.config.policy, opening.initializer, job.program⟩

/-- The first stream as the job sees it. -/
def probe (opening : job.Opening context launch) : Feed :=
  Feed.ofReads opening.primary.reads

/-- The data lanes of the job before its first vertex. -/
def lanes (opening : job.Opening context launch) : List Lane :=
  Job.lanes 1 (registerQueries job.queries)
    (opening.others.map fun stream => Feed.ofReads stream.reads)

/-- The job before its first vertex. -/
def ready
    (opening : job.Opening context launch)
    (layout : IdLayout) : Progress σ ρ :=
  ⟨opening.lanes, none, .zero, opening.start layout, []⟩

/-- The streams of the job joined as if they had been read in full. -/
def joined
    (opening : job.Opening context launch)
    (layout : IdLayout) : Joined σ ρ :=
  (opening.ready layout).run opening.sweep opening.probe.ending
    opening.probe.items

/-- What the sequential run of the job comes to. It takes no time. -/
def sequential
    [Mergeable σ]
    (opening : job.Opening context launch)
    (layout : IdLayout) : Outcome σ ρ :=
  let joined := opening.joined layout
  match joined.result with
  | .error error =>
      ⟨.error error, joined.progress.store, joined.progress.visited, [], 0, []⟩
  | .ok () =>
      release context (opening.others.length + 1) joined.progress 0 0

/-- The number of runs made by the join itself and the time do not change what a
job comes to. -/
theorem release_agrees
    [Mergeable σ]
    (context : ReadContext)
    (streams : Nat)
    (progress : Progress σ ρ)
    (inlined now : Nat) :
    (release context streams progress inlined now).Agrees
      (release context streams progress 0 0) := by
  unfold release
  cases fault : context.releaseFault with
  | some fault =>
      exact ⟨⟨rfl, fun _ _ => List.Perm.refl _⟩,
        fun _ _ => StateStore.Same.refl _⟩
  | none =>
      dsimp only
      by_cases partitioned : progress.tally.sawPartitioned
      · simp only [partitioned, if_true]
        cases progress.store.mergeSiblings with
        | mk count store =>
            cases count <;> exact ⟨⟨rfl, fun _ _ => List.Perm.refl _⟩,
              fun _ _ => StateStore.Same.refl _⟩
      · simp only [partitioned]
        exact ⟨⟨rfl, fun _ _ => List.Perm.refl _⟩,
          fun _ _ => StateStore.Same.refl _⟩

/-- A job under way joins its streams. -/
theorem execute_eq_process
    [Mergeable σ]
    (opening : job.Opening context launch)
    (layout : IdLayout) :
    job.execute layout context launch =
      job.process context opening.initializer (opening.start layout)
        opening.primary opening.others := by
  have queueFits := opening.queueFits
  have workersFit := opening.workersFit
  unfold execute
  simp only [opening.accepted, opening.initialized, opening.opensProbe,
    opening.opensAll, opening.kept]
  rw [if_neg (by omega), if_neg (by omega)]
  rfl

/-- The join followed on the clock. -/
def followed
    (opening : job.Opening context launch)
    (layout : IdLayout) : Followed σ ρ :=
  (Timeline.start job.pace (opening.primary :: opening.others)).follow job.pace
    (opening.joined layout).moves

/-- A job that waits for a stream in vain is given up. -/
theorem execute_of_stalled
    [Mergeable σ]
    (opening : job.Opening context launch)
    (layout : IdLayout)
    {stream : Nat}
    (stalled : (opening.followed layout).stalled = some stream) :
    job.execute layout context launch =
      job.giveUp (opening.others.length + 1) (opening.start layout)
        (opening.followed layout).timeline
        (opening.followed layout).timeline.clock
        (.stalled stream job.config.timeout) := by
  rw [opening.execute_eq_process]
  unfold process
  simp only [followed, joined, ready, sweep, probe, lanes] at stalled ⊢
  simp only [stalled]

/-- A job whose streams cannot be joined is given up. -/
theorem execute_eq_giveUp
    [Mergeable σ]
    (opening : job.Opening context launch)
    (layout : IdLayout)
    {error : JobError}
    (onTime : (opening.followed layout).stalled = none)
    (failed : (opening.joined layout).result = .error error) :
    job.execute layout context launch =
      job.giveUp (opening.others.length + 1) (opening.start layout)
        (opening.followed layout).timeline
        (opening.followed layout).timeline.clock error := by
  rw [opening.execute_eq_process]
  unfold process
  simp only [followed, joined, ready, sweep, probe, lanes] at onTime failed ⊢
  simp only [onTime, failed]

/-- It ends with the error that is in the way of the join. -/
theorem execute_of_failed
    [Mergeable σ]
    (opening : job.Opening context launch)
    (layout : IdLayout)
    {error : JobError}
    (onTime : (opening.followed layout).stalled = none)
    (failed : (opening.joined layout).result = .error error) :
    (job.execute layout context launch).result = .error error := by
  rw [opening.execute_eq_giveUp layout onTime failed]
  rfl

/-- A job whose streams have been joined is concluded. -/
theorem execute_of_joined
    [Mergeable σ]
    (opening : job.Opening context launch)
    (layout : IdLayout)
    (onTime : (opening.followed layout).stalled = none)
    (succeeded : (opening.joined layout).result = .ok ()) :
    job.execute layout context launch =
      job.conclude context (opening.others.length + 1) (opening.start layout)
        (opening.followed layout).timeline
        (opening.joined layout).progress := by
  rw [opening.execute_eq_process]
  unfold process
  simp only [followed, joined, ready, sweep, probe, lanes]
    at onTime succeeded ⊢
  simp only [onTime, succeeded]

end Opening
end Job

/-! ## A small job

A job over two streams: the first tells which vertices exist, and of each of them
the job counts the entries that the other one delivers. -/

namespace TwoStreams

/-- A property of a vertex, without a value. -/
def plain : Entry := ⟨Relation.columnOfProperty Relation.firstFreeType, []⟩

/-- The reads of some vertices. -/
def reads (records : List (VertexId × List Entry)) : List Read :=
  records.map fun (id, entries) => .record ⟨VertexId.key id, entries⟩

/-- A vertex, a hidden one, a sibling of a partitioned one, and one that does not
exist any more. -/
def primary : List Read :=
  reads
    [ (4, [Relation.markerEntry]), (6, []), (9, [Relation.markerEntry]),
      (12, [plain]) ]

/-- Entries of a vertex that exists, of one that the first stream does not name, and
of one that does not exist any more. -/
def other : List Read := reads [(4, [plain]), (8, [plain]), (12, [plain])]

/-- The other stream when it fails before the second vertex that exists. -/
def broken : List Read := other.take 1 ++ [.crash ""]

/-- The other stream when it fails behind all its vertices. -/
def brokenLate : List Read := other ++ [.crash ""]

/-- The other stream when it goes on behind all these vertices. -/
def goingOn : List Read := other ++ reads [(16, [plain])]

/-- A read context with two streams. -/
def context (primary other : List Read) : ReadContext where
  openStream query := .ok ⟨if query = Slice.probe then primary else other, none⟩
  releaseFault := none

/-- A job with two workers and queues for one vertex. -/
def job (policy : FailurePolicy) : Job UInt64 Unit where
  queries := [Slice.ofType Relation.firstFreeType]
  config := ⟨2, 1, 10, 1000, policy⟩
  initializer := some (.state 0)
  seed := none
  program view own :=
    let seen := view.entries (Slice.ofType Relation.firstFreeType)
    Visit.write (own.current?.getD 0 + UInt64.ofNat seen.length)

/-- The job gets under way. -/
def opening
    (policy : FailurePolicy)
    (primary other : List Read) :
    (job policy).Opening (context primary other) Launch.ordinary where
  initializer := .state 0
  primary := ⟨primary, none⟩
  others := [⟨other, none⟩]
  accepted := rfl
  initialized := rfl
  opensProbe := rfl
  opensAll := rfl
  queueFits := show 1 ≤ JobError.longestQueue by decide
  workersFit := show 2 ≤ JobError.mostWorkers by decide
  kept := rfl

/-- The job over streams of which none fails. -/
def usual : (job .fail).Opening (context primary other) Launch.ordinary :=
  opening .fail primary other

end TwoStreams
end GraphSweep
