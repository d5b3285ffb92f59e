import GraphSweep.Proofs.Job.Schedules
import GraphSweep.Proofs.Join.Cut
import GraphSweep.Proofs.Pipeline.Cut

/-!
# Jobs that truncate failing streams

Where failing streams are truncated, a job does what it does when each of its
streams simply ends before its first failing read: on the clock, and in every
interleaving of its parts.
-/

namespace GraphSweep

/-- The stream that ends before its first failing read. -/
def KeyStream.cut (stream : KeyStream) : KeyStream :=
  { stream with reads := Read.beforeFault stream.reads }

/-- The read context whose streams end before their first failing reads. -/
def ReadContext.cut (context : ReadContext) : ReadContext where
  openStream := fun query => (context.openStream query).map KeyStream.cut
  releaseFault := context.releaseFault

/-- Cut streams open as the streams do. -/
theorem ReadContext.openAll_cut (context : ReadContext) (queries : List Slice) :
    context.cut.openAll queries =
      ((context.openAll queries).1.map KeyStream.cut,
        (context.openAll queries).2) := by
  induction queries with
  | nil => rfl
  | cons query queries hypothesis =>
      have opened : context.cut.openStream query =
          (context.openStream query).map KeyStream.cut := rfl
      rw [openAll, openAll, opened, hypothesis]
      cases context.openStream query <;> rfl

/-- The channels of cut streams are the channels, cut. -/
theorem Channel.start_cut
    (stream : Nat)
    (queries : List Slice)
    (sources : List KeyStream) :
    Channel.start stream queries (sources.map KeyStream.cut) =
      (Channel.start stream queries sources).map Channel.cut := by
  induction queries generalizing stream sources with
  | nil => rfl
  | cons query queries hypothesis =>
      cases sources with
      | nil => rfl
      | cons source sources =>
          rw [List.map_cons, start, start, List.map_cons, hypothesis]
          rfl

namespace Pause

/-- A reader comes to a pause before the first failing read, if it does. -/
theorem reaches_iff (reads : List Read) (after : Nat) :
    (after ≤ reads.length ∧
        (Feed.ofReads (reads.take after)).ending = .exhausted) ↔
      after ≤ (Read.beforeFault reads).length := by
  induction reads generalizing after with
  | nil =>
      rw [Read.beforeFault_nil, List.take_nil]
      exact and_iff_left rfl
  | cons read rest hypothesis =>
      cases after with
      | zero => simp [Feed.ofReads]
      | succ after =>
          rw [List.take_succ_cons]
          cases fault : read.fault? with
          | some error =>
              rw [Feed.ofReads_of_fault _ fault,
                Read.beforeFault_cons_of_some rest fault]
              simp
          | none =>
              rw [Feed.ofReads_of_no_fault _ fault,
                Read.beforeFault_cons_of_none rest fault, List.length_cons,
                List.length_cons, Nat.succ_le_succ_iff, Nat.succ_le_succ_iff]
              exact hypothesis after

/-- What is read before the pause is read of the cut stream as well. -/
theorem take_beforeFault
    {reads : List Read}
    {after : Nat}
    (within : after ≤ (Read.beforeFault reads).length) :
    (Read.beforeFault reads).take after = reads.take after := by
  have parts : Read.beforeFault reads ++
      reads.dropWhile (fun read => read.fault?.isNone) = reads :=
    List.takeWhile_append_dropWhile
  conv_rhs => rw [← parts]
  exact (List.take_append_of_le_length within).symm

/-- The reader of a cut stream pauses where the reader does. -/
theorem ofStream?_cut (capacity stream : Nat) (source : KeyStream) :
    ofStream? capacity stream source.cut = ofStream? capacity stream source := by
  rw [ofStream?, ofStream?]
  have stall : source.cut.stall = source.stall := rfl
  have reads : source.cut.reads = Read.beforeFault source.reads := rfl
  rw [stall, reads]
  cases source.stall with
  | none => rfl
  | some stall =>
      dsimp only
      have items : (Feed.ofReads (Read.beforeFault source.reads)).items =
          (Feed.ofReads source.reads).items := by
        rw [Feed.ofReads_beforeFault]
      have here := reaches_iff source.reads stall.after
      have there := reaches_iff (Read.beforeFault source.reads) stall.after
      rw [Read.beforeFault_beforeFault] at there
      by_cases within : stall.after ≤ (Read.beforeFault source.reads).length
      · rw [if_pos (there.2 within), if_pos (here.2 within),
          take_beforeFault within, items]
      · rw [if_neg (mt there.1 within), if_neg (mt here.1 within)]

end Pause

/-- The timeline of a job does not tell its streams from cut ones. -/
theorem Timeline.start_cut
    {σ ρ : Type}
    (pace : Pace)
    (streams : List KeyStream) :
    (Timeline.start pace (streams.map KeyStream.cut) : Timeline σ ρ) =
      Timeline.start pace streams := by
  have pauses : (start pace (streams.map KeyStream.cut) :
      Timeline σ ρ).pauses = (start pace streams : Timeline σ ρ).pauses := by
    rw [start, start, List.zipIdx_map, List.filterMap_map]
    apply List.filterMap_congr
    intro entry _
    exact Pause.ofStream?_cut pace.capacity entry.2 entry.1
  exact congrArg (Timeline.mk 0 · []) pauses

namespace Job

variable {σ ρ : Type}

/-- The lanes of cut streams are the lanes, cut. -/
theorem lanes_cut
    (stream : Nat)
    (queries : List Slice)
    (sources : List KeyStream) :
    lanes stream queries
        ((sources.map KeyStream.cut).map fun source =>
          Feed.ofReads source.reads) =
      (lanes stream queries
        (sources.map fun source => Feed.ofReads source.reads)).map Lane.cut := by
  induction queries generalizing stream sources with
  | nil => rfl
  | cons query queries hypothesis =>
      cases sources with
      | nil => rfl
      | cons source sources =>
          have feed : Feed.ofReads source.cut.reads =
              ⟨(Feed.ofReads source.reads).items, .exhausted⟩ :=
            Feed.ofReads_beforeFault source.reads
          simp only [List.map_cons, lanes, feed, hypothesis]
          rfl

theorem release_cut
    [Mergeable σ]
    (context : ReadContext)
    (streams : Nat)
    (progress : Progress σ ρ)
    (inlined now : Nat) :
    release context.cut streams progress.cut inlined now =
      release context streams progress inlined now := by
  rw [release, release, Progress.leftover_cut]
  rfl

theorem conclude_cut
    [Mergeable σ]
    (job : Job σ ρ)
    (context : ReadContext)
    (streams : Nat)
    (start : StateStore σ)
    (timeline : Timeline σ ρ)
    (progress : Progress σ ρ) :
    job.conclude context.cut streams start timeline progress.cut =
      job.conclude context streams start timeline progress := by
  simp only [conclude, release_cut]

/-- A job joins cut streams as it joins the streams. -/
theorem process_cut
    [Mergeable σ]
    {job : Job σ ρ}
    (truncates : job.config.policy = .truncate)
    (context : ReadContext)
    (initializer : Initializer σ)
    (start : StateStore σ)
    (primary : KeyStream)
    (others : List KeyStream) :
    job.process context.cut initializer start primary.cut
        (others.map KeyStream.cut) =
      job.process context initializer start primary others := by
  have feed : Feed.ofReads primary.cut.reads =
      ⟨(Feed.ofReads primary.reads).items, .exhausted⟩ :=
    Feed.ofReads_beforeFault primary.reads
  have streams : primary.cut :: others.map KeyStream.cut =
      (primary :: others).map KeyStream.cut := rfl
  have ready : (⟨(lanes 1 (registerQueries job.queries)
        (others.map fun stream => Feed.ofReads stream.reads)).map Lane.cut,
        none, .zero, start, []⟩ : Progress σ ρ) =
      Progress.cut ⟨lanes 1 (registerQueries job.queries)
        (others.map fun stream => Feed.ofReads stream.reads), none, .zero,
        start, []⟩ := rfl
  have sweep : Sweep.policy (⟨job.config.policy, initializer, job.program⟩ :
      Sweep σ ρ) = .truncate := truncates
  simp only [process, lanes_cut, feed, ready, streams, Timeline.start_cut,
    List.length_map]
  rw [Progress.run_cut sweep _ (Feed.ofReads primary.reads).ending]
  simp only [conclude_cut]

/-- A job executes over cut streams as over the streams. -/
theorem execute_cut
    [Mergeable σ]
    {job : Job σ ρ}
    (truncates : job.config.policy = .truncate)
    (layout : IdLayout)
    (context : ReadContext)
    (launch : Launch) :
    job.execute layout context.cut launch =
      job.execute layout context launch := by
  have opened : context.cut.openStream Slice.probe =
      (context.openStream Slice.probe).map KeyStream.cut := rfl
  have streams (primary : KeyStream) (others : List KeyStream) :
      primary.cut :: others.map KeyStream.cut =
        (primary :: others).map KeyStream.cut := rfl
  have lost (streams : List KeyStream) (error : JobError) :
      job.lose (job.startStore layout).reopen (streams.map KeyStream.cut)
          error =
        job.lose (job.startStore layout).reopen streams error := by
    simp only [lose, Timeline.start_cut, List.length_map]
  rw [execute, execute, opened, ReadContext.openAll_cut]
  cases job.refusal? launch with
  | some error => rfl
  | none =>
      cases job.initializer with
      | none => rfl
      | some initializer =>
          cases context.openStream Slice.probe with
          | error error => rfl
          | ok primary =>
              simp only [Except.map, List.length_map, streams, lost,
                process_cut truncates]

namespace Opening

variable {job : Job σ ρ} {context : ReadContext} {launch : Launch}

/-- A job that gets under way does so with its streams cut. -/
def cut (opening : job.Opening context launch) :
    job.Opening context.cut launch where
  initializer := opening.initializer
  primary := opening.primary.cut
  others := opening.others.map KeyStream.cut
  accepted := opening.accepted
  initialized := opening.initialized
  opensProbe := congrArg (Except.map KeyStream.cut) opening.opensProbe
  opensAll := by rw [ReadContext.openAll_cut, opening.opensAll]
  queueFits := opening.queueFits
  workersFit := opening.workersFit
  kept := opening.kept

/-- The job begins alike with its streams cut. -/
theorem launched_cut
    (opening : job.Opening context launch)
    (layout : IdLayout) :
    opening.cut.launched layout = (opening.launched layout).cut := by
  have channels := Channel.start_cut 1 (registerQueries job.queries)
    opening.others
  have count : (opening.others.map KeyStream.cut).length =
      opening.others.length := List.length_map _
  have others : opening.cut.others = opening.others.map KeyStream.cut := rfl
  rw [launched, launched, Pipeline.start, others, channels, count]
  rfl

/-- An interleaving of the job with its streams cut is one of the job. -/
theorem follow_launched_cut
    [Mergeable σ]
    (truncates : job.config.policy = .truncate)
    (opening : job.Opening context launch)
    (layout : IdLayout)
    (actions : List Pipeline.Action) :
    (opening.cut.launched layout).follow opening.cut.setup actions =
      ((opening.launched layout).follow opening.setup actions).map
        Pipeline.cut := by
  have setup : opening.cut.setup = opening.setup := rfl
  have policy : opening.setup.sweep.policy = .truncate := truncates
  rw [launched_cut, setup, Pipeline.follow_cut policy]

/-- The job is on time with its streams cut exactly if it is. -/
theorem onTime_cut
    [Mergeable σ]
    (truncates : job.config.policy = .truncate)
    (opening : job.Opening context launch)
    (layout : IdLayout) :
    opening.cut.OnTime layout ↔ opening.OnTime layout := by
  rw [← opening.cut.not_timedOut_iff, ← opening.not_timedOut_iff,
    execute_cut truncates]

/-- The job yields the same with its streams cut. -/
theorem yields_cut
    [Mergeable σ]
    (truncates : job.config.policy = .truncate)
    (opening : job.Opening context launch)
    (layout : IdLayout)
    (outcome : Outcome σ ρ) :
    opening.cut.Yields layout outcome ↔ opening.Yields layout outcome := by
  have clock := execute_cut truncates layout context launch
  constructor
  · intro yields
    cases yields with
    | clocked onTime =>
        rw [clock]
        exact Yields.clocked ((opening.onTime_cut truncates layout).1 onTime)
    | interleaved actions pipeline _ punctual follows ends =>
        rw [opening.follow_launched_cut truncates] at follows
        obtain ⟨whole, reaches, rfl⟩ := Option.map_eq_some_iff.1 follows
        rw [Pipeline.outcome?_cut] at ends
        exact Yields.interleaved actions whole outcome punctual reaches ends
  · intro yields
    cases yields with
    | clocked onTime =>
        rw [← clock]
        exact Yields.clocked ((opening.onTime_cut truncates layout).2 onTime)
    | interleaved actions pipeline _ punctual follows ends =>
        have reaches := opening.follow_launched_cut truncates layout actions
        rw [follows] at reaches
        rw [← Pipeline.outcome?_cut] at ends
        exact Yields.interleaved actions pipeline.cut outcome punctual reaches
          ends

end Opening

/-- A job that truncates failing streams does what it does over the streams cut
before their first failing reads. On the clock it is the same, every outcome that an
interleaving of its parts has is one that it has over the cut streams and the other
way round, and where merging makes no difference, any two of these agree. -/
theorem truncating_eq_cutting
    [Mergeable σ]
    {job : Job σ ρ}
    (truncates : job.config.policy = .truncate)
    (layout : IdLayout)
    (context : ReadContext)
    (launch : Launch) :
    job.execute layout context.cut launch =
        job.execute layout context launch ∧
      ∀ opening : job.Opening context launch,
        (∀ outcome,
          opening.cut.Yields layout outcome ↔ opening.Yields layout outcome) ∧
        ∀ combine : σ -> σ -> σ, Mergeable.Commutes combine ->
          opening.MergesFreely layout -> ∀ outcome other,
            opening.Yields layout outcome -> opening.cut.Yields layout other ->
              outcome.Agrees other := by
  refine ⟨execute_cut truncates layout context launch, ?_⟩
  intro opening
  have same := opening.yields_cut truncates layout
  refine ⟨same, ?_⟩
  intro combine lawful free outcome other here there
  have first := here.agrees lawful free
  have second := ((same other).1 there).agrees lawful free
  exact first.trans_symm second

end Job

namespace TwoStreams

theorem truncating_two_streams_eq_cutting :
    (job .truncate).config.policy = .truncate ∧
    (job .truncate).execute IdLayout.standard (context primary broken).cut
        Launch.ordinary =
      (job .truncate).execute IdLayout.standard (context primary broken)
        Launch.ordinary ∧
    ∀ outcome,
      (opening .truncate primary broken).cut.Yields IdLayout.standard outcome ↔
        (opening .truncate primary broken).Yields IdLayout.standard outcome := by
  have truncates : (job .truncate).config.policy = .truncate := rfl
  obtain ⟨execute, yields⟩ := Job.truncating_eq_cutting truncates
    IdLayout.standard (context primary broken) Launch.ordinary
  exact ⟨truncates, execute, (yields (opening .truncate primary broken)).1⟩

end TwoStreams
end GraphSweep
