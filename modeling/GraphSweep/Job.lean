import GraphSweep.Timeline

/-!
# Jobs

A job asks the existence probe and the queries registered for it, opens a stream
for each, joins the streams, and ends by stopping its workers and readers,
releasing the read context and merging the siblings of partitioned vertices. What
it does to the read context is recorded as a list of events. A reader that does
not stop in time is left asleep, and the read context is not released then.
-/

namespace GraphSweep

/-- A job as it is set up. -/
structure Job (σ ρ : Type) where
  /-- The queries registered for the job, in order. -/
  queries : List Slice
  config : JobConfig
  initializer : Option (Initializer σ)
  /-- The store that the job goes on with, if not a new one. -/
  seed : Option (StateStore σ)
  program : Program σ ρ

/-- Circumstances of a start that the job does not control. -/
structure Launch where
  /-- Whether the job is started where jobs can run. -/
  inRuntime : Bool
  /-- Whether the job is given up right after its start. -/
  aborted : Bool

/-- A reader that a job leaves asleep. -/
structure Straggler where
  stream : Nat
  /-- For how many milliseconds after the job it sleeps on. -/
  millis : Nat

/-- What came of a job. -/
structure Outcome (σ ρ : Type) where
  result : Except JobError Tally
  /-- The store that the job worked on. -/
  store : StateStore σ
  /-- The vertices that the program was run for, in order. -/
  visited : List (Visited σ ρ)
  /-- What was done to the read context, in order. -/
  events : List ContextEvent
  /-- How many milliseconds the job took. -/
  lasting : Nat
  /-- The readers that stop only after the job. -/
  stragglers : List Straggler

namespace Launch

/-- A start where jobs can run, of a job that is not given up. -/
def ordinary : Launch := ⟨true, false⟩

end Launch

/-- The queries registered, in order: the probe, which every job asks anyway, and
repetitions are left out. -/
def registerQueries (queries : List Slice) : List Slice :=
  queries.foldl (fun kept query =>
    if query = Slice.probe ∨ query ∈ kept then kept
    else kept ++ [query]) []

namespace ReadContext

/-- Open a stream for each query, up to the first that cannot be opened. -/
def openAll (context : ReadContext) :
    List Slice -> List KeyStream × Option StorageError
  | [] => ([], none)
  | query :: queries =>
      match context.openStream query with
      | .error error => ([], some error)
      | .ok stream =>
          let (streams, fault) := context.openAll queries
          (stream :: streams, fault)

end ReadContext

namespace ContextEvent

/-- The events of opening the first streams. -/
def openings (count : Nat) : List ContextEvent :=
  (List.range count).map opened

/-- The events of closing the first streams. -/
def closings (count : Nat) : List ContextEvent :=
  (List.range count).map closed

/-- The events of dropping the first streams. -/
def droppings (count : Nat) : List ContextEvent :=
  (List.range count).map dropped

end ContextEvent

/-- How the readers of a job stop. -/
structure Stopped where
  /-- When the stopping is over. -/
  time : Nat
  stragglers : List Straggler

namespace Stopped

/-- Stop the readers at a time. Those that are asleep stop when they wake up, for
which the job waits no longer than `patience` milliseconds. -/
def ofTimeline
    {σ ρ : Type}
    (timeline : Timeline σ ρ)
    (now patience : Nat) : Stopped :=
  let late := timeline.asleep (now + patience)
  if late.isEmpty then
    ⟨(timeline.asleep now).foldl (fun latest entry => max latest entry.2) now,
      []⟩
  else
    ⟨now + patience, late.map fun (stream, wakes) =>
      ⟨stream, wakes - (now + patience)⟩⟩

/-- Whether all readers have stopped in time. -/
def inTime (stopped : Stopped) : Bool := stopped.stragglers.isEmpty

/-- The events of closing the first streams, as far as their readers have
stopped. -/
def closings (stopped : Stopped) (count : Nat) : List ContextEvent :=
  (ContextEvent.closings count).filter fun event =>
    !stopped.stragglers.any fun straggler => event = .closed straggler.stream

end Stopped

namespace Job

variable {σ ρ : Type}

/-- What bounds the pace of the job. -/
def pace (job : Job σ ρ) : Pace where
  workers := job.config.workers.toNat
  capacity := job.config.queueLength.toNat
  patience := job.config.pollMillis.toNat + job.config.timeoutMillis.toNat

/-- For how many milliseconds the job waits for something to stop. -/
def graceMillis (job : Job σ ρ) : Nat := job.config.timeoutMillis.toNat

/-- The store that the job begins with. -/
def startStore (job : Job σ ρ) (layout : IdLayout) : StateStore σ :=
  job.seed.getD (StateStore.empty layout)

/-- Why the job cannot be started, if it cannot. -/
def refusal? (job : Job σ ρ) (launch : Launch) : Option JobError :=
  match job.config.fault? with
  | some fault => some (.config fault)
  | none =>
      if !launch.inRuntime then some (.refused .noRuntime)
      else if job.initializer.isNone then some (.refused .noInitializer)
      else none

/-- The data lanes of the job before its first vertex. -/
def lanes : Nat -> List Slice -> List Feed -> List Lane
  | _, [], _ => []
  | _, _, [] => []
  | stream, query :: queries, feed :: feeds =>
      ⟨stream, query, none, feed.items, feed.ending⟩ ::
        lanes (stream + 1) queries feeds

/-- Give a job up at some time: break off its runs, stop its readers, and release
the read context if all of them stop in time. -/
def giveUp
    (job : Job σ ρ)
    (streams : Nat)
    (start : StateStore σ)
    (timeline : Timeline σ ρ)
    (now : Nat)
    (error : JobError) : Outcome σ ρ :=
  let stopped := Stopped.ofTimeline timeline now job.graceMillis
  { result := .error error
    store := Run.settleBy start timeline.runs now
    visited := timeline.runs.map Run.visited
    events := ContextEvent.openings streams ++ stopped.closings streams ++
      (if stopped.inTime then [.released] else [])
    lasting := stopped.time
    stragglers := stopped.stragglers }

/-- Release the read context of a job that has come to its end, and merge the
siblings of partitioned vertices. -/
def release
    [Mergeable σ]
    (context : ReadContext)
    (streams : Nat)
    (progress : Progress σ ρ)
    (inlined now : Nat) : Outcome σ ρ :=
  let stopped := ContextEvent.openings streams ++ ContextEvent.closings streams
  let outcome (result : Except JobError Tally) (store : StateStore σ)
      (events : List ContextEvent) : Outcome σ ρ :=
    ⟨result, store, progress.visited, stopped ++ events, now, []⟩
  match context.releaseFault with
  | some fault =>
      outcome (.error (.storage fault)) progress.store [.released, .released]
  | none =>
      let tally := { progress.tally with
        orphans := progress.tally.orphans + progress.leftover
        inlined := inlined }
      if tally.sawPartitioned then
        match progress.store.mergeSiblings with
        | (some _, store) => outcome (.ok tally) store [.released]
        | (none, store) => outcome (.error .taskLost) store [.released]
      else outcome (.ok tally) progress.store [.released]

/-- End a job whose join has succeeded: wait for the workers, then for the
readers. -/
def conclude
    [Mergeable σ]
    (job : Job σ ρ)
    (context : ReadContext)
    (streams : Nat)
    (start : StateStore σ)
    (timeline : Timeline σ ρ)
    (progress : Progress σ ρ) : Outcome σ ρ :=
  let fatal (now : Nat) (component : Component) : Outcome σ ρ :=
    job.giveUp streams start timeline now
      (.stopTimeout component job.config.timeout)
  let idle := timeline.finish
  if timeline.clock + job.graceMillis < idle then
    fatal (timeline.clock + job.graceMillis) .workers
  else
    let stopped := Stopped.ofTimeline timeline idle job.graceMillis
    if stopped.inTime then
      let inlined := (timeline.runs.filter Run.inlined).length
      release context streams progress inlined stopped.time
    else fatal stopped.time .readers

/-- Join the streams of a job and end it. -/
def process
    [Mergeable σ]
    (job : Job σ ρ)
    (context : ReadContext)
    (initializer : Initializer σ)
    (start : StateStore σ)
    (primary : KeyStream)
    (others : List KeyStream) : Outcome σ ρ :=
  let streams := others.length + 1
  let probe := Feed.ofReads primary.reads
  let feeds := others.map fun stream => Feed.ofReads stream.reads
  let sweep : Sweep σ ρ := ⟨job.config.policy, initializer, job.program⟩
  let ready : Progress σ ρ :=
    ⟨lanes 1 (registerQueries job.queries) feeds, none, .zero, start, []⟩
  let joined := ready.run sweep probe.ending probe.items
  let followed := (Timeline.start job.pace (primary :: others)).follow job.pace
    joined.moves
  let timeline := followed.timeline
  match followed.stalled, joined.result with
  | some stream, _ =>
      job.giveUp streams start timeline timeline.clock
        (.stalled stream job.config.timeout)
  | none, .error error =>
      job.giveUp streams start timeline timeline.clock error
  | none, .ok () =>
      job.conclude context streams start timeline joined.progress

/-- What comes of a job that is lost as soon as its readers have started. Nobody
waits for those that are asleep. -/
def lose
    (job : Job σ ρ)
    (store : StateStore σ)
    (streams : List KeyStream)
    (error : JobError) : Outcome σ ρ :=
  let timeline : Timeline σ ρ := Timeline.start job.pace streams
  let stopped := Stopped.ofTimeline timeline 0 0
  { result := .error error
    store := store
    visited := []
    events := ContextEvent.openings streams.length ++
      stopped.closings streams.length
    lasting := 0
    stragglers := stopped.stragglers }

/-- What comes of a job that fails without reading anything. -/
def unread
    (error : JobError)
    (store : StateStore σ)
    (events : List ContextEvent) : Outcome σ ρ :=
  ⟨.error error, store, [], events, 0, []⟩

/-- Run a job over a read context. -/
def execute
    [Mergeable σ]
    (job : Job σ ρ)
    (layout : IdLayout)
    (context : ReadContext)
    (launch : Launch) : Outcome σ ρ :=
  let store := job.startStore layout
  match job.refusal? launch, job.initializer with
  | some error, _ => unread error store []
  | none, none => unread (.refused .noInitializer) store []
  | none, some initializer =>
      let ready := store.reopen
      match context.openStream Slice.probe with
      | .error error => unread (.storage error) ready [.released]
      | .ok primary =>
          let (others, fault) := context.openAll (registerQueries job.queries)
          let streams := others.length + 1
          let opened := ContextEvent.openings streams
          match fault with
          | some error =>
              unread (.storage error) ready
                (opened ++ ContextEvent.closings streams ++ [.released])
          | none =>
              if JobError.longestQueue < job.config.queueLength.toNat then
                unread .queueTooLong ready
                  (opened ++ ContextEvent.droppings streams)
              else if JobError.mostWorkers < job.config.workers.toNat then
                job.lose ready (primary :: others) .tooManyWorkers
              else if launch.aborted then
                job.lose ready (primary :: others) .taskLost
              else job.process context initializer ready primary others

end Job
end GraphSweep
