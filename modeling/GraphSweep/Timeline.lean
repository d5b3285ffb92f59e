import GraphSweep.Join

/-!
# Timelines

A join on a clock. Nothing takes time but the pauses of readers and the sleep of
programs: a reader falls asleep once it has read up to its pause, which the bound
of its queue may put off, and a vertex that finds the queue of the workers full is
run at once, with the join waiting for it. So a timeline tells when each run
begins and which wait, if any, comes to nothing.
-/

namespace GraphSweep

/-- What bounds the pace of a job. -/
structure Pace where
  workers : Nat
  /-- How much each queue holds. -/
  capacity : Nat
  /-- For how many milliseconds the job waits for an item. -/
  patience : Nat

/-- A pause that the reader of a stream comes to. -/
structure Pause where
  stream : Nat
  millis : Nat
  /-- Number of items behind the pause. -/
  left : Nat
  /-- When the reader fell asleep, once it has. -/
  since : Option Nat

namespace Pause

/-- The pause of the reader of a stream, if it comes to one. The reader falls
asleep at once if the queue holds all items before the pause. -/
def ofStream? (capacity stream : Nat) (source : KeyStream) : Option Pause :=
  match source.stall with
  | none => none
  | some stall =>
      let before := Feed.ofReads (source.reads.take stall.after)
      if stall.after ≤ source.reads.length ∧ before.ending = .exhausted then
        let count := before.items.length
        some {
          stream := stream
          millis := stall.millis
          left := (Feed.ofReads source.reads).items.length - count
          since := if count ≤ capacity then some 0 else none }
      else none

/-- The pause at a time when all but some items have been taken: the reader falls
asleep when the queue holds the items that are left before the pause. -/
def taken (pause : Pause) (capacity now untaken : Nat) : Pause :=
  if untaken ≤ pause.left + capacity then
    { pause with since := some (pause.since.getD now) }
  else pause

/-- When the reader wakes up, if it has fallen asleep. -/
def wakes (pause : Pause) : Nat :=
  match pause.since with
  | some since => since + pause.millis
  | none => 0

/-- Whether the reader of a stream is held up before it has delivered all but the
last items. -/
def holdsUp (pause : Pause) (stream left : Nat) : Bool :=
  pause.stream = stream && left ≤ pause.left

end Pause

/-- A run of a program in time. -/
structure Run (σ ρ : Type) where
  visited : Visited σ ρ
  start : Nat
  /-- Whether the join itself does the run, because the queue is full. -/
  inlined : Bool

namespace Run

variable {σ ρ : Type}

/-- When the run is over. -/
def finish (run : Run σ ρ) : Nat := run.start + run.visited.visit.millis

/-- Whether a worker has the run, or has it in its queue, at a time. -/
def isPending (run : Run σ ρ) (now : Nat) : Bool :=
  !run.inlined && now < run.finish

/-- The store after runs that have been broken off at a time: those not begun by
then are left out. -/
def settleBy
    (store : StateStore σ)
    (runs : List (Run σ ρ))
    (now : Nat) : StateStore σ :=
  (runs.filter fun run => run.start ≤ now).foldl (fun current run =>
    current.settleBy run.visited.view.id run.visited.visit (now - run.start))
    store

end Run

/-- A join at some point of time. -/
structure Timeline (σ ρ : Type) where
  /-- Milliseconds since the start. -/
  clock : Nat
  pauses : List Pause
  /-- The runs submitted so far, in order. -/
  runs : List (Run σ ρ)

/-- How following a join on the clock ends. -/
structure Followed (σ ρ : Type) where
  timeline : Timeline σ ρ
  /-- The stream that was waited for in vain. -/
  stalled : Option Nat

namespace Timeline

variable {σ ρ : Type}

/-- The timeline when the readers of some streams start. -/
def start (pace : Pace) (streams : List KeyStream) : Timeline σ ρ where
  clock := 0
  pauses := streams.zipIdx.filterMap fun (source, stream) =>
    Pause.ofStream? pace.capacity stream source
  runs := []

/-- Number of runs that wait in the queue of the workers. -/
def waiting (timeline : Timeline σ ρ) : Nat :=
  (timeline.runs.filter fun run =>
    run.isPending timeline.clock && timeline.clock < run.start).length

/-- When a worker can take up one more run: as soon as fewer runs are pending than
there are workers. -/
def turn (pace : Pace) (timeline : Timeline σ ρ) : Nat :=
  let pending := timeline.runs.filter fun run => run.isPending timeline.clock
  let latestFirst := (pending.map Run.finish).mergeSort fun one other =>
    other ≤ one
  (latestFirst[pace.workers - 1]?).getD timeline.clock

/-- Submit a vertex: a worker runs it in its turn, or the join does when the queue
is full. -/
def submit
    (pace : Pace)
    (timeline : Timeline σ ρ)
    (visited : Visited σ ρ) : Timeline σ ρ :=
  if timeline.waiting < pace.capacity then
    { timeline with
      runs := timeline.runs ++ [⟨visited, timeline.turn pace, false⟩] }
  else
    { timeline with
      clock := timeline.clock + visited.visit.millis
      runs := timeline.runs ++ [⟨visited, timeline.clock, true⟩] }

/-- Take all but the last `left - 1` items of a stream, without waiting for
them. -/
def take
    (pace : Pace)
    (timeline : Timeline σ ρ)
    (stream left : Nat) : Timeline σ ρ :=
  { timeline with
    pauses := timeline.pauses.map fun pause =>
      if pause.stream = stream then
        pause.taken pace.capacity timeline.clock (left - 1)
      else pause }

/-- When a stream has delivered all but its last `left - 1` items. -/
def delivered (timeline : Timeline σ ρ) (stream left : Nat) : Nat :=
  (timeline.pauses.filter fun pause => pause.holdsUp stream left).foldl
    (fun latest pause => max latest pause.wakes) timeline.clock

/-- Follow the moves of a join, up to a wait that comes to nothing. -/
def follow
    (pace : Pace)
    (timeline : Timeline σ ρ) : List (Move σ ρ) -> Followed σ ρ
  | [] => ⟨timeline, none⟩
  | .submit visited :: moves => (timeline.submit pace visited).follow pace moves
  | .reach stream left :: moves =>
      let taken := timeline.take pace stream left
      let ready := taken.delivered stream left
      if timeline.clock + pace.patience < ready then
        ⟨{ taken with clock := timeline.clock + pace.patience }, some stream⟩
      else { taken with clock := ready }.follow pace moves

/-- When all runs are over. -/
def finish (timeline : Timeline σ ρ) : Nat :=
  timeline.runs.foldl (fun latest run => max latest run.finish) timeline.clock

/-- The streams whose readers are asleep at a time, and when they wake up. -/
def asleep (timeline : Timeline σ ρ) (now : Nat) : List (Nat × Nat) :=
  (timeline.pauses.filter fun pause => now < pause.wakes).map fun pause =>
    (pause.stream, pause.wakes)

end Timeline
end GraphSweep
