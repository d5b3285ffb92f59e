import GraphSweep.Job
import GraphSweep.Pipeline.Account
import GraphSweep.Pipeline.Reader

/-!
# Jobs under way

Readers, the join and the workers of a job run side by side. A state of the job
says how far each of them has got; an action is the next thing that one of them
does, as fine as one read, one item received, one vertex picked or one state
written. A sequence of actions is an interleaving. That a bounded wait runs out is
an action of its own.
-/

namespace GraphSweep

/-- A data stream with what the join holds of it. -/
structure Channel where
  /-- Position of the stream among the streams of the job. -/
  stream : Nat
  query : Slice
  /-- The item received and not joined yet. -/
  slot : Option Item
  /-- Whether the join has seen the end of the stream. -/
  finished : Bool
  reader : Reader

/-- What the join finds when it looks at a channel for a vertex. -/
inductive Glance
  /-- Neither an item nor the end of the stream. -/
  | waiting
  /-- Something that does not tell about the vertex yet. -/
  | moved (channel : Channel) (dropped : Nat)
  /-- All that there is for the vertex. -/
  | passed (channel : Channel) (entries : Option (List Entry))
  | broken (error : JobError)

namespace Channel

/-- The channels of a job before its first vertex. -/
def start : Nat -> List Slice -> List KeyStream -> List Channel
  | _, [], _ => []
  | _, _, [] => []
  | stream, query :: queries, source :: sources =>
      ⟨stream, query, none, false, Reader.start source⟩ ::
        start (stream + 1) queries sources

/-- Look at a channel for a vertex: an item of an earlier vertex is dropped, and
one of a later vertex stays in the slot. -/
def glance
    (policy : FailurePolicy)
    (channel : Channel)
    (id : VertexId) : Glance :=
  match channel.slot with
  | some item =>
      if item.id < id then .moved { channel with slot := none } 1
      else if item.id = id then
        .passed { channel with slot := none } (some item.entries)
      else .passed channel none
  | none =>
      if channel.finished then .passed channel none
      else
        match channel.reader.queue with
        | item :: rest =>
            .moved { channel with
              slot := some item
              reader := { channel.reader with queue := rest } } 0
        | [] =>
            if channel.reader.isGone then
              match channel.reader.status.verdict policy channel.stream with
              | .ok () => .moved { channel with finished := true } 0
              | .error error => .broken error
            else .waiting

/-- Tell the reader of a channel to stop. -/
def cancel (channel : Channel) : Channel :=
  { channel with reader := channel.reader.cancel }

end Channel

/-- A run of the program that is being made. -/
structure Running (σ ρ : Type) where
  visited : Visited σ ρ
  /-- The states still to be written, in order. -/
  due : List σ
  /-- Whether the join makes the run itself, because the queue is full. -/
  inlined : Bool

namespace Running

variable {σ ρ : Type}

/-- A run before its first write. -/
def start (visited : Visited σ ρ) (inlined : Bool) : Running σ ρ :=
  ⟨visited, (visited.visit.writes.map Prod.snd).reverse, inlined⟩

/-- The vertex that the run is for. -/
def id (run : Running σ ρ) : VertexId := run.visited.view.id

end Running

/-- What the join is about to do. -/
inductive JoinPhase
  /-- To take the next item of the first stream. -/
  | probing
  /-- To look at the channel at a position for a vertex, of which some entries have
  been fetched. -/
  | seeking
      (id : VertexId)
      (live : Bool)
      (fetched : List (Slice × List Entry))
      (position : Nat)
  /-- To hand a vertex to the workers. -/
  | submitting (view : View)
  /-- To go on once its own run of the program is over. -/
  | inlining
  /-- To go on once the workers have nothing left to do. -/
  | draining
  /-- To go on once the readers have stopped. -/
  | stopping
  /-- To give the job up. -/
  | failing (error : JobError)
  /-- To end the job that has been given up, once the readers have stopped. -/
  | abandoning (error : JobError)
  | ended (result : Except JobError Tally)

/-- What a job under way is set up with. -/
structure Setup (σ ρ : Type) where
  sweep : Sweep σ ρ
  /-- How much each queue holds. -/
  capacity : Nat
  workers : Nat
  timeout : Duration
  /-- What every release of the read context fails with, if it fails. -/
  releaseFault : Option StorageError

/-- The next thing that happens in a job. -/
inductive Pipeline.Action
  /-- The reader of a stream does its next step. -/
  | read (stream : Nat)
  | join
  /-- The join releases the read context and merges the siblings in an order. -/
  | release (order : List VertexId)
  /-- A worker takes up the vertex that waits longest. -/
  | pick
  /-- The run at a position writes its next state, or ends. -/
  | work (position : Nat)
  /-- The run at a position is broken off. -/
  | breakOff (position : Nat)
  /-- The wait of the join runs out. -/
  | expire
  deriving DecidableEq

/-- A job under way. -/
structure Pipeline (σ ρ : Type) where
  primary : Reader
  channels : List Channel
  phase : JoinPhase
  account : Account
  /-- The vertices that wait for a worker. -/
  queue : List View
  running : List (Running σ ρ)
  effects : Effects σ ρ
  /-- Number of runs made by the join itself. -/
  inlined : Nat
  /-- What was done to the read context, in order. -/
  events : List ContextEvent

namespace Pipeline

variable {σ ρ : Type}

/-- A job whose readers, join and workers have just been started. -/
def start
    (queries : List Slice)
    (primary : KeyStream)
    (others : List KeyStream)
    (store : StateStore σ) : Pipeline σ ρ where
  primary := Reader.start primary
  channels := Channel.start 1 queries others
  phase := .probing
  account := Account.blank
  queue := []
  running := []
  effects := ⟨store, 0, []⟩
  inlined := 0
  events := ContextEvent.openings (others.length + 1)

/-- Whether all readers have stopped. -/
def stopped (pipeline : Pipeline σ ρ) : Bool :=
  pipeline.primary.isGone &&
    pipeline.channels.all fun channel => channel.reader.isGone

/-- Tell all readers to stop. -/
def cancelReaders (pipeline : Pipeline σ ρ) : Pipeline σ ρ :=
  { pipeline with
    primary := pipeline.primary.cancel
    channels := pipeline.channels.map Channel.cancel }

/-- Note that a reader closes its stream, if it is about to. -/
def noteClosing
    (pipeline : Pipeline σ ρ)
    (stream : Nat)
    (reader : Reader) : Pipeline σ ρ :=
  match reader.phase with
  | .closing _ =>
      { pipeline with events := pipeline.events ++ [.closed stream] }
  | _ => pipeline

/-- The next step of the reader of a stream. -/
def read
    (setup : Setup σ ρ)
    (pipeline : Pipeline σ ρ) : Nat -> Option (Pipeline σ ρ)
  | 0 =>
      (pipeline.primary.advance setup.capacity).map fun reader =>
        noteClosing { pipeline with primary := reader } 0 pipeline.primary
  | position + 1 =>
      match pipeline.channels[position]? with
      | none => none
      | some channel =>
          (channel.reader.advance setup.capacity).map fun reader =>
            noteClosing { pipeline with
              channels := pipeline.channels.set position
                { channel with reader := reader } }
              channel.stream channel.reader

/-- Begin a run of the program for a vertex. -/
def launch
    (setup : Setup σ ρ)
    (pipeline : Pipeline σ ρ)
    (view : View)
    (inlined : Bool) : Pipeline σ ρ :=
  let visited : Visited σ ρ :=
    ⟨view, pipeline.effects.visitOf setup.sweep view⟩
  { pipeline with
    running := pipeline.running ++ [Running.start visited inlined]
    effects := pipeline.effects.note visited }

/-- Read the probe of an item of the first stream. -/
def meet (pipeline : Pipeline σ ρ) (item : Item) : Pipeline σ ρ :=
  if pipeline.account.isPast item.id then
    { pipeline with account := pipeline.account.skip }
  else
    { pipeline with
      account := pipeline.account.meet item.id
      phase :=
        match item.exists? with
        | .ok live => .seeking item.id live [] 0
        | .error error => .failing error }

/-- Take the next item of the first stream, or see its end. -/
def probe
    (setup : Setup σ ρ)
    (pipeline : Pipeline σ ρ) : Option (Pipeline σ ρ) :=
  match pipeline.primary.queue with
  | item :: rest =>
      some (meet { pipeline with
        primary := { pipeline.primary with queue := rest } } item)
  | [] =>
      if pipeline.primary.isGone then
        some { pipeline with
          phase :=
            match pipeline.primary.status.verdict setup.sweep.policy 0 with
            | .ok () => .draining
            | .error error => .failing error }
      else none

/-- Look at the channel at a position for a vertex; after the last channel the
vertex is met in full. -/
def seek
    (setup : Setup σ ρ)
    (pipeline : Pipeline σ ρ)
    (id : VertexId)
    (live : Bool)
    (fetched : List (Slice × List Entry))
    (position : Nat) : Option (Pipeline σ ρ) :=
  match pipeline.channels[position]? with
  | none =>
      some (if live then { pipeline with phase := .submitting ⟨id, fetched⟩ }
        else
          { pipeline with
            account := pipeline.account.delete
            phase := .probing })
  | some channel =>
      match channel.glance setup.sweep.policy id with
      | .waiting => none
      | .moved next dropped =>
          some { pipeline with
            channels := pipeline.channels.set position next
            account := pipeline.account.drop dropped }
      | .passed next entries =>
          let found := entries.map fun entries => (channel.query, entries)
          some { pipeline with
            channels := pipeline.channels.set position next
            phase := .seeking id live (fetched ++ found.toList)
              (position + 1) }
      | .broken error => some { pipeline with phase := .failing error }

/-- Hand a vertex to the workers, or run the program for it at once when the queue
is full. -/
def submit
    (setup : Setup σ ρ)
    (pipeline : Pipeline σ ρ)
    (view : View) : Pipeline σ ρ :=
  let noted := { pipeline with account := pipeline.account.dispatch view }
  if pipeline.queue.length < setup.capacity then
    { noted with
      queue := pipeline.queue ++ [view]
      phase := .probing }
  else
    { noted.launch setup view true with
      phase := .inlining
      inlined := pipeline.inlined + 1 }

/-- The next step of the join. -/
def join
    (setup : Setup σ ρ)
    (pipeline : Pipeline σ ρ) : Option (Pipeline σ ρ) :=
  match pipeline.phase with
  | .probing => pipeline.probe setup
  | .seeking id live fetched position =>
      pipeline.seek setup id live fetched position
  | .submitting view => some (pipeline.submit setup view)
  | .inlining =>
      if pipeline.running.any Running.inlined then none
      else some { pipeline with phase := .probing }
  | .draining =>
      if pipeline.queue.isEmpty && pipeline.running.isEmpty then
        some { pipeline.cancelReaders with phase := .stopping }
      else none
  | .failing error =>
      some { pipeline.cancelReaders with
        queue := []
        phase := .abandoning error }
  | .abandoning error =>
      if pipeline.stopped then
        some { pipeline with
          phase := .ended (.error error)
          events := pipeline.events ++ [.released] }
      else none
  | .stopping | .ended _ => none

/-- Number of channels that hold an item which no vertex claimed. -/
def leftover (pipeline : Pipeline σ ρ) : Nat :=
  (pipeline.channels.filter fun channel => channel.slot.isSome).length

/-- The counts of a job that has come to its end. -/
def tally (pipeline : Pipeline σ ρ) : Tally :=
  { (pipeline.account.drop pipeline.leftover).tally with
    failed := pipeline.effects.failed
    inlined := pipeline.inlined }

/-- Merge the siblings in an order, where partitioned vertices have been seen. -/
def conclude
    [Mergeable σ]
    (pipeline : Pipeline σ ρ)
    (order : List VertexId) : Pipeline σ ρ :=
  if pipeline.account.tally.sawPartitioned then
    let merged := pipeline.effects.store.mergeInOrder order
    { pipeline with
      effects := { pipeline.effects with store := merged.2 }
      phase := .ended (if merged.1.isSome then .ok pipeline.tally
        else .error .taskLost) }
  else { pipeline with phase := .ended (.ok pipeline.tally) }

/-- Release the read context once the readers have stopped, and end the job. Every
sibling is merged, in whatever order. -/
def release
    [Mergeable σ]
    (setup : Setup σ ρ)
    (pipeline : Pipeline σ ρ)
    (order : List VertexId) : Option (Pipeline σ ρ) :=
  match pipeline.phase with
  | .stopping =>
      if pipeline.stopped &&
          order.isPerm pipeline.effects.store.siblings then
        let released :=
          { pipeline with
            events := pipeline.events ++ [ContextEvent.released] }
        match setup.releaseFault with
        | some fault => some { released with phase := .failing (.storage fault) }
        | none => some (released.conclude order)
      else none
  | _ => none

/-- A worker that is free takes up the vertex that waits longest. -/
def pick
    (setup : Setup σ ρ)
    (pipeline : Pipeline σ ρ) : Option (Pipeline σ ρ) :=
  match pipeline.queue with
  | [] => none
  | view :: rest =>
      if (pipeline.running.filter fun run => !run.inlined).length <
          setup.workers then
        some (launch setup { pipeline with queue := rest } view false)
      else none

/-- The run at a position writes its next state, or ends. -/
def work
    (pipeline : Pipeline σ ρ)
    (position : Nat) : Option (Pipeline σ ρ) :=
  match pipeline.running[position]? with
  | none => none
  | some run =>
      match run.due with
      | state :: due =>
          some { pipeline with
            running := pipeline.running.set position { run with due := due }
            effects := pipeline.effects.write run.id state }
      | [] =>
          some { pipeline with
            running := pipeline.running.eraseIdx position
            effects := pipeline.effects.finish run.visited }

/-- The run at a position is broken off, as may happen once the job has been given
up. -/
def breakOff
    (pipeline : Pipeline σ ρ)
    (position : Nat) : Option (Pipeline σ ρ) :=
  match pipeline.phase with
  | .abandoning _ | .ended (.error _) =>
      if position < pipeline.running.length then
        some { pipeline with running := pipeline.running.eraseIdx position }
      else none
  | _ => none

/-- The wait of the join runs out, if it waits. -/
def expire
    (setup : Setup σ ρ)
    (pipeline : Pipeline σ ρ) : Option (Pipeline σ ρ) :=
  match pipeline.phase with
  | .probing =>
      if pipeline.primary.queue.isEmpty && !pipeline.primary.isGone then
        some { pipeline with phase := .failing (.stalled 0 setup.timeout) }
      else none
  | .seeking id _ _ position =>
      match pipeline.channels[position]? with
      | none => none
      | some channel =>
          match channel.glance setup.sweep.policy id with
          | .waiting =>
              some { pipeline with
                phase := .failing (.stalled channel.stream setup.timeout) }
          | _ => none
  | .draining =>
      if pipeline.queue.isEmpty && pipeline.running.isEmpty then none
      else
        some { pipeline with
          phase := .failing (.stopTimeout .workers setup.timeout) }
  | .stopping =>
      if pipeline.stopped then none
      else
        some { pipeline with
          phase := .failing (.stopTimeout .readers setup.timeout) }
  | .abandoning error =>
      if pipeline.stopped then none
      else some { pipeline with phase := .ended (.error error) }
  | .submitting _ | .inlining | .failing _ | .ended _ => none

/-- What an action makes of a job under way, if it can happen. -/
def act
    [Mergeable σ]
    (setup : Setup σ ρ)
    (pipeline : Pipeline σ ρ) : Action -> Option (Pipeline σ ρ)
  | .read stream => pipeline.read setup stream
  | .join => pipeline.join setup
  | .release order => pipeline.release setup order
  | .pick => pipeline.pick setup
  | .work position => pipeline.work position
  | .breakOff position => pipeline.breakOff position
  | .expire => pipeline.expire setup

/-- What some actions make of a job under way, one after another. -/
def follow
    [Mergeable σ]
    (setup : Setup σ ρ)
    (pipeline : Pipeline σ ρ) : List Action -> Option (Pipeline σ ρ)
  | [] => some pipeline
  | action :: actions =>
      (pipeline.act setup action).bind fun next => next.follow setup actions

/-- What a job has come to once it has ended. The time it takes is not told. -/
def outcome? (pipeline : Pipeline σ ρ) : Option (Outcome σ ρ) :=
  match pipeline.phase with
  | .ended result =>
      some ⟨result, pipeline.effects.store, pipeline.effects.visited,
        pipeline.events, 0, []⟩
  | _ => none

end Pipeline
end GraphSweep
