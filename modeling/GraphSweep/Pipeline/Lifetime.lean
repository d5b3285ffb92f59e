import GraphSweep.Pipeline

/-!
# The lifetime of a job

Around a job under way there is more than its readers, its join and its workers. The
job may be called off at any time, after which its readers and the runs under way are
told to stop and the join does nothing more. Vertices that wait for a worker when the
job is given up or called off stay behind, where a worker that has not noticed yet may
still find them. And a stream may fail to close, which is only noted.
-/

namespace GraphSweep

/-- Whether a job that has called its workers off goes on doing something. -/
def Pipeline.Action.outlasts : Pipeline.Action -> Bool
  | .read _ | .work _ => true
  | .join | .release _ | .pick | .breakOff _ | .expire => false

/-- Whether a job has ended when the join is at some point. -/
def JoinPhase.hasEnded : JoinPhase -> Bool
  | .ended _ => true
  | _ => false

namespace Pipeline

variable {σ ρ : Type}

/-- The readers of a job, by the stream that they read. -/
def readers (pipeline : Pipeline σ ρ) : List Reader :=
  pipeline.primary :: pipeline.channels.map Channel.reader

/-- The vertices that an action leaves behind: those that wait for a worker when the
job is given up. -/
def leaves (pipeline : Pipeline σ ρ) : Action -> List View
  | .join =>
      match pipeline.phase with
      | .failing _ => pipeline.queue
      | _ => []
  | _ => []

/-- The run that an action brings to its end. -/
def completes (pipeline : Pipeline σ ρ) : Action -> List (Visited σ ρ)
  | .work position =>
      match pipeline.running[position]? with
      | some run => if run.due.isEmpty then [run.visited] else []
      | none => []
  | _ => []

/-- The run at a position, if there is one. -/
def runAt (pipeline : Pipeline σ ρ) (position : Nat) : List (Visited σ ρ) :=
  (pipeline.running[position]?.map Running.visited).toList

/-- The run that an action breaks off. -/
def breaksOff (pipeline : Pipeline σ ρ) : Action -> List (Visited σ ρ)
  | .breakOff position => pipeline.runAt position
  | _ => []

/-- The stream that an action closes. -/
def closes (pipeline : Pipeline σ ρ) : Action -> List Nat
  | .read stream =>
      if pipeline.readers[stream]?.any Reader.isClosing then [stream] else []
  | _ => []

/-- Number of workers that run the program. -/
def busy (pipeline : Pipeline σ ρ) : Nat :=
  (pipeline.running.filter fun run => !run.inlined).length

/-- Whether an action ends a job that has been given up without waiting for its
readers any longer. -/
def deserts (pipeline : Pipeline σ ρ) : Action -> Bool
  | .expire =>
      match pipeline.phase with
      | .abandoning _ => true
      | _ => false
  | _ => false

end Pipeline

/-- A job under way, with what becomes of its vertices. -/
structure Lifetime (σ ρ : Type) where
  pipeline : Pipeline σ ρ
  /-- Whether the job has been called off. -/
  calledOff : Bool
  /-- Whether the job has ended without waiting for its readers any longer. -/
  deserted : Bool
  /-- The vertices that waited for a worker when the job was given up or called off,
  and that no worker has taken up since. -/
  left : List View
  /-- The runs that have come to their end. -/
  completed : List (Visited σ ρ)
  /-- The runs that were broken off. -/
  broken : List (Visited σ ρ)
  /-- The streams that failed to close, in order, with what closing them failed
  with. -/
  complaints : List (Nat × StorageError)

/-- The next thing that happens in the lifetime of a job. -/
inductive Lifetime.Action
  /-- Something happens in the job itself. -/
  | go (action : Pipeline.Action)
  /-- The job is called off. -/
  | callOff
  /-- A worker that has been told to stop, and has not noticed, takes up a vertex that
  was left behind. -/
  | linger
  /-- The run at a position is broken off after the job has been called off. -/
  | drop (position : Nat)
  deriving DecidableEq

namespace Lifetime

variable {σ ρ : Type}

/-- The lifetime of a job that has just been started. -/
def start (pipeline : Pipeline σ ρ) : Lifetime σ ρ :=
  ⟨pipeline, false, false, [], [], [], []⟩

/-- Note what an action in the job comes to, where closing a stream may fail. -/
def note
    (closeFault : Nat -> Option StorageError)
    (lifetime : Lifetime σ ρ)
    (action : Pipeline.Action)
    (next : Pipeline σ ρ) : Lifetime σ ρ where
  pipeline := next
  calledOff := lifetime.calledOff
  deserted := lifetime.deserted || lifetime.pipeline.deserts action
  left := lifetime.left ++ lifetime.pipeline.leaves action
  completed := lifetime.completed ++ lifetime.pipeline.completes action
  broken := lifetime.broken ++ lifetime.pipeline.breaksOff action
  complaints := lifetime.complaints ++
    (lifetime.pipeline.closes action).filterMap fun stream =>
      (closeFault stream).map fun fault => (stream, fault)

/-- Something happens in the job itself. -/
def go
    [Mergeable σ]
    (setup : Setup σ ρ)
    (closeFault : Nat -> Option StorageError)
    (lifetime : Lifetime σ ρ)
    (action : Pipeline.Action) : Option (Lifetime σ ρ) :=
  if lifetime.calledOff && !action.outlasts then none
  else
    (lifetime.pipeline.act setup action).map
      (lifetime.note closeFault action)

/-- Call the job off: its readers are told to stop, and the vertices that wait for a
worker stay behind. -/
def callOff (lifetime : Lifetime σ ρ) : Option (Lifetime σ ρ) :=
  if lifetime.calledOff || lifetime.pipeline.phase.hasEnded then none
  else
    some { lifetime with
      pipeline := { lifetime.pipeline.cancelReaders with queue := [] }
      calledOff := true
      left := lifetime.left ++ lifetime.pipeline.queue }

/-- A worker takes up a vertex that was left behind. -/
def linger
    (setup : Setup σ ρ)
    (lifetime : Lifetime σ ρ) : Option (Lifetime σ ρ) :=
  match lifetime.left with
  | [] => none
  | view :: rest =>
      if lifetime.pipeline.busy < setup.workers then
        some { lifetime with
          pipeline := lifetime.pipeline.launch setup view false
          left := rest }
      else none

/-- The run at a position is broken off. -/
def drop
    (lifetime : Lifetime σ ρ)
    (position : Nat) : Option (Lifetime σ ρ) :=
  if lifetime.calledOff && position < lifetime.pipeline.running.length then
    some { lifetime with
      pipeline := { lifetime.pipeline with
        running := lifetime.pipeline.running.eraseIdx position }
      broken := lifetime.broken ++ lifetime.pipeline.runAt position }
  else none

/-- What an action makes of a job, if it can happen. -/
def act
    [Mergeable σ]
    (setup : Setup σ ρ)
    (closeFault : Nat -> Option StorageError)
    (lifetime : Lifetime σ ρ) : Action -> Option (Lifetime σ ρ)
  | .go action => lifetime.go setup closeFault action
  | .callOff => lifetime.callOff
  | .linger => lifetime.linger setup
  | .drop position => lifetime.drop position

/-- What some actions make of a job, one after another. -/
def follow
    [Mergeable σ]
    (setup : Setup σ ρ)
    (closeFault : Nat -> Option StorageError)
    (lifetime : Lifetime σ ρ) : List Action -> Option (Lifetime σ ρ)
  | [] => some lifetime
  | action :: actions =>
      (lifetime.act setup closeFault action).bind fun next =>
        next.follow setup closeFault actions

end Lifetime
end GraphSweep
