import GraphSweep.Feed
import GraphSweep.JobError

/-!
# Readers

A reader reads its stream ahead of the join, as far as its queue has room. It
passes over hidden vertices, and it tells how it ended before it lets go of the
queue.
-/

namespace GraphSweep

/-- How a reader has ended, if it has. -/
inductive ReaderStatus
  | running
  | exhausted
  | failed (error : StorageError)
  /-- The reader was told to stop. -/
  | cancelled
  deriving DecidableEq

namespace ReaderStatus

/-- What a status that a join reads means for the job. -/
def verdict
    (policy : FailurePolicy)
    (stream : Nat) : ReaderStatus -> Except JobError Unit
  | .failed error =>
      match policy with
      | .fail => .error (.readFailed stream error)
      | .truncate => .ok ()
  | .running | .exhausted | .cancelled => .ok ()

/-- What a reader has failed with, if it has. -/
def fault? : ReaderStatus -> Option StorageError
  | .failed error => some error
  | .running | .exhausted | .cancelled => none

end ReaderStatus

/-- What a reader is about to do. -/
inductive ReaderPhase
  /-- To look whether it was told to stop. -/
  | looking
  /-- To read. -/
  | fetching
  /-- To put an item into the queue. -/
  | offering (item : Item)
  /-- To close the stream. -/
  | closing (status : ReaderStatus)
  /-- To tell how it ended. -/
  | reporting (status : ReaderStatus)
  /-- To let go of the queue. -/
  | leaving
  | gone
  deriving DecidableEq

/-- A reader with the queue between it and the join. -/
structure Reader where
  /-- The reads to come. -/
  pending : List Read
  phase : ReaderPhase
  queue : List Item
  /-- How the reader told to have ended. -/
  status : ReaderStatus
  /-- Whether the reader was told to stop, which closes the queue. -/
  cancelled : Bool
  deriving DecidableEq

namespace Reader

/-- The reader of a stream before its first read. -/
def start (stream : KeyStream) : Reader :=
  ⟨stream.reads, .looking, [], .running, false⟩

/-- What comes of the next read, and the reads after it. -/
def fetch : List Read -> ReaderPhase × List Read
  | [] => (.closing .exhausted, [])
  | .failure error :: _ => (.closing (.failed error), [])
  | .crash _ :: _ => (.closing (.failed .readerCrashed), [])
  | .record record :: rest =>
      match VertexId.ofKey record.key with
      | .error error => (.closing (.failed error), [])
      | .ok id =>
          if VertexId.isHidden id then (.looking, rest)
          else (.offering ⟨id, record.entries⟩, rest)

/-- The next thing that a reader does. It waits while the queue is full. -/
def advance (capacity : Nat) (reader : Reader) : Option Reader :=
  match reader.phase with
  | .looking =>
      some { reader with
        phase := if reader.cancelled then .closing .cancelled else .fetching }
  | .fetching =>
      some { reader with
        phase := (fetch reader.pending).1
        pending := (fetch reader.pending).2 }
  | .offering item =>
      if reader.cancelled then
        some { reader with phase := .closing .cancelled }
      else if reader.queue.length < capacity then
        some { reader with
          queue := reader.queue ++ [item]
          phase := .looking }
      else none
  | .closing status => some { reader with phase := .reporting status }
  | .reporting status =>
      some { reader with
        status := status
        phase := .leaving }
  | .leaving => some { reader with phase := .gone }
  | .gone => none

/-- Tell a reader to stop. -/
def cancel (reader : Reader) : Reader := { reader with cancelled := true }

/-- Whether a reader has stopped. -/
def isGone (reader : Reader) : Bool := reader.phase = .gone

/-- Whether a reader is about to close its stream. -/
def isClosing (reader : Reader) : Bool :=
  match reader.phase with
  | .closing _ => true
  | _ => false

end Reader
end GraphSweep
