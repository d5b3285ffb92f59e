import GraphSweep.GraphStore

/-!
# Streams of keys

Reading the keys of a query one after another gives records, until the reading
fails or there are no more. A stream is everything that a reader would see, in
order; a read context tells which stream a query opens, and whether releasing the
context fails.
-/

namespace GraphSweep

/-- What one read of a stream gives. -/
inductive Read
  | record (record : KeyedEntries)
  | failure (error : StorageError)
  | crash (message : String)
  deriving DecidableEq

/-- All reads of a stream, and where its reader pauses. -/
structure KeyStream where
  reads : List Read
  stall : Option Stall

/-- What a job needs from an open transaction. -/
structure ReadContext where
  /-- The stream that a query opens, or why it cannot be opened. -/
  openStream : Slice -> Except StorageError KeyStream
  /-- What every release of the context fails with, if it fails. -/
  releaseFault : Option StorageError

/-- What a job does to its read context, as seen from the context. -/
inductive ContextEvent
  | opened (stream : Nat)
  | closed (stream : Nat)
  /-- A stream was let go of without being closed. -/
  | dropped (stream : Nat)
  | released
  deriving DecidableEq

end GraphSweep
