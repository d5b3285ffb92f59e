import GraphSweep.KeyStream

/-!
# Snapshot transactions

A transaction reads the store as it was when it began, with the faults planned
then. It counts the cursors opened in it, ever and still open. A cursor
yields the keys that have entries in its query, in ascending order; closing it
twice is closing it once.
-/

namespace GraphSweep

/-- A position in the keys of a snapshot that a query selects. -/
structure Cursor where
  query : Slice
  /-- Rows not looked at yet. -/
  pending : List (Bytes × Row)
  /-- Number of records yielded so far. -/
  yielded : Nat
  /-- Number of records after which reading fails. -/
  failsAfter : Option Nat
  /-- Where the reader pauses. -/
  stall : Option Stall
  closed : Bool

/-- A read view of the store. -/
structure Transaction where
  snapshot : Table
  faults : Faults
  /-- Number of cursors opened so far. -/
  opened : Nat
  /-- Number of cursors still open. -/
  openNow : Nat
  released : Bool

namespace Cursor

/-- The first row with entries in the query, and the rows after it. -/
def advance (query : Slice) :
    List (Bytes × Row) -> Option (KeyedEntries × List (Bytes × Row))
  | [] => none
  | (key, row) :: rest =>
      match query.select row with
      | [] => advance query rest
      | entries => some (⟨key, entries⟩, rest)

/-- The next record, `none` once there are no more. -/
def next (cursor : Cursor) :
    Except StorageError (Option KeyedEntries) × Cursor :=
  if cursor.closed then (.error (.closed .cursor), cursor)
  else if cursor.failsAfter = some cursor.yielded then
    (.error (.injected cursor.yielded), cursor)
  else
    match advance cursor.query cursor.pending with
    | none => (.ok none, { cursor with pending := [] })
    | some (record, rest) =>
        (.ok (some record),
          { cursor with pending := rest, yielded := cursor.yielded + 1 })

/-- How long the reader of a cursor pauses before the next record, in milliseconds,
and the cursor without that pause. -/
def pause (cursor : Cursor) : Nat × Cursor :=
  match cursor.stall with
  | some stall =>
      if !cursor.closed && stall.after = cursor.yielded then
        (stall.millis, { cursor with stall := none })
      else (0, cursor)
  | none => (0, cursor)

/-- All records that the query selects from some rows. -/
def records (query : Slice) : List (Bytes × Row) -> List KeyedEntries
  | [] => []
  | (key, row) :: rest =>
      match query.select row with
      | [] => records query rest
      | entries => ⟨key, entries⟩ :: records query rest

/-- Everything that a reader of a freshly opened cursor sees. -/
def stream (cursor : Cursor) : KeyStream where
  reads :=
    let all := records cursor.query cursor.pending
    match cursor.failsAfter with
    | some count =>
        if count ≤ all.length then
          (all.take count).map .record ++ [.failure (.injected count)]
        else all.map .record
    | none => all.map .record
  stall := cursor.stall

end Cursor

namespace Transaction

/-- Begin reading a store. -/
def begin (store : GraphStore) : Transaction where
  snapshot := store.table
  faults := store.faults
  opened := 0
  openNow := 0
  released := false

/-- The cursor that a query opens. -/
def cursor (transaction : Transaction) (query : Slice) : Cursor where
  query := query
  pending := transaction.snapshot.entries
  yielded := 0
  failsAfter := transaction.faults.failure? query
  stall := transaction.faults.stall? query
  closed := false

/-- Open a cursor; a transaction that was released opens none. -/
def openCursor
    (transaction : Transaction)
    (query : Slice) : Except StorageError Cursor × Transaction :=
  if transaction.released then
    (.error (.closed .transaction), transaction)
  else
    (.ok (transaction.cursor query),
      { transaction with
        opened := transaction.opened + 1
        openNow := transaction.openNow + 1 })

/-- Close a cursor of the transaction. -/
def closeCursor
    (transaction : Transaction)
    (cursor : Cursor) : Cursor × Transaction :=
  if cursor.closed then (cursor, transaction)
  else
    ({ cursor with closed := true },
      { transaction with openNow := transaction.openNow - 1 })

/-- Release the snapshot for further openings. -/
def rollback (transaction : Transaction) : Transaction :=
  { transaction with released := true }

/-- What the transaction offers to a job. -/
def context (transaction : Transaction) : ReadContext where
  openStream query :=
    if transaction.released then .error (.closed .transaction)
    else .ok (transaction.cursor query).stream
  releaseFault := none

/-- The transaction after a job did something to it. -/
def note (transaction : Transaction) : ContextEvent -> Transaction
  | .opened _ =>
      { transaction with
        opened := transaction.opened + 1
        openNow := transaction.openNow + 1 }
  | .closed _ | .dropped _ =>
      { transaction with openNow := transaction.openNow - 1 }
  | .released => transaction.rollback

end Transaction

/-- A stream that a scripted transaction replays for a query. -/
structure ScriptedStream where
  query : Slice
  reads : List Read
  /-- What opening the stream fails with, if it fails. -/
  openFault : Option StorageError
  /-- What every closing of the stream fails with, if it fails. -/
  closeFault : Option StorageError

/-- A transaction that replays given streams and counts what is done to it. -/
structure ScriptedTransaction where
  streams : List ScriptedStream
  rollbackFault : Option StorageError
  opened : Nat
  closed : Nat
  rollbacks : Nat

/-- A position in a replayed stream. -/
structure ScriptedCursor where
  pending : List Read
  closeFault : Option StorageError

namespace ScriptedTransaction

/-- A transaction that nothing was done to yet. -/
def ofStreams
    (streams : List ScriptedStream)
    (rollbackFault : Option StorageError) : ScriptedTransaction where
  streams := streams
  rollbackFault := rollbackFault
  opened := 0
  closed := 0
  rollbacks := 0

/-- The stream that a query opens; queries without one open an empty stream. -/
def lookup
    (transaction : ScriptedTransaction)
    (query : Slice) : ScriptedStream :=
  (transaction.streams.find? fun stream => stream.query = query).getD
    ⟨query, [], none, none⟩

/-- Open a stream; a failing opening is not counted. -/
def openCursor
    (transaction : ScriptedTransaction)
    (query : Slice) :
    Except StorageError ScriptedCursor × ScriptedTransaction :=
  let stream := transaction.lookup query
  match stream.openFault with
  | some fault => (.error fault, transaction)
  | none =>
      (.ok ⟨stream.reads, stream.closeFault⟩,
        { transaction with opened := transaction.opened + 1 })

/-- Count one closing. -/
def noteClosed (transaction : ScriptedTransaction) : ScriptedTransaction :=
  { transaction with closed := transaction.closed + 1 }

/-- Count one rollback. -/
def rollback (transaction : ScriptedTransaction) : ScriptedTransaction :=
  { transaction with rollbacks := transaction.rollbacks + 1 }

/-- What the transaction offers to a job. -/
def context (transaction : ScriptedTransaction) : ReadContext where
  openStream query :=
    let stream := transaction.lookup query
    match stream.openFault with
    | some fault => .error fault
    | none => .ok ⟨stream.reads, none⟩
  releaseFault := transaction.rollbackFault

/-- The transaction after a job did something to it. -/
def note (transaction : ScriptedTransaction) :
    ContextEvent -> ScriptedTransaction
  | .opened _ => { transaction with opened := transaction.opened + 1 }
  | .closed _ => transaction.noteClosed
  | .dropped _ => transaction
  | .released => transaction.rollback

end ScriptedTransaction
end GraphSweep
