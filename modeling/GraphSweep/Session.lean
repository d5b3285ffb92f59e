import GraphSweep.Job
import GraphSweep.Transaction

/-!
# Sessions

A session works on one graph store under names: transactions, cursors opened in
them, and state stores. Two names may stand for one state store, as a job that
goes on with a store gives its result back in that store. A reader that a job
leaves asleep is closed once the session has waited for long enough.
-/

namespace GraphSweep

/-- Values under names; several names may share a value. -/
structure Registry (α : Type) where
  /-- Everything that was ever registered, by position. -/
  values : List α
  /-- The position that each name stands for; the latest wins. -/
  names : List (String × Nat)

namespace Registry

variable {α : Type}

/-- A registry without names. -/
def empty : Registry α := ⟨[], []⟩

/-- The position that a name stands for. -/
def position? (registry : Registry α) (name : String) : Option Nat :=
  registry.names.lookup name

/-- The value under a name. -/
def find? (registry : Registry α) (name : String) : Option α :=
  registry.position? name >>= fun position => registry.values[position]?

/-- Let a name stand for a new value. -/
def add (registry : Registry α) (name : String) (value : α) : Registry α :=
  ⟨registry.values ++ [value], (name, registry.values.length) :: registry.names⟩

/-- Let a name stand for the value at a position. -/
def link (registry : Registry α) (name : String) (position : Nat) : Registry α :=
  { registry with names := (name, position) :: registry.names }

/-- Change the value at a position. -/
def setAt (registry : Registry α) (position : Nat) (value : α) : Registry α :=
  { registry with values := registry.values.set position value }

end Registry

/-- A transaction of either kind. -/
inductive OpenTransaction
  | snapshot (transaction : Transaction)
  | scripted (transaction : ScriptedTransaction)

/-- A cursor of either kind, with the position of its transaction. -/
inductive OpenCursor
  | snapshot (owner : Nat) (cursor : Cursor)
  | scripted (owner : Nat) (cursor : ScriptedCursor)

/-- What can be seen of a transaction. -/
inductive TransactionStatus
  | snapshot (opened openNow : Nat) (released : Bool)
  | scripted (opened closed rollbacks : Nat)

namespace TransactionStatus

/-- Whether the transaction has been released. -/
def isReleased : TransactionStatus -> Bool
  | snapshot _ _ released => released
  | scripted _ _ rollbacks => 0 < rollbacks

end TransactionStatus

namespace OpenTransaction

/-- What can be seen of a transaction. -/
def status : OpenTransaction -> TransactionStatus
  | snapshot transaction =>
      .snapshot transaction.opened transaction.openNow transaction.released
  | scripted transaction =>
      .scripted transaction.opened transaction.closed transaction.rollbacks

/-- What a transaction offers to a job. -/
def context : OpenTransaction -> ReadContext
  | snapshot transaction => transaction.context
  | scripted transaction => transaction.context

/-- The transaction after a job did something to it. -/
def note (transaction : OpenTransaction) (event : ContextEvent) :
    OpenTransaction :=
  match transaction with
  | .snapshot transaction => .snapshot (transaction.note event)
  | .scripted transaction => .scripted (transaction.note event)

end OpenTransaction

/-- What one read of a cursor gives. -/
inductive ReadAnswer
  | record (record : KeyedEntries)
  | drained
  | failure (error : StorageError)
  | crash (message : String)

/-- A reader that a job has left asleep. -/
structure Sleeper where
  /-- The position of its transaction. -/
  owner : Nat
  stream : Nat
  /-- When it wakes up. -/
  wakes : Nat

/-- A store with named transactions, cursors and state stores. -/
structure Session (σ : Type) where
  store : GraphStore
  transactions : Registry OpenTransaction
  cursors : List (String × OpenCursor)
  results : Registry (StateStore σ)
  /-- Milliseconds waited for so far. -/
  clock : Nat
  sleepers : List Sleeper

namespace Session

variable {σ : Type}

/-- A session on an empty store. -/
def start (layout : IdLayout) : Session σ where
  store := GraphStore.empty layout
  transactions := .empty
  cursors := []
  results := .empty
  clock := 0
  sleepers := []

/-- Note something that a job did to a transaction. -/
def noteAt
    (session : Session σ)
    (position : Nat)
    (event : ContextEvent) : Session σ :=
  match session.transactions.values[position]? with
  | some transaction =>
      { session with
        transactions := session.transactions.setAt position
          (transaction.note event) }
  | none => session

/-- Let some milliseconds pass: readers that wake up by then are closed. -/
def wait (session : Session σ) (millis : Nat) : Session σ :=
  let now := session.clock + millis
  let (awake, asleep) := session.sleepers.partition fun sleeper =>
    sleeper.wakes ≤ now
  awake.foldl (fun current sleeper =>
    current.noteAt sleeper.owner (.closed sleeper.stream))
    { session with clock := now, sleepers := asleep }

/-- Change the store. -/
def onStore
    (session : Session σ)
    (change : GraphStore -> GraphStore) : Session σ :=
  { session with store := change session.store }

/-- Begin a transaction on the store. -/
def begin (session : Session σ) (name : String) : Session σ :=
  { session with
    transactions := session.transactions.add name
      (.snapshot (Transaction.begin session.store)) }

/-- Begin a transaction that replays streams. -/
def script
    (session : Session σ)
    (name : String)
    (transaction : ScriptedTransaction) : Session σ :=
  { session with
    transactions := session.transactions.add name (.scripted transaction) }

/-- What can be seen of a transaction. -/
def status? (session : Session σ) (name : String) : Option TransactionStatus :=
  (session.transactions.find? name).map OpenTransaction.status

/-- Roll a transaction back; tells what that fails with, if it fails. -/
def rollback
    (session : Session σ)
    (name : String) : Session σ × Option StorageError :=
  match session.transactions.position? name,
      session.transactions.find? name with
  | some position, some (.snapshot transaction) =>
      ({ session with
        transactions := session.transactions.setAt position
          (.snapshot transaction.rollback) }, none)
  | some position, some (.scripted transaction) =>
      ({ session with
        transactions := session.transactions.setAt position
          (.scripted transaction.rollback) }, transaction.rollbackFault)
  | _, _ => (session, none)

/-- The session without a cursor of a name, whatever becomes of it. -/
def forget (session : Session σ) (name : String) : Session σ :=
  { session with
    cursors := session.cursors.filter fun entry => entry.1 != name }

/-- Put a cursor under a name, in place of the one there. -/
def setCursor
    (session : Session σ)
    (name : String)
    (cursor : OpenCursor) : Session σ :=
  let cleared := session.forget name
  { cleared with cursors := (name, cursor) :: cleared.cursors }

/-- Close a cursor; tells what that fails with, if it fails. -/
def close
    (session : Session σ)
    (name : String) : Session σ × Option StorageError :=
  match session.cursors.lookup name with
  | some (.snapshot owner cursor) =>
      match session.transactions.values[owner]? with
      | some (.snapshot transaction) =>
          let (closed, next) := transaction.closeCursor cursor
          (({ session with
            transactions := session.transactions.setAt owner
              (.snapshot next) }).setCursor name (.snapshot owner closed),
            none)
      | _ => (session, none)
  | some (.scripted owner cursor) =>
      match session.transactions.values[owner]? with
      | some (.scripted transaction) =>
          ({ session with
            transactions := session.transactions.setAt owner
              (.scripted transaction.noteClosed) }, cursor.closeFault)
      | _ => (session, none)
  | none => (session, none)

/-- Drop a cursor, which closes one of a snapshot. -/
def drop (session : Session σ) (name : String) : Session σ :=
  match session.cursors.lookup name with
  | some (.snapshot _ _) => ((session.close name).1).forget name
  | _ => session.forget name

/-- Open a cursor in a transaction; tells what that fails with, if it fails.
An older cursor of the name is dropped. -/
def openCursor
    (session : Session σ)
    (owner name : String)
    (query : Slice) : Session σ × Option StorageError :=
  match session.transactions.position? owner,
      session.transactions.find? owner with
  | some position, some (.snapshot transaction) =>
      match transaction.openCursor query with
      | (.error error, _) => (session, some error)
      | (.ok cursor, next) =>
          (({ session with
            transactions := session.transactions.setAt position
              (.snapshot next) }.drop name).setCursor name
              (.snapshot position cursor), none)
  | some position, some (.scripted transaction) =>
      match transaction.openCursor query with
      | (.error error, _) => (session, some error)
      | (.ok cursor, next) =>
          (({ session with
            transactions := session.transactions.setAt position
              (.scripted next) }.drop name).setCursor name
              (.scripted position cursor), none)
  | _, _ => (session, none)

/-- Read the next record of a cursor. -/
def next
    (session : Session σ)
    (name : String) : Session σ × ReadAnswer :=
  match session.cursors.lookup name with
  | some (.snapshot owner cursor) =>
      let (millis, rested) := cursor.pause
      let (answer, moved) := rested.next
      let waited := (session.wait millis).setCursor name (.snapshot owner moved)
      match answer with
      | .error error => (waited, .failure error)
      | .ok none => (waited, .drained)
      | .ok (some record) => (waited, .record record)
  | some (.scripted owner cursor) =>
      match cursor.pending with
      | [] => (session, .drained)
      | read :: rest =>
          let moved := session.setCursor name
            (.scripted owner { cursor with pending := rest })
          match read with
          | .record record => (moved, .record record)
          | .failure error => (moved, .failure error)
          | .crash message => (moved, .crash message)
  | none => (session, .drained)

/-- Read several times from a cursor, up to a crash. -/
def nextMany (session : Session σ) (name : String) :
    Nat -> Session σ × List ReadAnswer
  | 0 => (session, [])
  | count + 1 =>
      match session.next name with
      | (moved, .crash message) => (moved, [.crash message])
      | (moved, answer) =>
          let (last, answers) := moved.nextMany name count
          (last, answer :: answers)

/-- Begin an empty state store. -/
def newResults (session : Session σ) (name : String) : Session σ :=
  { session with
    results := session.results.add name
      (StateStore.empty session.store.layout) }

/-- The state store under a name. -/
def results? (session : Session σ) (name : String) : Option (StateStore σ) :=
  session.results.find? name

/-- Change the state store under a name. -/
def onResults
    (session : Session σ)
    (name : String)
    (results : StateStore σ) : Session σ :=
  match session.results.position? name with
  | some position =>
      { session with results := session.results.setAt position results }
  | none => session

/-- Run a job in a transaction, with the store under the seed name if there is
one; a job that succeeds leaves its store under the save name. -/
def runJob
    {ρ : Type}
    [Mergeable σ]
    (session : Session σ)
    (owner : String)
    (job : Job σ ρ)
    (launch : Launch)
    (seed save : Option String) : Session σ × Option (Outcome σ ρ) :=
  match session.transactions.position? owner,
      session.transactions.find? owner with
  | some position, some transaction =>
      let seeded := { job with seed := seed.bind session.results? }
      let outcome := seeded.execute session.store.layout transaction.context
        launch
      let waited := session.wait outcome.lasting
      let noted := outcome.events.foldl (fun current event =>
        current.noteAt position event) waited
      let asleep : List Sleeper := outcome.stragglers.map fun straggler =>
        ⟨position, straggler.stream, noted.clock + straggler.millis⟩
      let worked := { noted with sleepers := noted.sleepers ++ asleep }
      let results :=
        match seed.bind session.results.position?, save, outcome.result with
        | some home, some name, .ok _ =>
            (worked.results.setAt home outcome.store).link name home
        | some home, _, _ => worked.results.setAt home outcome.store
        | none, some name, .ok _ => worked.results.add name outcome.store
        | none, _, _ => worked.results
      ({ worked with results := results }, some outcome)
  | _, _ => (session, none)

end Session
end GraphSweep
