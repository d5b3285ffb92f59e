import GraphSweep.Feed
import GraphSweep.JobError
import GraphSweep.Program

/-!
# The merge join of a job

The first stream of a job tells which vertices exist. The other streams, the data
lanes, are advanced beside it in step: for each vertex of the first stream a lane
either has an item of the same vertex, which joins the view, or has none. Items
of vertices that the first stream does not name are dropped and counted.
-/

namespace GraphSweep

/-- What a job counts. -/
structure Tally where
  dispatched : Nat
  deleted : Nat
  failed : Nat
  orphans : Nat
  disordered : Nat
  inlined : Nat
  sawPartitioned : Bool
  deriving DecidableEq

namespace Tally

/-- Nothing counted. -/
def zero : Tally := ⟨0, 0, 0, 0, 0, 0, false⟩

/-- Whether the program failed for at least one vertex. -/
def hadFailures (tally : Tally) : Bool := 0 < tally.failed

end Tally

/-- A data stream between two vertices. -/
structure Lane where
  /-- Position of the stream among the streams of the job. -/
  stream : Nat
  query : Slice
  /-- The item taken from the stream and not joined yet. -/
  held : Option Item
  /-- The items not taken yet. -/
  rest : List Item
  ending : FeedEnd

/-- What a lane has for a vertex. -/
structure Sought where
  /-- The entries for the vertex, if the lane has an item of it. -/
  entries : Option (List Entry)
  lane : Lane
  /-- Number of items of earlier vertices that were dropped. -/
  dropped : Nat

/-- What the end of a stream means for a job. -/
def FailurePolicy.atEnd
    (policy : FailurePolicy)
    (stream : Nat) : FeedEnd -> Except JobError Unit
  | .exhausted => .ok ()
  | .failed error =>
      match policy with
      | .fail => .error (.readFailed stream error)
      | .truncate => .ok ()

namespace Lane

/-- Advance over items to those of a vertex; an item of a later vertex is kept
for that vertex. -/
def seekItems
    (policy : FailurePolicy)
    (lane : Lane)
    (id : VertexId) : List Item -> Except JobError Sought
  | [] => do
      policy.atEnd lane.stream lane.ending
      return ⟨none, { lane with held := none, rest := [] }, 0⟩
  | item :: rest =>
      if item.id < id then do
        let sought <- seekItems policy lane id rest
        return { sought with dropped := sought.dropped + 1 }
      else if item.id = id then
        .ok ⟨some item.entries, { lane with held := none, rest := rest }, 0⟩
      else .ok ⟨none, { lane with held := some item, rest := rest }, 0⟩

/-- Advance a lane to a vertex. -/
def seek
    (policy : FailurePolicy)
    (lane : Lane)
    (id : VertexId) : Except JobError Sought :=
  seekItems policy lane id (lane.held.toList ++ lane.rest)

/-- Advance all lanes to a vertex, one after another. -/
def seekAll (policy : FailurePolicy) (id : VertexId) :
    List Lane -> Except JobError (List Sought)
  | [] => .ok []
  | lane :: lanes => do
      let sought <- lane.seek policy id
      let others <- seekAll policy id lanes
      return sought :: others

/-- Number of items of a lane that are left when it has been advanced to a vertex,
with the one that it stops at. -/
def leftAt (lane : Lane) (id : VertexId) : Nat :=
  ((lane.held.toList ++ lane.rest).dropWhile fun item => item.id < id).length

end Lane

namespace Sought

/-- The entries found for a vertex, by the query of their lane. -/
def fetched (sought : List Sought) : List (Slice × List Entry) :=
  sought.filterMap fun found =>
    found.entries.map fun entries => (found.lane.query, entries)

/-- Number of items dropped in all lanes. -/
def totalDropped : List Sought -> Nat
  | [] => 0
  | found :: others => found.dropped + totalDropped others

end Sought

/-- A vertex that a program was run for. -/
structure Visited (σ ρ : Type) where
  view : View
  visit : Visit σ ρ

/-- What a job does for the vertices it meets. -/
structure Sweep (σ ρ : Type) where
  policy : FailurePolicy
  initializer : Initializer σ
  program : Program σ ρ

/-- Something that a job does which may take time. -/
inductive Move (σ ρ : Type)
  /-- Wait until a stream has delivered all but its last `left - 1` items, or with
  `left = 0` until it has ended. -/
  | reach (stream left : Nat)
  /-- Hand a vertex to the workers. -/
  | submit (visited : Visited σ ρ)

/-- A job between two vertices. -/
structure Progress (σ ρ : Type) where
  lanes : List Lane
  /-- The last vertex that the first stream named. -/
  last : Option VertexId
  tally : Tally
  store : StateStore σ
  /-- The vertices that the program was run for, in order. -/
  visited : List (Visited σ ρ)

/-- What joining the streams of a job came to. -/
structure Joined (σ ρ : Type) where
  progress : Progress σ ρ
  /-- What was done on the way, in order. -/
  moves : List (Move σ ρ)
  result : Except JobError Unit

/-- Read the probe of a vertex: whether the vertex exists. -/
def Item.exists? (item : Item) : Except JobError Bool :=
  match item.entries with
  | [] => .error (.probeDecode item.id (.decode .probeEmpty))
  | probe :: _ =>
      match Relation.ofEntry item.id probe with
      | .error error => .error (.probeDecode item.id error)
      | .ok relation => .ok relation.marksExistence

/-- The waits of lanes that are advanced to a vertex, up to one that ends badly. -/
def Lane.waits
    {σ ρ : Type}
    (policy : FailurePolicy)
    (id : VertexId) : List Lane -> List (Move σ ρ)
  | [] => []
  | lane :: lanes =>
      .reach lane.stream (lane.leftAt id) ::
        match lane.seek policy id with
        | .ok _ => waits policy id lanes
        | .error _ => []

namespace Progress

variable {σ ρ : Type}

/-- Whether the first stream has named a vertex at or after this one before. -/
def isPast (progress : Progress σ ρ) (id : VertexId) : Bool :=
  match progress.last with
  | none => false
  | some last => id ≤ last

/-- Skip a vertex that comes out of order. -/
def skipOutOfOrder (progress : Progress σ ρ) : Progress σ ρ :=
  { progress with
    tally := { progress.tally with
      disordered := progress.tally.disordered + 1 } }

/-- Put the advanced lanes in place and count what they dropped. -/
def settleLanes
    (progress : Progress σ ρ)
    (id : VertexId)
    (sought : List Sought) : Progress σ ρ :=
  { progress with
    last := some id
    lanes := sought.map Sought.lane
    tally := { progress.tally with
      orphans :=
        progress.tally.orphans + Sought.totalDropped sought } }

/-- Count a vertex that does not exist any more. -/
def skipDeleted (progress : Progress σ ρ) : Progress σ ρ :=
  { progress with
    tally := { progress.tally with
      deleted := progress.tally.deleted + 1 } }

/-- Run the program for a vertex. -/
def dispatch
    (sweep : Sweep σ ρ)
    (progress : Progress σ ρ)
    (view : View) : Progress σ ρ :=
  let visit := sweep.program view
    (progress.store.own sweep.initializer view.id)
  { progress with
    store := progress.store.settle view.id visit
    visited := progress.visited ++ [⟨view, visit⟩]
    tally := { progress.tally with
      dispatched := progress.tally.dispatched + 1
      failed := progress.tally.failed +
        (if visit.ending = .completed then 0 else 1)
      sawPartitioned :=
        progress.tally.sawPartitioned || view.isPartitioned } }

/-- Handle one item of the first stream. -/
def step
    (sweep : Sweep σ ρ)
    (progress : Progress σ ρ)
    (item : Item) : Except JobError (Progress σ ρ) :=
  if progress.isPast item.id then .ok progress.skipOutOfOrder
  else do
    let live <- item.exists?
    let sought <- Lane.seekAll sweep.policy item.id progress.lanes
    let settled := progress.settleLanes item.id sought
    if live then
      return settled.dispatch sweep ⟨item.id, Sought.fetched sought⟩
    else return settled.skipDeleted

/-- What handling an item of the first stream does, as far as it gets. -/
def moves
    (sweep : Sweep σ ρ)
    (progress : Progress σ ρ)
    (item : Item) : List (Move σ ρ) :=
  if progress.isPast item.id then []
  else
    match item.exists? with
    | .error _ => []
    | .ok _ =>
        Lane.waits sweep.policy item.id progress.lanes ++
          match progress.step sweep item with
          | .error _ => []
          | .ok next =>
              (next.visited.drop progress.visited.length).map .submit

/-- Handle the items of the first stream and then its end, up to an error. -/
def run
    (sweep : Sweep σ ρ)
    (progress : Progress σ ρ)
    (ending : FeedEnd) : List Item -> Joined σ ρ
  | [] => ⟨progress, [.reach 0 0], sweep.policy.atEnd 0 ending⟩
  | item :: rest =>
      let made := .reach 0 (rest.length + 1) :: progress.moves sweep item
      match progress.step sweep item with
      | .error error => ⟨progress, made, .error error⟩
      | .ok next =>
          let later := next.run sweep ending rest
          { later with moves := made ++ later.moves }

/-- Number of lanes that hold an item which no vertex claimed. -/
def leftover (progress : Progress σ ρ) : Nat :=
  (progress.lanes.filter fun lane => lane.held.isSome).length

end Progress
end GraphSweep
