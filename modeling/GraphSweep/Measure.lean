import GraphSweep.Fixture.Build
import GraphSweep.Job
import GraphSweep.Json.Writer
import GraphSweep.Transaction

/-!
# Measures of a graph

Two measures are computed for the vertices of a stored graph from the edges of
one label: the number of neighbours, and the sum of their logical ids. The report
of a measure lists the values by logical id.
-/

namespace GraphSweep

/-- What is computed for each vertex. -/
inductive Measure
  | degree
  | neighborSum
  deriving DecidableEq

/-- The values of a measure. -/
structure MeasureReport where
  measure : Measure
  tally : Tally
  /-- The values by logical id, in ascending order. -/
  states : List (UInt64 × Option UInt64)

/-- Why a measure could not be computed. -/
inductive MeasureError
  | job (error : JobError)
  /-- The type of the edge label does not fit in a type id. -/
  | labelOverflow
  deriving DecidableEq

/-- The sum of some numbers, if it fits. -/
def checkedSum (numbers : List UInt64) : Option UInt64 := mergeAll 0 numbers

namespace Measure

/-- The measure as documents name it. -/
def name : Measure -> String
  | degree => "degree"
  | neighborSum => "neighbor-sum"

/-- The measure that a document names. -/
def ofName? (name : String) : Option Measure :=
  if name = "degree" then some degree
  else if name = "neighbor-sum" then some neighborSum
  else none

@[simp] theorem ofName?_name (measure : Measure) :
    ofName? measure.name = some measure := by
  cases measure <;> decide

/-- The value of a measure for a vertex with some neighbours, if it fits. -/
def value? (layout : IdLayout) (neighbors : List VertexId) :
    Measure -> Option UInt64
  | degree => some (UInt64.ofNat neighbors.length)
  | neighborSum => checkedSum (neighbors.map layout.count)

/-- The program that computes a measure over the edges of a query. -/
def program
    {ρ : Type}
    (measure : Measure)
    (layout : IdLayout)
    (query : Slice) : Program UInt64 ρ :=
  fun view _ =>
    match view.neighbors query with
    | .error _ => .fail
    | .ok neighbors =>
        match measure.value? layout neighbors with
        | some value => .write value
        | none => .crash

/-- The job that computes a measure over the edges of a type. -/
def job
    (measure : Measure)
    (layout : IdLayout)
    (type : UInt64)
    (config : JobConfig) : Job UInt64 Unit where
  queries := [Slice.ofType type]
  config := config
  initializer := some (.state 0)
  seed := none
  program := measure.program layout (Slice.ofType type)

/-- Put a value under a logical id into ascending values, in place of the one
there. -/
def putValue (id : UInt64) (value : Option UInt64) :
    List (UInt64 × Option UInt64) -> List (UInt64 × Option UInt64)
  | [] => [(id, value)]
  | (other, held) :: rest =>
      if id < other then (id, value) :: (other, held) :: rest
      else if other = id then (id, value) :: rest
      else (other, held) :: putValue id value rest

/-- The states of a store by logical id. -/
def byVertex
    (graph : StoredGraph)
    (store : StateStore UInt64) : List (UInt64 × Option UInt64) :=
  store.entries.foldl (fun values entry =>
    putValue (graph.vertexOf entry.1) entry.2 values) []

/-- Compute a measure of a stored graph over the edges of a label. -/
def compute
    (measure : Measure)
    (graph : StoredGraph)
    (label : UInt64)
    (config : JobConfig) : Except MeasureError MeasureReport :=
  if label.toNat + Relation.firstFreeType.toNat < UInt64.size then
    let layout := graph.store.layout
    let outcome := (measure.job layout (Relation.firstFreeType + label)
      config).execute layout (Transaction.begin graph.store).context .ordinary
    match outcome.result with
    | .ok tally => .ok ⟨measure, tally, byVertex graph outcome.store⟩
    | .error error => .error (.job error)
  else .error .labelOverflow

end Measure

namespace Tally

/-- The document of what a job counted. -/
def toJson (tally : Tally) : JsonValue :=
  .record [("vertices_dispatched", .natural tally.dispatched),
    ("deleted_skipped", .natural tally.deleted),
    ("failed_vertices", .natural tally.failed),
    ("orphans_dropped", .natural tally.orphans),
    ("out_of_order_skipped", .natural tally.disordered),
    ("inline_dispatches", .natural tally.inlined),
    ("partitioned_seen", .bool tally.sawPartitioned)]

end Tally

namespace MeasureReport

/-- The document of a value. -/
def valueJson : Option UInt64 -> JsonValue
  | some value => .natural value.toNat
  | none => .null

/-- The document of a report. -/
def toJson (report : MeasureReport) : JsonValue :=
  .record [("program", .text report.measure.name),
    ("stats", report.tally.toJson),
    ("states", .record (report.states.map fun (id, value) =>
      (toString id.toNat, valueJson value)))]

/-- The text of a report. -/
def toText (report : MeasureReport) : String := report.toJson.toPretty

end MeasureReport
end GraphSweep
