import GraphSweep.Slice

/-!
# The graph store

The store keeps one row of entries per key, rows and entries in byte order.
Vertices, edges and properties are all kept as entries, an edge in the rows of
both its ends. Faults can be planned for the readers of a query: a failure after
some keys, or a pause before one.
-/

namespace GraphSweep

/-- All stored rows, by key. -/
abbrev Table := ByteMap Row

/-- A pause before the next read once some keys have been delivered. -/
structure Stall where
  after : Nat
  millis : Nat
  deriving DecidableEq

/-- Faults that readers of a query meet. -/
structure Faults where
  /-- Queries whose readers fail, and after how many keys; the latest wins. -/
  failures : List (Slice × Nat)
  /-- Queries whose readers pause; the latest wins. -/
  stalls : List (Slice × Stall)

namespace Faults

/-- A plan without faults. -/
def empty : Faults := ⟨[], []⟩

/-- After how many keys readers of a query fail. -/
def failure? (plan : Faults) (query : Slice) : Option Nat :=
  plan.failures.lookup query

/-- Where readers of a query pause. -/
def stall? (plan : Faults) (query : Slice) : Option Stall :=
  plan.stalls.lookup query

end Faults

/-- A store of rows under vertex keys. -/
structure GraphStore where
  layout : IdLayout
  table : Table
  faults : Faults

namespace GraphStore

/-- A store without rows. -/
def empty (layout : IdLayout) : GraphStore where
  layout := layout
  table := ByteMap.empty
  faults := Faults.empty

/-- The row of a vertex; a vertex without one has an empty row. -/
def row (store : GraphStore) (vertex : VertexId) : Row :=
  (store.table.find? (VertexId.key vertex)).getD ByteMap.empty

/-- Put an entry into the row of a vertex, in place of the one in its column. -/
def insert (store : GraphStore) (vertex : VertexId) (entry : Entry) : GraphStore :=
  { store with
    table := store.table.insert (VertexId.key vertex)
      ((store.row vertex).insert entry.column entry.value) }

/-- Mark a vertex as existing. -/
def addVertex (store : GraphStore) (vertex : VertexId) : GraphStore :=
  store.insert vertex Relation.markerEntry

/-- Mark all siblings of a partitioned vertex as existing. -/
def addPartitioned
    (store : GraphStore)
    (count : UInt64)
    (partitions : UInt32) : GraphStore :=
  (store.layout.siblings count partitions).foldl addVertex store

/-- Whether a vertex is marked as existing. -/
def isMarked (store : GraphStore) (vertex : VertexId) : Bool :=
  (store.row vertex).contains (Relation.columnOfProperty Relation.markerType)

/-- Take the mark of existence from a vertex; all else it holds stays. -/
def unmark (store : GraphStore) (vertex : VertexId) : GraphStore :=
  match store.table.find? (VertexId.key vertex) with
  | none => store
  | some row =>
      { store with
        table := store.table.insert (VertexId.key vertex)
          (row.erase (Relation.columnOfProperty Relation.markerType)) }

/-- Put an edge into the rows of both its ends. -/
def addEdge
    (store : GraphStore)
    (label : UInt64)
    (source target : VertexId) : GraphStore :=
  (store.insert source ⟨Relation.columnOfEdge label .outgoing target, []⟩).insert
    target ⟨Relation.columnOfEdge label .incoming source, []⟩

/-- Give a vertex a property. -/
def putProperty
    (store : GraphStore)
    (vertex : VertexId)
    (type : UInt64)
    (value : Bytes) : GraphStore :=
  store.insert vertex ⟨Relation.columnOfProperty type, value⟩

/-- Number of keys that have a row, even an empty one. -/
def size (store : GraphStore) : Nat := store.table.size

/-- Let readers of a query fail after some keys. -/
def planFailure
    (store : GraphStore)
    (query : Slice)
    (after : Nat) : GraphStore :=
  { store with
    faults := { store.faults with
      failures := (query, after) :: store.faults.failures } }

/-- Let readers of a query pause once. -/
def planStall
    (store : GraphStore)
    (query : Slice)
    (stall : Stall) : GraphStore :=
  { store with
    faults := { store.faults with
      stalls := (query, stall) :: store.faults.stalls } }

/-- Forget all planned faults. -/
def forgetFaults (store : GraphStore) : GraphStore :=
  { store with faults := Faults.empty }

end GraphStore
end GraphSweep
