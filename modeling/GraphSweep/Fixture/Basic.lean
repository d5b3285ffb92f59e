import GraphSweep.VertexId

/-!
# Graph fixtures

A fixture describes a graph by logical vertex ids: which vertices there are, how
each is stored, and which labelled edges run between them.
-/

namespace GraphSweep

/-- A vertex of a fixture. -/
structure FixtureVertex where
  id : UInt64
  /-- Whether the vertex is marked as deleted once its edges are stored. -/
  deleted : Bool
  /-- Whether jobs pass over the vertex. -/
  hidden : Bool
  /-- How many siblings the vertex is stored as. -/
  partitions : UInt32
  deriving DecidableEq

/-- An edge of a fixture. -/
structure FixtureEdge where
  source : UInt64
  target : UInt64
  label : UInt64
  deriving DecidableEq

/-- A graph to be stored. -/
structure Fixture where
  partitionWidth : UInt32
  vertices : List FixtureVertex
  edges : List FixtureEdge
  deriving DecidableEq

/-- Why a vertex of a fixture cannot be stored. -/
inductive FixtureFault
  | declaredTwice (id : UInt64)
  | partitionCount (id : UInt64) (partitions : UInt32) (allowed : Nat)
  | hiddenPartitioned (id : UInt64)
  deriving DecidableEq

/-- Why a fixture could not be had or stored. -/
inductive FixtureError
  | read
  | parse
  | invalid (fault : FixtureFault)
  | undeclared (id : UInt64)
  /-- The type of an edge label does not fit in a type id. -/
  | labelOverflow
  deriving DecidableEq

namespace FixtureVertex

/-- A vertex stored once, that jobs run for. -/
def plain (id : UInt64) : FixtureVertex := ⟨id, false, false, 1⟩

end FixtureVertex

namespace FixtureFault

/-- What is said about a vertex that cannot be stored. -/
def message : FixtureFault -> String
  | declaredTwice id => "vertex " ++ toString id.toNat ++ " declared twice"
  | partitionCount id partitions allowed =>
      "vertex " ++ toString id.toNat ++ " has " ++ toString partitions.toNat
        ++ " partitions, layout allows 1..=" ++ toString allowed
  | hiddenPartitioned id =>
      "hidden vertex " ++ toString id.toNat ++ " cannot be partitioned"

end FixtureFault

namespace FixtureError

/-- What is said about a fixture that could not be had or stored. -/
def message : FixtureError -> String
  | read => "Failed to read fixture"
  | parse => "Failed to parse fixture"
  | invalid fault => "Invalid fixture: " ++ fault.message
  | undeclared id =>
      "Edge references unknown vertex " ++ toString id.toNat
  | labelOverflow => "attempt to add with overflow"

end FixtureError
end GraphSweep
