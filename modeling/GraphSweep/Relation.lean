import GraphSweep.VertexId

/-!
# Relations

A vertex is stored as a row of entries, a column and a value each. A column is
either the id of a property type, or the id of an edge type followed by the
direction of the edge and the vertex at its other end. So the order of columns is
the order of types, then properties before edges, then outgoing before incoming
edges, then the order of the other ends.
-/

namespace GraphSweep

/-- A stored column with its value. -/
structure Entry where
  column : Bytes
  value : Bytes
  deriving DecidableEq

/-- The entries that a stream delivers under one key. -/
structure KeyedEntries where
  key : Bytes
  entries : List Entry
  deriving DecidableEq

/-- Which end of an edge a vertex is. -/
inductive Direction
  | outgoing
  | incoming
  deriving DecidableEq

namespace Direction

/-- The byte that tells a direction in a column. -/
def tag : Direction -> UInt8
  | outgoing => 0
  | incoming => 1

/-- The direction that a byte tells, if it tells one. -/
def ofTag? (tag : UInt8) : Option Direction :=
  if tag = 0 then some outgoing
  else if tag = 1 then some incoming
  else none

@[simp] theorem ofTag?_tag (direction : Direction) :
    ofTag? direction.tag = some direction := by
  cases direction <;> rfl

/-- The direction as documents name it. -/
def name : Direction -> String
  | outgoing => "out"
  | incoming => "in"

/-- The direction that a document names. -/
def ofName? (name : String) : Option Direction :=
  if name = "out" then some outgoing
  else if name = "in" then some incoming
  else none

@[simp] theorem ofName?_name (direction : Direction) :
    ofName? direction.name = some direction := by
  cases direction <;> decide

end Direction

/-- What a relation of a vertex is, apart from its type. -/
inductive RelationShape
  | property
  | edge (direction : Direction) (other : VertexId)
  deriving DecidableEq

/-- One relation of a vertex. -/
structure Relation where
  type : UInt64
  kind : RelationShape
  value : Bytes
  deriving DecidableEq

namespace Relation

/-- The property type that marks a vertex as existing. -/
def markerType : UInt64 := 1

/-- The smallest type id that is not reserved. -/
def firstFreeType : UInt64 := 64

/-- The spelling of a type id. -/
def typeKey (type : UInt64) : Bytes := Bytes.bigEndian 8 type.toNat

/-- The column of a property. -/
def columnOfProperty (type : UInt64) : Bytes := typeKey type

/-- The column of an edge. -/
def columnOfEdge
    (type : UInt64)
    (direction : Direction)
    (other : VertexId) : Bytes :=
  typeKey type ++ direction.tag :: VertexId.key other

/-- The entry that marks a vertex as existing. -/
def markerEntry : Entry := ⟨columnOfProperty markerType, [1]⟩

/-- The column of a relation. -/
def column (relation : Relation) : Bytes :=
  match relation.kind with
  | .property => columnOfProperty relation.type
  | .edge direction other => columnOfEdge relation.type direction other

/-- The entry that stores a relation. -/
def entry (relation : Relation) : Entry := ⟨relation.column, relation.value⟩

/-- Read an entry of a vertex as a relation. -/
def ofEntry (vertex : VertexId) (entry : Entry) : Except StorageError Relation :=
  let column := entry.column
  if column.length < 8 then
    .error (.decode (.columnTooShort vertex column.length))
  else
    let type := UInt64.ofNat (Bytes.toNat (column.take 8))
    match column.drop 8 with
    | [] => .ok ⟨type, .property, entry.value⟩
    | tag :: other =>
        if other.length ≠ 8 then
          .error (.decode (.columnLength column.length vertex))
        else
          match Direction.ofTag? tag with
          | none => .error (.decode (.directionUnknown tag vertex))
          | some direction =>
              .ok ⟨type, .edge direction (VertexId.ofWord (Bytes.toNat other)),
                entry.value⟩

/-- Whether a relation marks its vertex as existing. -/
def marksExistence (relation : Relation) : Bool :=
  relation.type == markerType

/-- The vertex at the other end, if the relation is an edge. -/
def other? (relation : Relation) : Option VertexId :=
  match relation.kind with
  | .property => none
  | .edge _ other => some other

end Relation
end GraphSweep
