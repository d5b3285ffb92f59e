import GraphSweep.Fixture.Basic
import GraphSweep.Json.Reader
import GraphSweep.Json.Writer

/-!
# Fixtures as documents

A fixture is written as a JSON object with all its fields. A document may leave
out the fields that have their usual value, and it may hold others.
-/

namespace GraphSweep

namespace FixtureVertex

/-- The document of a vertex. -/
def toJson (vertex : FixtureVertex) : JsonValue :=
  .record [("id", .natural vertex.id.toNat), ("deleted", .bool vertex.deleted),
    ("hidden", .bool vertex.hidden),
    ("partitions", .natural vertex.partitions.toNat)]

/-- The vertex that a document describes. -/
def ofJson? (document : JsonValue) : Option FixtureVertex := do
  let fields <- document.asRecord? ["id", "deleted", "hidden", "partitions"]
  match fields.values with
  | [id, deleted, hidden, partitions] => do
      let id <- JsonRecord.required JsonValue.asWord64? id
      let deleted <- JsonRecord.withDefault JsonValue.asBool? false deleted
      let hidden <- JsonRecord.withDefault JsonValue.asBool? false hidden
      let partitions <-
        JsonRecord.withDefault JsonValue.asWord32? 1 partitions
      return ⟨id, deleted, hidden, partitions⟩
  | _ => none

end FixtureVertex

namespace FixtureEdge

/-- The document of an edge. -/
def toJson (edge : FixtureEdge) : JsonValue :=
  .record [("from", .natural edge.source.toNat),
    ("to", .natural edge.target.toNat), ("label", .natural edge.label.toNat)]

/-- The edge that a document describes. -/
def ofJson? (document : JsonValue) : Option FixtureEdge := do
  let fields <- document.asRecord? ["from", "to", "label"]
  match fields.values with
  | [source, target, label] => do
      let source <- JsonRecord.required JsonValue.asWord64? source
      let target <- JsonRecord.required JsonValue.asWord64? target
      let label <- JsonRecord.withDefault JsonValue.asWord64? 0 label
      return ⟨source, target, label⟩
  | _ => none

end FixtureEdge

namespace Fixture

/-- The document of a fixture. -/
def toJson (fixture : Fixture) : JsonValue :=
  .record [("partition_bits", .natural fixture.partitionWidth.toNat),
    ("vertices", .array (fixture.vertices.map FixtureVertex.toJson)),
    ("edges", .array (fixture.edges.map FixtureEdge.toJson))]

/-- The fixture that a document describes. -/
def ofJson? (document : JsonValue) : Option Fixture := do
  let fields <-
    document.asRecord? ["partition_bits", "vertices", "edges"]
  match fields.values with
  | [bits, vertices, edges] => do
      let bits <- JsonRecord.withDefault JsonValue.asWord32?
        IdLayout.standardBits bits
      let vertices <- JsonRecord.withDefault
        (JsonValue.asList? FixtureVertex.ofJson?) [] vertices
      let edges <- JsonRecord.withDefault
        (JsonValue.asList? FixtureEdge.ofJson?) [] edges
      return ⟨bits, vertices, edges⟩
  | _ => none

/-- The fixture that a text describes. -/
def ofText (text : String) : Except FixtureError Fixture :=
  match JsonValue.ofText? text >>= ofJson? with
  | some fixture => .ok fixture
  | none => .error .parse

/-- The fixture that the bytes of a file describe. -/
def ofFile (content : Bytes) : Except FixtureError Fixture :=
  match content.toText? with
  | some text => ofText text
  | none => .error .read

/-- The text of a fixture. -/
def toText (fixture : Fixture) : String := fixture.toJson.toPretty

end Fixture
end GraphSweep
