import GraphSweep.JobConfig
import GraphSweep.Json.Value
import GraphSweep.Slice

/-!
# Stored values as documents

Entries and queries are written as JSON objects whose bytes are arrays of
numbers. The values that have names are written as those names.
-/

namespace GraphSweep

namespace Bytes

/-- The document of some bytes. -/
def toJson (bytes : Bytes) : JsonValue :=
  .array (bytes.map fun byte => .natural byte.toNat)

/-- The bytes that a document lists. -/
def ofJson? (document : JsonValue) : Option Bytes :=
  document.asList? JsonValue.asByte?

end Bytes

namespace Entry

/-- The document of an entry. -/
def toJson (entry : Entry) : JsonValue :=
  .record [("column", entry.column.toJson), ("value", entry.value.toJson)]

/-- The entry that a document describes. -/
def ofJson? (document : JsonValue) : Option Entry := do
  let fields <- document.asRecord? ["column", "value"]
  match fields.values with
  | [column, value] => do
      let column <- JsonRecord.required Bytes.ofJson? column
      let value <- JsonRecord.required Bytes.ofJson? value
      return ⟨column, value⟩
  | _ => none

end Entry

namespace Slice

/-- The document of a bound on a number of entries. -/
def limitJson : Option Nat -> JsonValue
  | some limit => .natural limit
  | none => .null

/-- The document of a query. -/
def toJson (query : Slice) : JsonValue :=
  .record [("start", query.start.toJson), ("end", query.stop.toJson),
    ("limit", limitJson query.limit)]

/-- The query that a document describes. Among fields given by position the limit
may not be left out. -/
def ofJson? (document : JsonValue) : Option Slice := do
  let fields <- document.asRecord? ["start", "end", "limit"]
  match fields.values with
  | [start, stop, limit] => do
      let start <- JsonRecord.required Bytes.ofJson? start
      let stop <- JsonRecord.required Bytes.ofJson? stop
      let readLimit := JsonValue.asOption? (JsonValue.asNatural? UInt64.size)
      let limit <-
        if fields.positional then JsonRecord.required readLimit limit
        else JsonRecord.withDefault readLimit none limit
      return ⟨start, stop, limit⟩
  | _ => none

end Slice

namespace IdKind

/-- The document of a kind. -/
def toJson (kind : IdKind) : JsonValue := .text kind.name

/-- The kind that a document names. -/
def ofJson? (document : JsonValue) : Option IdKind :=
  document.asName? >>= ofName?

end IdKind

namespace Direction

/-- The document of a direction. -/
def toJson (direction : Direction) : JsonValue := .text direction.name

/-- The direction that a document names. -/
def ofJson? (document : JsonValue) : Option Direction :=
  document.asName? >>= ofName?

end Direction

namespace FailurePolicy

/-- The document of a policy. -/
def toJson (policy : FailurePolicy) : JsonValue := .text policy.name

/-- The policy that a document names. -/
def ofJson? (document : JsonValue) : Option FailurePolicy :=
  document.asName? >>= ofName?

end FailurePolicy
end GraphSweep
