import GraphSweep.ByteMap
import GraphSweep.Relation

/-!
# Slice queries

A slice query selects the entries of a row whose columns lie in a half-open range
of byte strings, of which it may keep only the first few.
-/

namespace GraphSweep

/-- The stored entries of one vertex, by column. -/
abbrev Row := ByteMap Bytes

/-- A half-open range of columns, with an optional bound on the number of entries
taken from it. -/
structure Slice where
  start : Bytes
  stop : Bytes
  limit : Option Nat
  deriving DecidableEq

namespace Slice

/-- The query that every job asks first: the first entry of a row, up to the last
type ids. -/
def probe : Slice where
  start := List.replicate 4 0x00
  stop := List.replicate 4 0xff
  limit := some 1

/-- The query for all relations of a type. -/
def ofType (type : UInt64) : Slice where
  start := Relation.typeKey type
  stop :=
    if type.toNat + 1 < UInt64.size then Bytes.bigEndian 8 (type.toNat + 1)
    else List.replicate 9 0xff
  limit := none

/-- The query with its number of entries bounded. -/
def atMost (query : Slice) (limit : Nat) : Slice :=
  { query with limit := some limit }

/-- Whether a column lies in the range of the query. -/
def contains (query : Slice) (column : Bytes) : Bool :=
  !Bytes.precedes column query.start && Bytes.precedes column query.stop

/-- The first entries of a list, as many as the query allows. -/
def bound (query : Slice) (entries : List Entry) : List Entry :=
  match query.limit with
  | none => entries
  | some limit => entries.take limit

/-- The entries of a row that the query selects, in ascending column order. -/
def select (query : Slice) (row : Row) : List Entry :=
  let reached := row.entries.dropWhile fun entry =>
    Bytes.precedes entry.1 query.start
  let within := reached.takeWhile fun entry =>
    Bytes.precedes entry.1 query.stop
  query.bound (within.map fun entry => ⟨entry.1, entry.2⟩)

/-- The text of a query, such as `[[00, 40], [00, 41]) limit 2`. -/
def text (query : Slice) : String :=
  "[" ++ Bytes.listing query.start ++ ", " ++ Bytes.listing query.stop ++ ")" ++
    match query.limit with
    | none => ""
    | some limit => " limit " ++ toString limit

end Slice
end GraphSweep
