import GraphSweep.Slice

/-!
# Vertex views

A view is what a program sees of the vertex it is run for: the id and, for every
query that selects something of it, the selected entries.
-/

namespace GraphSweep

/-- A vertex with the entries fetched for it. -/
structure View where
  id : VertexId
  /-- The fetched entries of each query that selects some. -/
  fetched : List (Slice × List Entry)
  deriving DecidableEq

namespace IdKind

/-- The kind as the text of a view names it. -/
def title : IdKind -> String
  | normal => "Normal"
  | partitioned => "Partitioned"
  | hidden => "Hidden"

end IdKind

namespace View

/-- The kind of the vertex. -/
def kind (view : View) : IdKind := VertexId.kind view.id

/-- Whether the vertex is one sibling of a partitioned vertex. -/
def isPartitioned (view : View) : Bool :=
  VertexId.isPartitioned view.id

/-- The queries that select something of the vertex. -/
def queries (view : View) : List Slice :=
  view.fetched.map Prod.fst

/-- Whether a query selects something of the vertex. -/
def answers (view : View) (query : Slice) : Bool :=
  view.queries.contains query

/-- The entries that a query selects; none for a query that was not asked. -/
def entries (view : View) (query : Slice) : List Entry :=
  (view.fetched.lookup query).getD []

/-- Read entries of a vertex as relations. -/
def readAll (vertex : VertexId) :
    List Entry -> Except StorageError (List Relation)
  | [] => .ok []
  | entry :: rest => do
      let relation <- Relation.ofEntry vertex entry
      let relations <- readAll vertex rest
      return relation :: relations

/-- The relations that a query selects. -/
def relations
    (view : View)
    (query : Slice) : Except StorageError (List Relation) :=
  readAll view.id (view.entries query)

/-- The vertices at the other ends of the edges that a query selects. -/
def neighbors
    (view : View)
    (query : Slice) : Except StorageError (List VertexId) :=
  (view.relations query).map fun relations =>
    relations.filterMap Relation.other?

/-- The value of the first property of a type among some entries; an entry that
cannot be read before it is an error. -/
def findProperty (vertex : VertexId) (type : UInt64) :
    List Entry -> Except StorageError (Option Bytes)
  | [] => .ok none
  | entry :: rest => do
      let relation <- Relation.ofEntry vertex entry
      if relation.type = type ∧ relation.kind = .property then
        return some relation.value
      else findProperty vertex type rest

/-- The value of a property among all fetched entries. -/
def property
    (view : View)
    (type : UInt64) : Except StorageError (Option Bytes) :=
  findProperty view.id type (view.fetched.flatMap Prod.snd)

/-- The text of a view, such as
`VertexView { id: 64, kind: Normal, queries: 1 }`. -/
def text (view : View) : String :=
  "VertexView \x7b id: " ++ toString view.id.toInt ++ ", kind: "
    ++ view.kind.title ++ ", queries: " ++ toString view.fetched.length
    ++ " \x7d"

end View
end GraphSweep
