import GraphSweep.Fixture.Document
import GraphSweep.Proofs.Json.Records
import GraphSweep.Proofs.Json.RoundTrip

/-!
# Fixtures and their documents

Fixtures are read back from their text. A document of a fixture may leave out fields
that have their usual value, of the fixture itself and of each vertex and edge, and is
still read as the same fixture.
-/

namespace GraphSweep

open JsonValue

namespace FixtureVertex

/-- The fields of the document of a vertex. -/
def fields (vertex : FixtureVertex) : List (String × JsonValue) :=
  [("id", .natural vertex.id.toNat), ("deleted", .bool vertex.deleted),
    ("hidden", .bool vertex.hidden),
    ("partitions", .natural vertex.partitions.toNat)]

/-- The fields that the document of a vertex may leave out. -/
def usual : List (String × JsonValue) :=
  [("deleted", .bool false), ("hidden", .bool false), ("partitions", .natural 1)]

/-- A document of a vertex that leaves out some of the usual fields, or none. -/
def Abridged (vertex : FixtureVertex) : JsonValue -> Prop :=
  AbridgedRecord usual vertex.fields

variable
  {vertex : FixtureVertex}
  {document : JsonValue}

theorem Abridged.plain (abridged : vertex.Abridged document) : document.Plain := by
  refine AbridgedRecord.plain abridged ?_
  simp only [fields, List.forall_mem_cons]
  exact ⟨.natural _, .bool _, .bool _, .natural _, List.forall_mem_nil _⟩

/-- A vertex is read from each of its documents. -/
theorem Abridged.ofJson?_eq (abridged : vertex.Abridged document) :
    ofJson? document = some vertex := by
  have distinct : (usual.map Prod.fst).Nodup :=
    show ["deleted", "hidden", "partitions"].Nodup by decide
  have needed : "id" ∉ usual.map Prod.fst :=
    show "id" ∉ ["deleted", "hidden", "partitions"] by decide
  have names : (vertex.fields.map Prod.fst).Nodup :=
    show ["id", "deleted", "hidden", "partitions"].Nodup by decide
  obtain ⟨values, told, give⟩ := AbridgedRecord.exists_asRecord? abridged names
  -- There are as many values as fields, so that the match on their list takes the first arm.
  obtain _ | ⟨id, _ | ⟨deleted, _ | ⟨hidden, _ | ⟨partitions, _ | _⟩⟩⟩⟩ := give
  have readsId : JsonRecord.required asWord64? _ = some vertex.id :=
    (required_of_gives id needed).trans (asWord64?_natural vertex.id)
  have readsDeleted : JsonRecord.withDefault asBool? false _ = some vertex.deleted :=
    withDefault_of_gives deleted distinct (.head _) rfl
  have readsHidden : JsonRecord.withDefault asBool? false _ = some vertex.hidden :=
    withDefault_of_gives hidden distinct (.tail _ (.head _)) rfl
  have readsPartitions : JsonRecord.withDefault asWord32? 1 _ = some vertex.partitions :=
    (withDefault_of_gives partitions distinct (.tail _ (.tail _ (.head _)))
      (asWord32?_natural 1)).trans (asWord32?_natural vertex.partitions)
  change document.asRecord? ["id", "deleted", "hidden", "partitions"] = _ at told
  rw [ofJson?, told]
  simp only [Option.bind_eq_bind, Option.bind_some, readsId, readsDeleted, readsHidden,
    readsPartitions]
  rfl

end FixtureVertex

namespace FixtureEdge

/-- The fields of the document of an edge. -/
def fields (edge : FixtureEdge) : List (String × JsonValue) :=
  [("from", .natural edge.source.toNat), ("to", .natural edge.target.toNat),
    ("label", .natural edge.label.toNat)]

/-- The fields that the document of an edge may leave out. -/
def usual : List (String × JsonValue) := [("label", .natural 0)]

/-- A document of an edge that leaves out its label if that is the usual one, or does
not. -/
def Abridged (edge : FixtureEdge) : JsonValue -> Prop :=
  AbridgedRecord usual edge.fields

variable
  {edge : FixtureEdge}
  {document : JsonValue}

theorem Abridged.plain (abridged : edge.Abridged document) : document.Plain := by
  refine AbridgedRecord.plain abridged ?_
  simp only [fields, List.forall_mem_cons]
  exact ⟨.natural _, .natural _, .natural _, List.forall_mem_nil _⟩

/-- An edge is read from each of its documents. -/
theorem Abridged.ofJson?_eq (abridged : edge.Abridged document) :
    ofJson? document = some edge := by
  have distinct : (usual.map Prod.fst).Nodup := show ["label"].Nodup by decide
  have source : "from" ∉ usual.map Prod.fst := show "from" ∉ ["label"] by decide
  have target : "to" ∉ usual.map Prod.fst := show "to" ∉ ["label"] by decide
  have names : (edge.fields.map Prod.fst).Nodup :=
    show ["from", "to", "label"].Nodup by decide
  obtain ⟨values, told, give⟩ := AbridgedRecord.exists_asRecord? abridged names
  obtain _ | ⟨leaves, _ | ⟨enters, _ | ⟨label, _ | _⟩⟩⟩ := give
  have readsSource : JsonRecord.required asWord64? _ = some edge.source :=
    (required_of_gives leaves source).trans (asWord64?_natural edge.source)
  have readsTarget : JsonRecord.required asWord64? _ = some edge.target :=
    (required_of_gives enters target).trans (asWord64?_natural edge.target)
  have readsLabel : JsonRecord.withDefault asWord64? 0 _ = some edge.label :=
    (withDefault_of_gives label distinct (.head _) (asWord64?_natural 0)).trans
      (asWord64?_natural edge.label)
  change document.asRecord? ["from", "to", "label"] = _ at told
  rw [ofJson?, told]
  simp only [Option.bind_eq_bind, Option.bind_some, readsSource, readsTarget, readsLabel]
  rfl

end FixtureEdge

namespace Fixture

/-- The fields of the document of a fixture, from documents of its vertices and edges. -/
def fields (fixture : Fixture) (vertices edges : List JsonValue) :
    List (String × JsonValue) :=
  [("partition_bits", .natural fixture.partitionWidth.toNat),
    ("vertices", .array vertices), ("edges", .array edges)]

/-- The fields that the document of a fixture may leave out. -/
def usual : List (String × JsonValue) :=
  [("partition_bits", .natural 4), ("vertices", .array []), ("edges", .array [])]

/-- A document of a fixture that leaves out some of the usual fields of the fixture and
of its vertices and edges, or none. -/
def Abridged (fixture : Fixture) (document : JsonValue) : Prop :=
  ∃ vertices edges,
    List.Forall₂ FixtureVertex.Abridged fixture.vertices vertices ∧
    List.Forall₂ FixtureEdge.Abridged fixture.edges edges ∧
    AbridgedRecord usual (fixture.fields vertices edges) document

variable
  {fixture : Fixture}
  {document : JsonValue}

/-- The document with all fields leaves none out. -/
theorem abridged_toJson (fixture : Fixture) : fixture.Abridged fixture.toJson := by
  refine ⟨fixture.vertices.map FixtureVertex.toJson,
    fixture.edges.map FixtureEdge.toJson, ?_, ?_, abridgedRecord_self⟩
  · rw [List.forall₂_map_right_iff, List.forall₂_same]
    exact fun _ _ => abridgedRecord_self
  · rw [List.forall₂_map_right_iff, List.forall₂_same]
    exact fun _ _ => abridgedRecord_self

theorem Abridged.plain (abridged : fixture.Abridged document) : document.Plain := by
  obtain ⟨vertices, edges, placed, joined, abridged⟩ := abridged
  refine abridged.plain ?_
  have plainVertices := (List.forall₂_and_left vertices fixture.vertices).1
    (placed.flip.imp fun _ _ given => ⟨FixtureVertex.Abridged.plain given, given⟩)
  have plainEdges := (List.forall₂_and_left edges fixture.edges).1
    (joined.flip.imp fun _ _ given => ⟨FixtureEdge.Abridged.plain given, given⟩)
  simp only [fields, List.forall_mem_cons]
  exact ⟨.natural _, .array plainVertices.1, .array plainEdges.1, List.forall_mem_nil _⟩

/-- A fixture is read from each of its documents. -/
theorem Abridged.ofJson?_eq (abridged : fixture.Abridged document) :
    ofJson? document = some fixture := by
  obtain ⟨vertices, edges, placed, joined, abridged⟩ := abridged
  have distinct : (usual.map Prod.fst).Nodup :=
    show ["partition_bits", "vertices", "edges"].Nodup by decide
  have names : ((fixture.fields vertices edges).map Prod.fst).Nodup := distinct
  obtain ⟨values, told, give⟩ := abridged.exists_asRecord? names
  obtain _ | ⟨width, _ | ⟨declares, _ | ⟨connects, _ | _⟩⟩⟩ := give
  have readsWidth : JsonRecord.withDefault asWord32? IdLayout.standardBits _ =
      some fixture.partitionWidth :=
    (withDefault_of_gives width distinct (.head _) (asWord32?_natural 4)).trans
      (asWord32?_natural fixture.partitionWidth)
  have readsVertices :
      JsonRecord.withDefault (asList? FixtureVertex.ofJson?) [] _ =
        some fixture.vertices :=
    (withDefault_of_gives declares distinct (.tail _ (.head _))
      (asList?_array .nil)).trans
      (asList?_array (placed.imp fun _ _ => FixtureVertex.Abridged.ofJson?_eq))
  have readsEdges :
      JsonRecord.withDefault (asList? FixtureEdge.ofJson?) [] _ =
        some fixture.edges :=
    (withDefault_of_gives connects distinct (.tail _ (.tail _ (.head _)))
      (asList?_array .nil)).trans
      (asList?_array (joined.imp fun _ _ => FixtureEdge.Abridged.ofJson?_eq))
  change document.asRecord? ["partition_bits", "vertices", "edges"] = _ at told
  rw [ofJson?, told]
  simp only [Option.bind_eq_bind, Option.bind_some, readsWidth, readsVertices, readsEdges]
  rfl

/-- A text that spells a document of a fixture is read as the fixture. -/
theorem Abridged.ofText_eq
    (abridged : fixture.Abridged document)
    {text : String}
    (spells : JsonValue.ofText? text = some document) :
    ofText text = .ok fixture := by
  have read : (JsonValue.ofText? text >>= ofJson?) = some fixture := by
    rw [spells]
    exact abridged.ofJson?_eq
  rw [ofText, read]

/-- Fixtures are read back from their text, and from the text of each document of theirs
that leaves out usual fields, in whatever way the text spells the document. -/
theorem ofText_abridged (fixture : Fixture) :
    ofText fixture.toText = .ok fixture ∧
      ∀ document, fixture.Abridged document ->
        ofText document.toPretty = .ok fixture ∧
        ofText document.toCompact = .ok fixture ∧
        ∀ text, JsonValue.ofText? text = some document -> ofText text = .ok fixture := by
  have whole := abridged_toJson fixture
  refine ⟨whole.ofText_eq (whole.plain.ofText?_render spaces_pretty 0), ?_⟩
  intro document abridged
  exact ⟨abridged.ofText_eq (abridged.plain.ofText?_render spaces_pretty 0),
    abridged.ofText_eq (abridged.plain.ofText?_render spaces_compact 0),
    fun text spells => abridged.ofText_eq spells⟩

/-- A hidden vertex with the largest id, of which and beside which all that is usual is
left out. -/
theorem ofText_short_document :
    ofText (JsonValue.record [("vertices", .array [.record
      [("id", .natural 18446744073709551615), ("hidden", .bool true)]])]).toPretty =
      .ok ⟨4, [⟨18446744073709551615, false, true, 1⟩], []⟩ := by
  have vertex : FixtureVertex.Abridged ⟨18446744073709551615, false, true, 1⟩ (.record
      [("id", .natural 18446744073709551615), ("hidden", .bool true)]) := by
    refine ⟨_, ⟨.cons_cons _ (.cons _ (.cons_cons _ (.cons _ .slnil))), ?_⟩, rfl⟩
    simp [FixtureVertex.fields, FixtureVertex.usual]
  refine ((ofText_abridged _).2 _ ⟨_, [], .cons vertex .nil, .nil, _, ⟨?_, ?_⟩, rfl⟩).1
  · exact .cons _ (.cons_cons _ (.cons _ .slnil))
  · simp [fields, usual]

end Fixture
end GraphSweep
