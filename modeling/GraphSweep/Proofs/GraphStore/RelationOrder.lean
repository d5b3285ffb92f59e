import GraphSweep.Proofs.GraphStore.KeyOrder

/-!
# The order of relations

Columns are in the order of the relations that they store, byte by byte: the relations of
a lower type come first, of one type its property, then the edges that go out and then
those that come in, each in the order of the vertices at their other ends. So the mark of
existence comes before all relations of types that are not reserved, where the probe
finds it.
-/

namespace GraphSweep

namespace RelationShape

/-- The order of the relations of one type: the property first, then the outgoing and then
the incoming edges, each in the order of their other ends. -/
inductive Precedes : RelationShape -> RelationShape -> Prop
  | property (direction : Direction) (id : VertexId) :
      Precedes .property (.edge direction id)
  | outgoing (id other : VertexId) :
      Precedes (.edge .outgoing id) (.edge .incoming other)
  | lower (direction : Direction) {id other : VertexId} (less : id < other) :
      Precedes (.edge direction id) (.edge direction other)

/-- Edges of one direction are in the order of their other ends. -/
theorem precedes_edge_iff {direction : Direction} {id other : VertexId} :
    Precedes (.edge direction id) (.edge direction other) ↔ id < other := by
  constructor
  · rintro (_ | _ | ⟨-, less⟩)
    exact less
  · exact Precedes.lower direction

/-- Which of two relations of one type comes first can be decided. -/
instance decidablePrecedes :
    (kind other : RelationShape) -> Decidable (kind.Precedes other)
  | .property, .property => .isFalse nofun
  | .property, .edge direction id => .isTrue (.property direction id)
  | .edge _ _, .property => .isFalse nofun
  | .edge .outgoing id, .edge .incoming other => .isTrue (.outgoing id other)
  | .edge .incoming _, .edge .outgoing _ => .isFalse nofun
  | .edge .outgoing _, .edge .outgoing _ =>
      decidable_of_iff _ precedes_edge_iff.symm
  | .edge .incoming _, .edge .incoming _ =>
      decidable_of_iff _ precedes_edge_iff.symm

end RelationShape

namespace Relation

variable {relation other : Relation}

/-- Whether the vertex at the other end, if there is one, is not negative. -/
def Natural (relation : Relation) : Prop :=
  match relation.kind with
  | .property => True
  | .edge _ id => 0 ≤ id

instance : (relation : Relation) -> Decidable relation.Natural
  | ⟨_, .property, _⟩ => inferInstanceAs (Decidable True)
  | ⟨_, .edge _ id, _⟩ => inferInstanceAs (Decidable (0 ≤ id))

theorem Natural.of_edge
    {direction : Direction}
    {id : VertexId}
    (natural : relation.Natural)
    (edge : relation.kind = .edge direction id) :
    0 ≤ id := by
  rwa [Natural, edge] at natural

/-- What columns have behind one type is in the order of the relations of the type. -/
theorem precedes_shapeKey
    (natural : relation.Natural)
    (naturalOther : other.Natural) :
    Bytes.precedes (shapeKey relation.kind) (shapeKey other.kind) = true ↔
      relation.kind.Precedes other.kind := by
  cases kind : relation.kind with
  | property =>
      cases otherKind : other.kind with
      | property => exact iff_of_false Bool.false_ne_true (by rintro ⟨⟩)
      | edge direction id => exact iff_of_true rfl (.property direction id)
  | edge direction id =>
      cases otherKind : other.kind with
      | property => exact iff_of_false Bool.false_ne_true (by rintro ⟨⟩)
      | edge otherDirection otherId =>
          have ordered := VertexId.precedes_key (natural.of_edge kind)
            (naturalOther.of_edge otherKind)
          -- The direction decides unless both are the same.
          cases direction <;> cases otherDirection
          case outgoing.outgoing | incoming.incoming =>
            rw [RelationShape.precedes_edge_iff, shapeKey, shapeKey,
              Bytes.cons_precedes_cons, ordered]
            simp
          case outgoing.incoming =>
            exact iff_of_true rfl (.outgoing id otherId)
          case incoming.outgoing =>
            exact iff_of_false Bool.false_ne_true (by rintro ⟨⟩)

/-- Columns are in the order of types, and those of one type in the order of what they
have behind it. -/
theorem precedes_column_iff :
    Bytes.precedes relation.column other.column = true ↔
      relation.type < other.type ∨ relation.type = other.type ∧
        Bytes.precedes (shapeKey relation.kind) (shapeKey other.kind) = true := by
  rw [column_eq, column_eq]
  by_cases same : relation.type = other.type
  · rw [same, Bytes.precedes_append_left]
    simp
  · have different : typeKey relation.type ≠ typeKey other.type := fun equal =>
      same (typeKey_injective equal)
    rw [Bytes.precedes_append _ _ (by simp) different,
      Bytes.precedes_eq_decide (by simp), toNat_typeKey, toNat_typeKey,
      decide_eq_true_iff, ← UInt64.lt_iff_toNat_lt]
    simp [same]

/-- Columns are in the lexicographic order of bytes exactly as their relations are in the
order of types, properties before edges, outgoing before incoming edges, and other ends
that are not negative. The mark of existence comes before every column of a type that is
not reserved, and the probe contains it. -/
theorem columns_are_in_relation_order :
    (∀ relation other : Relation, relation.Natural -> other.Natural ->
      (List.Lex (· < ·) relation.column other.column ↔
        relation.type < other.type ∨
          relation.type = other.type ∧ relation.kind.Precedes other.kind)) ∧
    (∀ relation : Relation, firstFreeType ≤ relation.type ->
      List.Lex (· < ·) (columnOfProperty markerType) relation.column) ∧
    Slice.probe.contains (columnOfProperty markerType) = true := by
  refine ⟨?ordered, ?marker, ?contained⟩
  case ordered =>
    intro relation other natural naturalOther
    rw [← Bytes.precedes_iff_lex, precedes_column_iff,
      precedes_shapeKey natural naturalOther]
  case marker =>
    intro relation free
    have reserved : markerType < firstFreeType := by decide
    have lower : markerType < relation.type :=
      UInt64.lt_of_lt_of_le reserved free
    have before : Bytes.precedes
        (column ⟨markerType, .property, []⟩) relation.column = true :=
      precedes_column lower
    exact Bytes.precedes_iff_lex.1 before
  case contained => decide

/-- Relations in their order, of which some are told apart by another byte than the lowest
or by the end of a column. -/
def ladder : List Relation :=
  [⟨64, .property, [7]⟩, ⟨64, .edge .outgoing 255, []⟩,
    ⟨64, .edge .outgoing 256, []⟩, ⟨64, .edge .incoming 0, []⟩,
    ⟨64, .edge .incoming 9223372036854775807, []⟩, ⟨65, .property, []⟩]

theorem columns_of_ladder_ascend :
    (∀ relation ∈ ladder,
      relation.Natural ∧ firstFreeType ≤ relation.type) ∧
    (ladder.map column).Pairwise (List.Lex (· < ·)) ∧
    ∀ relation ∈ ladder,
      List.Lex (· < ·) (columnOfProperty markerType) relation.column := by
  obtain ⟨ordered, marker, -⟩ := columns_are_in_relation_order
  have natural : ∀ relation ∈ ladder,
      relation.Natural ∧ firstFreeType ≤ relation.type := by
    decide +kernel
  have ascending : ladder.Pairwise fun relation other =>
      relation.type < other.type ∨
        relation.type = other.type ∧ relation.kind.Precedes other.kind := by
    decide +kernel
  refine ⟨natural, ?_, fun relation member =>
    marker relation (natural relation member).2⟩
  rw [List.pairwise_map]
  refine ascending.imp_of_mem fun {relation other} member otherMember before => ?_
  exact (ordered relation other (natural relation member).1
    (natural other otherMember).1).2 before

end Relation
end GraphSweep
