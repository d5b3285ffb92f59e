import GraphSweep.Proofs.Fixture.Stored
import Mathlib.Algebra.Group.Nat.Defs

/-!
# Which fixtures can be stored

A fixture is checked while it is stored, its vertices one after another and then its
edges. So it is stored exactly if every declaration can be stored next to those before it,
and otherwise it is refused for the first declaration that cannot.
-/

namespace GraphSweep

/-! ## Checks in order -/

section Fold

variable
  {ε α β : Type}
  {step : β -> α -> Except ε β}
  {start : β}
  {error : ε}

/-- Steps one after another fail at the first or at what comes after it. -/
theorem bind_eq_error_iff
    {first : Except ε α}
    {rest : α -> Except ε β} :
    first >>= rest = .error error ↔
      first = .error error ∨
        ∃ value, first = .ok value ∧ rest value = .error error := by
  cases first with
  | error reason =>
      constructor
      · intro fails
        cases fails
        exact Or.inl rfl
      · rintro (same | ⟨value, passed, -⟩)
        · cases same
          rfl
        · cases passed
  | ok value =>
      constructor
      · intro fails
        exact Or.inr ⟨value, rfl, fails⟩
      · rintro (same | ⟨other, passed, fails⟩)
        · cases same
        · cases passed
          exact fails

/-- A fold that fails does so at one of its items, after it has gone through those
before. -/
theorem foldlM_eq_error_iff {items : List α} :
    items.foldlM step start = .error error ↔
      ∃ before item after middle,
        items = before ++ item :: after ∧
        before.foldlM step start = .ok middle ∧
        step middle item = .error error := by
  induction items generalizing start with
  | nil =>
      constructor
      · intro fails
        cases fails
      · rintro ⟨before, item, after, middle, split, -⟩
        simp at split
  | cons first rest hypothesis =>
      rw [List.foldlM_cons, bind_eq_error_iff]
      constructor
      · rintro (fails | ⟨next, passed, fails⟩)
        · exact ⟨[], first, rest, start, rfl, rfl, fails⟩
        · obtain ⟨before, item, after, middle, rfl, gone, stops⟩ :=
            hypothesis.1 fails
          refine ⟨first :: before, item, after, middle, rfl, ?_, stops⟩
          rw [List.foldlM_cons, passed]
          exact gone
      · rintro ⟨before, item, after, middle, split, gone, stops⟩
        cases before with
        | nil =>
            cases split
            cases gone
            exact Or.inl stops
        | cons head tail =>
            cases split
            rw [List.foldlM_cons] at gone
            obtain ⟨next, passed, gone⟩ := exists_of_bind_eq_ok gone
            exact Or.inr ⟨next, passed,
              hypothesis.2 ⟨tail, item, after, middle, rfl, gone, stops⟩⟩

/-- The steps of a fold check each item next to those before it: the items that are gone
through are sound, and an item is refused exactly if it cannot be among sound ones. -/
structure Checks
    (step : β -> α -> Except ε β)
    (start : β)
    (Sound : List α -> Prop)
    (Refused : List α -> α -> ε -> Prop) : Prop where
  sound : ∀ {items result}, items.foldlM step start = .ok result -> Sound items
  refuses : ∀ {before item middle error},
    before.foldlM step start = .ok middle ->
    (step middle item = .error error ↔ Refused before item error)
  exclusive : ∀ {before item after error},
    Sound (before ++ item :: after) -> ¬Refused before item error

namespace Checks

variable
  {Sound : List α -> Prop}
  {Refused : List α -> α -> ε -> Prop}

/-- The items are gone through exactly if they are sound. -/
theorem exists_eq_ok_iff
    (checks : Checks step start Sound Refused)
    {items : List α} :
    (∃ result, items.foldlM step start = .ok result) ↔ Sound items := by
  constructor
  · rintro ⟨result, passed⟩
    exact checks.sound passed
  · intro sound
    cases folded : items.foldlM step start with
    | ok result => exact ⟨result, rfl⟩
    | error reason =>
        obtain ⟨before, item, after, middle, rfl, passed, fails⟩ :=
          foldlM_eq_error_iff.1 folded
        exact absurd ((checks.refuses passed).1 fails) (checks.exclusive sound)

/-- The items are refused for the first that is refused next to those before it. -/
theorem eq_error_iff
    (checks : Checks step start Sound Refused)
    {items : List α} :
    items.foldlM step start = .error error ↔
      ∃ before item after,
        items = before ++ item :: after ∧
        Sound before ∧
        Refused before item error := by
  rw [foldlM_eq_error_iff]
  constructor
  · rintro ⟨before, item, after, middle, split, passed, fails⟩
    exact ⟨before, item, after, split, checks.sound passed,
      (checks.refuses passed).1 fails⟩
  · rintro ⟨before, item, after, split, sound, refused⟩
    obtain ⟨middle, passed⟩ := checks.exists_eq_ok_iff.2 sound
    exact ⟨before, item, after, middle, split, passed,
      (checks.refuses passed).2 refused⟩

end Checks
end Fold

/-! ## Vertices -/

namespace FixtureVertex

variable
  {layout : IdLayout}
  {declared : List UInt64}
  {vertex : FixtureVertex}
  {fault : FixtureFault}

/-- A vertex that is refused is not new or cannot be stored. -/
theorem Refused.not_storable
    (refused : vertex.Refused layout declared fault)
    (fresh : vertex.id ∉ declared) :
    ¬vertex.Storable layout := by
  intro storable
  have positive := storable.positive
  have bounded := storable.bounded
  cases refused with
  | declaredTwice taken => exact fresh taken
  | partitionCount _ outside => omega
  | hiddenPartitioned _ _ _ hidden several =>
      have single := storable.whole hidden
      omega

end FixtureVertex

namespace StoredGraph

variable
  {graph : StoredGraph}
  {vertex : FixtureVertex}

/-- A vertex is not stored exactly if it is refused next to the vertices that are. -/
theorem addVertex_eq_error_iff {error : FixtureError} :
    graph.addVertex vertex = .error error ↔
      ∃ fault, vertex.Refused graph.store.layout
          (graph.places.map Prod.fst) fault ∧
        error = .invalid fault := by
  constructor
  · intro fails
    rcases vertex.refused_or_storable graph.store.layout
      (graph.places.map Prod.fst) with ⟨fault, refused⟩ | ⟨fresh, storable⟩
    · rw [addVertex_of_refused refused] at fails
      exact ⟨fault, refused, (Except.error.inj fails).symm⟩
    · rw [addVertex_of_storable fresh storable] at fails
      cases fails
  · rintro ⟨fault, refused, rfl⟩
    exact addVertex_of_refused refused

end StoredGraph

namespace Fixture

/-- Storing vertices checks them one after another. -/
theorem checks_addVertex (layout : IdLayout) :
    Checks StoredGraph.addVertex (StoredGraph.empty layout) (Placeable layout)
      fun before vertex error =>
        ∃ fault, vertex.Refused layout (before.map FixtureVertex.id) fault ∧
          error = .invalid fault where
  sound := by
    intro vertices graph stores
    exact (stored_of_addVertex stores).2.2
  refuses := by
    intro before vertex graph error stores
    obtain ⟨store, places, -⟩ := stored_of_addVertex stores
    have shape : graph.store.layout = layout := by
      rw [store, (GraphStore.ofWrites_frame _ _).1]
    have numbers : graph.places.map Prod.fst = before.map FixtureVertex.id := by
      rw [places, placesOf, List.map_map]
      rfl
    rw [StoredGraph.addVertex_eq_error_iff, shape, numbers]
  exclusive := by
    rintro before vertex after error ⟨distinct, storable⟩ ⟨fault, refused, -⟩
    have fresh : vertex.id ∉ before.map FixtureVertex.id := by
      rw [List.map_append, List.map_cons] at distinct
      intro taken
      exact (List.nodup_append.1 distinct).2.2 _ taken _ List.mem_cons_self rfl
    exact refused.not_storable fresh
      (storable vertex (List.mem_append_right _ List.mem_cons_self))

end Fixture

/-! ## Edges -/

namespace FixtureEdge

/-- An edge that is refused cannot be stored. -/
theorem Refused.not_storable
    {declared : List UInt64}
    {edge : FixtureEdge}
    {error : FixtureError}
    (refused : edge.Refused declared error) :
    ¬edge.Storable declared := by
  intro storable
  cases refused with
  | source unknown => exact unknown storable.source
  | target known unknown => exact unknown storable.target
  | label source target large => exact Nat.not_le.2 storable.label large

end FixtureEdge

namespace Fixture

section Joined

variable
  {fixture : Fixture}
  {graph : StoredGraph}
  {edge : FixtureEdge}

/-- An edge is not stored exactly if it is refused next to the declared vertices. -/
theorem addEdge_eq_error_iff
    (placeable : Placeable fixture.layout fixture.vertices)
    (places : graph.places = placesOf fixture.layout fixture.vertices)
    {error : FixtureError} :
    graph.addEdge edge = .error error ↔
      edge.Refused (fixture.vertices.map FixtureVertex.id) error := by
  constructor
  · intro fails
    rcases edge.refused_or_storable (fixture.vertices.map FixtureVertex.id) with
      ⟨reason, refused⟩ | storable
    · rw [addEdge_of_refused placeable places refused] at fails
      cases fails
      exact refused
    · rw [addEdge_of_storable placeable places storable] at fails
      cases fails
  · exact addEdge_of_refused placeable places

/-- Storing edges checks them one after another. -/
theorem checks_addEdge
    (placeable : Placeable fixture.layout fixture.vertices)
    (places : graph.places = placesOf fixture.layout fixture.vertices) :
    Checks StoredGraph.addEdge graph
      (fun edges => ∀ edge ∈ edges,
        edge.Storable (fixture.vertices.map FixtureVertex.id))
      fun _ edge error =>
        edge.Refused (fixture.vertices.map FixtureVertex.id) error where
  sound := by
    intro edges joined joins
    exact (stored_of_addEdge placeable places joins).2.2
  refuses := by
    intro before edge middle error joins
    exact addEdge_eq_error_iff placeable
      (stored_of_addEdge placeable places joins).1
  exclusive := by
    intro before edge after error storable refused
    exact refused.not_storable
      (storable edge (List.mem_append_right _ List.mem_cons_self))

end Joined

/-! ## Fixtures -/

/-- What a fixture is refused for: the fault of the first vertex that cannot be placed next
to those before it, or else that of the first edge that cannot be stored. -/
inductive Refused (fixture : Fixture) : FixtureError -> Prop
  | vertex
      {before after : List FixtureVertex}
      {vertex : FixtureVertex}
      {fault : FixtureFault}
      (order : fixture.vertices = before ++ vertex :: after)
      (placeable : Placeable fixture.layout before)
      (refused : vertex.Refused fixture.layout
        (before.map FixtureVertex.id) fault) :
      Refused fixture (.invalid fault)
  | edge
      {before after : List FixtureEdge}
      {edge : FixtureEdge}
      {error : FixtureError}
      (placeable : Placeable fixture.layout fixture.vertices)
      (order : fixture.edges = before ++ edge :: after)
      (storable : ∀ other ∈ before,
        other.Storable (fixture.vertices.map FixtureVertex.id))
      (refused : edge.Refused (fixture.vertices.map FixtureVertex.id) error) :
      Refused fixture error

variable {fixture : Fixture}

/-- A fixture is stored exactly if all of its declarations can be stored. -/
theorem exists_build_eq_ok_iff :
    (∃ graph, fixture.build = .ok graph) ↔ fixture.Storable := by
  constructor
  · rintro ⟨graph, built⟩
    exact (stored_of_build built).1
  · intro storable
    obtain ⟨placeable, edges⟩ := storable_iff.1 storable
    obtain ⟨placed, stores⟩ :=
      (checks_addVertex fixture.layout).exists_eq_ok_iff.2 placeable
    have places := (stored_of_addVertex stores).2.1
    obtain ⟨joined, joins⟩ :=
      (checks_addEdge placeable places).exists_eq_ok_iff.2 edges
    refine ⟨fixture.vertices.foldl StoredGraph.settleMarks joined, ?_⟩
    rw [build, stores]
    change (fixture.edges.foldlM StoredGraph.addEdge placed >>= _) = _
    rw [joins]
    rfl

/-- A fixture is refused for its first declaration that cannot be stored. -/
theorem build_eq_error_iff {error : FixtureError} :
    fixture.build = .error error ↔ fixture.Refused error := by
  have vertices := checks_addVertex fixture.layout
  rw [build, bind_eq_error_iff]
  constructor
  · rintro (fails | ⟨placed, stores, fails⟩)
    · obtain ⟨before, vertex, after, order, placeable, fault, refused, rfl⟩ :=
        vertices.eq_error_iff.1 fails
      exact .vertex order placeable refused
    · rcases bind_eq_error_iff.1 fails with fails | ⟨joined, -, settles⟩
      · have placeable := vertices.sound stores
        have edges := checks_addEdge placeable (stored_of_addVertex stores).2.1
        obtain ⟨before, edge, after, order, storable, refused⟩ :=
          edges.eq_error_iff.1 fails
        exact .edge placeable order storable refused
      · cases settles
  · intro refused
    cases refused with
    | vertex order placeable refused =>
        exact Or.inl (vertices.eq_error_iff.2
          ⟨_, _, _, order, placeable, _, refused, rfl⟩)
    | edge placeable order storable refused =>
        obtain ⟨placed, stores⟩ := vertices.exists_eq_ok_iff.2 placeable
        have edges := checks_addEdge placeable (stored_of_addVertex stores).2.1
        exact Or.inr ⟨placed, stores, bind_eq_error_iff.2 (Or.inl
          (edges.eq_error_iff.2 ⟨_, _, _, order, storable, refused⟩))⟩

/-- Storing a fixture has one of three ends. It succeeds exactly if the numbers of the
vertices are different, each has as many pieces as the layout allows and a hidden one has
one piece, and the edges run between declared vertices and have labels whose types fit.
Otherwise it tells the fault of the first vertex that cannot be placed next to those before
it, or if there is none the fault of the first edge that cannot be stored; only an edge
whose label is too large lets it overflow. What is modelled is the build whose sums are
checked for overflow, in which such an edge ends the call; one without the checks would
store the edge under a type that wrapped around. -/
theorem build_tells_first_fault (fixture : Fixture) :
    let declared := fixture.vertices.map FixtureVertex.id
    ((∃ graph, fixture.build = .ok graph) ↔
      declared.Nodup ∧
      (∀ vertex ∈ fixture.vertices,
        1 ≤ vertex.partitions.toNat ∧
        vertex.partitions.toNat ≤ 2 ^ min fixture.partitionWidth.toNat 16 ∧
        (vertex.hidden = true -> vertex.partitions.toNat = 1)) ∧
      ∀ edge ∈ fixture.edges,
        edge.source ∈ declared ∧ edge.target ∈ declared ∧
        edge.label.toNat + Relation.firstFreeType.toNat < UInt64.size) ∧
    (∀ error, fixture.build = .error error ↔ fixture.Refused error) ∧
    ((∀ edge ∈ fixture.edges,
        edge.label.toNat + Relation.firstFreeType.toNat < UInt64.size) ->
      fixture.build ≠ .error .labelOverflow) := by
  intro declared
  have count : fixture.layout.partitionCount =
      2 ^ min fixture.partitionWidth.toNat 16 := Nat.one_shiftLeft _
  refine ⟨?succeeds, fun error => build_eq_error_iff, ?overflows⟩
  case succeeds =>
    rw [exists_build_eq_ok_iff, storable_iff, ← count]
    constructor
    · rintro ⟨⟨distinct, placeable⟩, storable⟩
      refine ⟨distinct, fun vertex member => ?_, fun edge member => ?_⟩
      · obtain ⟨positive, bounded, whole⟩ := placeable vertex member
        exact ⟨positive, bounded, whole⟩
      · obtain ⟨source, target, label⟩ := storable edge member
        exact ⟨source, target, label⟩
    · rintro ⟨distinct, placeable, storable⟩
      refine ⟨⟨distinct, fun vertex member => ?_⟩, fun edge member => ?_⟩
      · obtain ⟨positive, bounded, whole⟩ := placeable vertex member
        exact ⟨positive, bounded, whole⟩
      · obtain ⟨source, target, label⟩ := storable edge member
        exact ⟨source, target, label⟩
  case overflows =>
    intro labels overflows
    cases build_eq_error_iff.1 overflows with
    | edge placeable order storable refused =>
        cases refused with
        | label source target large =>
            refine Nat.not_le.2 (labels _ ?_) large
            rw [order]
            exact List.mem_append_right _ List.mem_cons_self

/-- An edge whose label is too large, and behind it one to a vertex that is not
declared. -/
def mislabelled : Fixture :=
  ⟨4, [.plain 1], [⟨1, 1, 18446744073709551615⟩, ⟨1, 7, 0⟩]⟩

/-- The fault of an edge is not told if a label overflows before it. -/
theorem mislabelled_hides_undeclared_vertex :
    Placeable mislabelled.layout mislabelled.vertices ∧
      (1 ∈ mislabelled.vertices.map FixtureVertex.id ∧
        7 ∉ mislabelled.vertices.map FixtureVertex.id) ∧
      mislabelled.build = .error .labelOverflow := by
  have placeable : Placeable mislabelled.layout mislabelled.vertices := by
    refine ⟨by decide, fun vertex member => ?_⟩
    rw [List.mem_singleton.1 member]
    exact ⟨by decide, by decide, by decide⟩
  have order : mislabelled.edges =
      [] ++ ⟨1, 1, 18446744073709551615⟩ :: [⟨1, 7, 0⟩] := rfl
  refine ⟨placeable, by decide, build_eq_error_iff.2 ?_⟩
  refine .edge placeable order (fun edge member => ?_)
    (.label (by decide) (by decide) (by decide))
  cases member

end Fixture
end GraphSweep
