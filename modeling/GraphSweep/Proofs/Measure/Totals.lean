import GraphSweep.Proofs.Job.Punctual
import GraphSweep.Proofs.Measure.Report
import GraphSweep.Proofs.Measure.Shares

/-!
# What a measure reports

The report of a measure over a stored fixture has a value for each vertex that is
neither deleted nor hidden, and for no other: the number of its edges of the label, or the
sum of the ids at their other ends. However the vertices are partitioned, every edge is
counted once at each of its ends.
-/

namespace GraphSweep
namespace Measure

/-- Values by logical id are those of a measure: one for each live vertex of a fixture,
and none for any other. -/
structure Reports
    (measure : Measure)
    (fixture : Fixture)
    (label : UInt64)
    (values : List (UInt64 × Option UInt64)) : Prop where
  ascending : Ascending values
  ids : ∀ id, id ∈ values.map Prod.fst ↔
    ∃ vertex, fixture.Live vertex ∧ vertex.id = id
  totals : ∀ id value, (id, value) ∈ values ->
    ∃ number : UInt64, value = some number ∧
      number.toNat = measure.total fixture label id

section Snapshot

variable
  {measure : Measure}
  {fixture : Fixture}
  {label : UInt64}
  {config : JobConfig}

namespace Underway

variable {launch : Launch}

/-- A store that reads like the one that the sequential run leaves is reported as the
measure says. -/
theorem reports_of_same
    (opening : measure.Underway fixture label config launch)
    (applies : measure.Applies fixture label)
    {graph : StoredGraph}
    (shape : graph.store.layout = fixture.layout)
    {store : StateStore UInt64}
    (same : store.Same (opening.sequential fixture.layout).store) :
    measure.Reports fixture label (byVertex graph store) := by
  have entries (id : VertexId) (value : Option UInt64) :
      store.entry? id = some value ↔ ∃ vertex, fixture.Live vertex ∧
        vertex.piece fixture.layout 0 = id ∧
        value =
          some (UInt64.ofNat (measure.total fixture label vertex.id)) := by
    rw [same.entry, opening.entry?_sequential_eq_some applies]
  have vertexOf {vertex : FixtureVertex} (live : fixture.Live vertex) :
      graph.vertexOf (vertex.piece fixture.layout 0) = vertex.id := by
    rw [StoredGraph.vertexOf, shape]
    exact FixtureVertex.count_piece (applies.fits vertex live.declared) 0
  have keys (id : VertexId) (member : id ∈ store.entries.map Prod.fst) :
      ∃ vertex, fixture.Live vertex ∧
        vertex.piece fixture.layout 0 = id := by
    obtain ⟨value, held⟩ := Option.isSome_iff_exists.1
      ((store.entry?_isSome_iff id).2 member)
    obtain ⟨vertex, live, place, -⟩ := (entries id value).1 held
    exact ⟨vertex, live, place⟩
  have apart : ∀ one ∈ store.entries.map Prod.fst,
      ∀ other ∈ store.entries.map Prod.fst,
        graph.vertexOf one = graph.vertexOf other -> one = other := by
    intro one first other second equal
    obtain ⟨vertex, live, rfl⟩ := keys one first
    obtain ⟨neighbor, liveNeighbor, rfl⟩ := keys other second
    rw [vertexOf live, vertexOf liveNeighbor] at equal
    rw [List.inj_on_of_nodup_map applies.storable.distinct live.declared
      liveNeighbor.declared equal]
  obtain ⟨ascending, members⟩ := byVertex_eq apart
  refine ⟨ascending, fun id => ?_, fun id value member => ?_⟩
  · constructor
    · intro member
      obtain ⟨⟨_, value⟩, listed, rfl⟩ := List.mem_map.1 member
      obtain ⟨place, named, held⟩ := (members _ value).1 listed
      obtain ⟨vertex, live, rfl, -⟩ := (entries place value).1 held
      exact ⟨vertex, live, (vertexOf live).symm.trans named⟩
    · rintro ⟨vertex, live, rfl⟩
      exact List.mem_map.2 ⟨(vertex.id, _), (members vertex.id _).2
        ⟨_, vertexOf live, (entries _ _).2 ⟨vertex, live, rfl, rfl⟩⟩, rfl⟩
  · obtain ⟨place, rfl, held⟩ := (members id value).1 member
    obtain ⟨vertex, live, rfl, rfl⟩ := (entries place value).1 held
    rw [vertexOf live]
    exact ⟨_, rfl,
      UInt64.toNat_ofNat_of_lt' (applies.bounded vertex live)⟩

/-- However its parts interleave, the job succeeds with what the measure says. -/
theorem reports_of_yields
    (opening : measure.Underway fixture label config launch)
    (applies : measure.Applies fixture label)
    {graph : StoredGraph}
    (shape : graph.store.layout = fixture.layout)
    {outcome : Outcome UInt64 Unit}
    (yields : Job.Opening.Yields opening fixture.layout outcome) :
    (∃ tally, outcome.result = .ok tally) ∧
      measure.Reports fixture label (byVertex graph outcome.store) := by
  have free := opening.mergesFreely applies
  obtain ⟨joins, -⟩ := opening.joined_views applies
  have reference :=
    (opening.sequential_of_ok fixture.layout free joins rfl).1
  have agrees := yields.agrees Mergeable.commutes_uint64 free
  obtain ⟨tally, succeeded⟩ :=
    Outcome.exists_ok_of_same agrees.result.symm reference
  exact ⟨⟨tally, succeeded⟩,
    opening.reports_of_same applies shape (agrees.store tally succeeded)⟩

/-- On the clock the job takes no time. -/
theorem yields_execute
    (opening : measure.Underway fixture label config launch) :
    Job.Opening.Yields opening fixture.layout
      ((measure.job fixture.layout (Relation.firstFreeType + label)
        config).execute fixture.layout (Transaction.begin
          (GraphStore.ofWrites fixture.layout fixture.writes)).context
        launch) := by
  have brisk : Job.Opening.Brisk opening fixture.layout :=
    opening.brisk_of_instant fixture.layout
      (Job.Opening.awake_of_snapshot opening)
      fun view own => millis_program _ _ view own
  exact Job.Opening.yields_of_brisk brisk

end Underway

/-- The job of a measure gets under way, unless it is to have longer queues or more
workers than it can have. -/
def underway
    (measure : Measure)
    (fixture : Fixture)
    (label : UInt64)
    {config : JobConfig}
    (accepted : config.fault? = none)
    (queueFits : config.queueLength.toNat ≤ JobError.longestQueue)
    (workersFit : config.workers.toNat ≤ JobError.mostWorkers) :
    measure.Underway fixture label config .ordinary where
  initializer := .state 0
  primary := Transaction.streamOf
    (GraphStore.ofWrites fixture.layout fixture.writes) Slice.probe
  others := [Transaction.streamOf
    (GraphStore.ofWrites fixture.layout fixture.writes)
    (Slice.ofType (Relation.firstFreeType + label))]
  accepted := by
    rw [Job.refusal?, job, accepted]
    rfl
  initialized := rfl
  opensProbe := rfl
  opensAll := by
    rw [job, registerQueries_ofType]
    rfl
  queueFits := queueFits
  workersFit := workersFit
  kept := Launch.aborted_ordinary

end Snapshot
section Compute

variable
  {graph : StoredGraph}
  {label : UInt64}
  {config : JobConfig}

/-- The job of a measure that is to have longer queues or more workers than it can have
crashes where it is started, though its settings have no fault. -/
theorem result_of_oversize
    (measure : Measure)
    (store : GraphStore)
    (layout : IdLayout)
    (type : UInt64)
    (accepted : config.fault? = none) :
    let result := ((measure.job layout type config).execute layout
      (Transaction.begin store).context .ordinary).result
    (JobError.longestQueue < config.queueLength.toNat ->
      result = .error .queueTooLong) ∧
    (config.queueLength.toNat ≤ JobError.longestQueue ->
      JobError.mostWorkers < config.workers.toNat ->
      result = .error .tooManyWorkers) := by
  have kept : (measure.job layout type config).refusal? .ordinary = none := by
    rw [Job.refusal?, job, accepted]
    rfl
  have opens : (measure.job layout type config).openFault?
      (Transaction.begin store).context = none := by
    have probes : (Transaction.begin store).context.openStream Slice.probe =
        .ok (Transaction.streamOf store Slice.probe) := rfl
    rw [Job.openFault?, probes, job, registerQueries_ofType]
    rfl
  exact Job.result_of_oversize layout kept opens

/-- A measure whose job fails is not computed. -/
theorem compute_of_error
    {measure : Measure}
    {error : JobError}
    (room : label.toNat + Relation.firstFreeType.toNat < UInt64.size)
    (failed : ((measure.job graph.store.layout
      (Relation.firstFreeType + label) config).execute graph.store.layout
        (Transaction.begin graph.store).context .ordinary).result =
      .error error) :
    measure.compute graph label config = .error (.job error) := by
  rw [compute, if_pos room]
  dsimp only
  rw [failed]

/-- The job of a measure over a stored fixture gets under way where it is not to be larger
than it can be, and then it succeeds with what the measure says. -/
theorem reports_of_stored
    {measure : Measure}
    {fixture : Fixture}
    (applies : measure.Applies fixture label)
    (stored : graph.store =
      GraphStore.ofWrites fixture.layout fixture.writes)
    (accepted : config.fault? = none) :
    let job := measure.job graph.store.layout (Relation.firstFreeType + label)
      config
    let context := (Transaction.begin graph.store).context
    (config.queueLength.toNat ≤ JobError.longestQueue ->
      config.workers.toNat ≤ JobError.mostWorkers ->
      Nonempty (job.Opening context .ordinary)) ∧
    ∀ opening : job.Opening context .ordinary,
      opening.Yields graph.store.layout
        (job.execute graph.store.layout context .ordinary) ∧
      ∀ outcome, opening.Yields graph.store.layout outcome ->
        (∃ tally, outcome.result = .ok tally) ∧
          measure.Reports fixture label (byVertex graph outcome.store) := by
  have shape : graph.store.layout = fixture.layout := by
    rw [stored]
    exact (GraphStore.ofWrites_frame fixture.layout fixture.writes).1
  rw [shape, stored]
  exact ⟨fun queueFits workersFit =>
      ⟨underway measure fixture label accepted queueFits workersFit⟩,
    fun opening => ⟨Underway.yields_execute opening,
      fun outcome yields =>
        Underway.reports_of_yields opening applies shape yields⟩⟩

/-- Measures are right from end to end. Take a fixture that can be stored, whose ids fit
next to as many partitions as it asks for, a label whose type fits, and settings without
a fault; and where ids are summed up, let no sum exceed a word. Then the measure is
computed, with a value for each vertex that is neither deleted nor hidden and for no other,
that of a vertex being summed up over the targets of the edges that leave it and over
the sources of those that come to it, each counted once: exactly if the queues are not to
be longer, and the workers not to be more, than they can be. However the parts of the job
interleave, it comes to the same values. -/
theorem computes_totals
    (measure : Measure)
    (fixture : Fixture)
    (graph : StoredGraph)
    (label : UInt64)
    (config : JobConfig)
    (built : fixture.build = .ok graph)
    (small : ∀ vertex ∈ fixture.vertices,
      vertex.id.toNat < 2 ^ (61 - min fixture.partitionWidth.toNat 16))
    (room : label.toNat + Relation.firstFreeType.toNat < UInt64.size)
    (accepted : config.fault? = none)
    (sums : measure = .neighborSum -> ∀ vertex, fixture.Live vertex ->
      measure.total fixture label vertex.id < UInt64.size) :
    let job := measure.job graph.store.layout (Relation.firstFreeType + label)
      config
    let context := (Transaction.begin graph.store).context
    let feasible := config.queueLength.toNat ≤ JobError.longestQueue ∧
      config.workers.toNat ≤ JobError.mostWorkers
    ((∃ report, measure.compute graph label config = .ok report ∧
        report.measure = measure ∧
        measure.Reports fixture label report.states) ↔ feasible) ∧
    (Nonempty (job.Opening context .ordinary) ↔ feasible) ∧
    ∀ opening : job.Opening context .ordinary,
      (∃ outcome, opening.Yields graph.store.layout outcome) ∧
      ∀ outcome, opening.Yields graph.store.layout outcome ->
        (∃ tally, outcome.result = .ok tally) ∧
          measure.Reports fixture label (byVertex graph outcome.store) := by
  intro job context feasible
  obtain ⟨storable, stored⟩ := Fixture.stored_of_build built
  have shape : graph.store.layout = fixture.layout := by
    rw [stored]
    exact (GraphStore.ofWrites_frame fixture.layout fixture.writes).1
  have fits : fixture.Fits := by
    intro vertex declared
    rw [IdLayout.countLimit, Nat.one_shiftLeft]
    exact small vertex declared
  have applies : measure.Applies fixture label := by
    refine ⟨storable, fits, room, ?_⟩
    intro vertex live
    cases measure with
    | degree => exact total_degree_lt storable fits vertex.id
    | neighborSum => exact sums rfl vertex live
  obtain ⟨opens, reports⟩ := reports_of_stored applies stored accepted
  obtain ⟨long, many⟩ := result_of_oversize measure graph.store
    graph.store.layout (Relation.firstFreeType + label) accepted
  refine ⟨⟨?_, ?_⟩, ⟨?_, fun possible => opens possible.1 possible.2⟩,
    fun opening => ⟨opening.exists_yields _, (reports opening).2⟩⟩
  · rintro ⟨report, computed, -⟩
    by_cases queueFits : config.queueLength.toNat ≤ JobError.longestQueue
    · by_cases workersFit : config.workers.toNat ≤ JobError.mostWorkers
      · exact ⟨queueFits, workersFit⟩
      · rw [compute_of_error room
          (many queueFits (Nat.not_le.1 workersFit))] at computed
        cases computed
    · rw [compute_of_error room (long (Nat.not_le.1 queueFits))] at computed
      cases computed
  · rintro ⟨queueFits, workersFit⟩
    obtain ⟨opening⟩ := opens queueFits workersFit
    obtain ⟨yields, outcomes⟩ := reports opening
    obtain ⟨⟨tally, succeeded⟩, values⟩ := outcomes _ yields
    refine ⟨⟨measure, tally, _⟩, ?_, rfl, values⟩
    rw [compute, if_pos room]
    dsimp only
    rw [succeeded]
    rfl
  · rintro ⟨opening⟩
    exact ⟨opening.queueFits, opening.workersFit⟩

end Compute

/-! ## A small fixture -/

/-- A plain vertex, a deleted one, a hidden one and one in two pieces, with an edge that
is declared twice, a loop, edges at the deleted and the hidden vertex, and an edge of
another label. -/
def sample : Fixture where
  partitionWidth := 4
  vertices := [⟨1, false, false, 1⟩, ⟨2, true, false, 1⟩,
    ⟨3, false, true, 1⟩, ⟨50, false, false, 2⟩]
  edges := [⟨1, 50, 0⟩, ⟨1, 50, 0⟩, ⟨50, 50, 0⟩, ⟨2, 50, 0⟩, ⟨50, 3, 0⟩,
    ⟨50, 1, 7⟩]

theorem computes_totals_of_sample :
    ∃ graph report, sample.build = .ok graph ∧
      neighborSum.compute graph 0 ⟨2, 1000, 10, 60000, .fail⟩ = .ok report ∧
      (1 ∈ report.states.map Prod.fst ∧ 2 ∉ report.states.map Prod.fst ∧
        3 ∉ report.states.map Prod.fst) ∧
      ∃ number : UInt64, (50, some number) ∈ report.states ∧
        number.toNat = (50 + 3) + (1 + 50 + 2) := by
  obtain ⟨graph, built⟩ : ∃ graph, sample.build = .ok graph :=
    Fixture.exists_graph (by decide +kernel)
  have bounded : ∀ vertex ∈ sample.vertices,
      neighborSum.total sample 0 vertex.id < UInt64.size := by
    decide +kernel
  obtain ⟨computes, -, -⟩ := computes_totals .neighborSum sample graph 0
    ⟨2, 1000, 10, 60000, .fail⟩ built (by decide +kernel) (by decide)
    (by decide) fun _ vertex live => bounded vertex live.declared
  obtain ⟨report, computed, -, reports⟩ := computes.2
    ⟨by decide, by decide⟩
  have live (vertex : FixtureVertex)
      (declared : vertex ∈ sample.vertices)
      (present : vertex.deleted = false ∧ vertex.hidden = false) :
      vertex.id ∈ report.states.map Prod.fst :=
    (reports.ids vertex.id).2
      ⟨vertex, ⟨declared, present.1, present.2⟩, rfl⟩
  have dead (id : UInt64)
      (absent : ∀ vertex ∈ sample.vertices, vertex.id = id ->
        vertex.deleted = true ∨ vertex.hidden = true) :
      id ∉ report.states.map Prod.fst := by
    intro member
    obtain ⟨vertex, here, same⟩ := (reports.ids id).1 member
    rcases absent vertex here.declared same with deleted | hidden
    · rw [here.kept] at deleted
      cases deleted
    · rw [here.shown] at hidden
      cases hidden
  refine ⟨graph, report, built, computed,
    ⟨live ⟨1, false, false, 1⟩ (by decide) (by decide), dead 2 (by decide),
      dead 3 (by decide)⟩, ?_⟩
  obtain ⟨⟨_, value⟩, member, rfl⟩ :=
    List.mem_map.1 (live ⟨50, false, false, 2⟩ (by decide) (by decide))
  obtain ⟨number, rfl, total⟩ := reports.totals 50 value member
  refine ⟨number, member, total.trans ?_⟩
  decide +kernel

/-- A single vertex. -/
def lone : Fixture := ⟨4, [.plain 1], []⟩

/-- Settings without a fault that ask for a queue one longer than a queue can be. -/
def longQueue : JobConfig := ⟨2, 2305843009213693952, 10, 60000, .fail⟩

theorem accepted_settings_crash_on_lone :
    ∃ graph, lone.build = .ok graph ∧
      (∀ vertex ∈ lone.vertices,
        vertex.id.toNat < 2 ^ (61 - min lone.partitionWidth.toNat 16)) ∧
      longQueue.fault? = none ∧
      degree.compute graph 0 longQueue = .error (.job .queueTooLong) ∧
      ¬∃ report, degree.compute graph 0 longQueue = .ok report := by
  obtain ⟨graph, built⟩ : ∃ graph, lone.build = .ok graph :=
    Fixture.exists_graph (by decide +kernel)
  have accepted : longQueue.fault? = none := by decide
  have crashes : degree.compute graph 0 longQueue =
      .error (.job .queueTooLong) :=
    compute_of_error (by decide) ((result_of_oversize degree graph.store
      graph.store.layout (Relation.firstFreeType + 0) accepted).1 (by decide))
  refine ⟨graph, built, by decide +kernel, accepted, crashes, ?_⟩
  rintro ⟨report, computed⟩
  rw [crashes] at computed
  cases computed

end Measure
end GraphSweep
