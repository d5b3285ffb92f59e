import GraphSweep.Proofs.GraphStore.Records
import GraphSweep.Proofs.Job.Coverage
import GraphSweep.Proofs.Job.Exactness

/-!
# Jobs over a snapshot

A job over a snapshot of a store runs its program for the vertices that are marked as
existing, whatever else the store holds and whatever has been written to it before. For
each of them it is handed what was written last in the columns that its queries ask
for.
-/

namespace GraphSweep

/-- A view has for a query what was written last to its vertex in the columns that the
query contains, in ascending order and as much of it as the query allows. -/
def View.Prefetches
    (view : View)
    (layout : IdLayout)
    (writes : List GraphStore.Write)
    (query : Slice) : Prop :=
  ∃ selected : List Entry,
    view.entries query = query.bound selected ∧
    (selected.Pairwise fun entry other =>
      Bytes.precedes entry.column other.column) ∧
    ∀ entry, entry ∈ selected ↔
      query.contains entry.column ∧
        Entry.latest? (GraphStore.written layout writes view.id)
          entry.column = some entry

namespace Job
namespace Opening

section Snapshot

variable
  {σ ρ : Type}
  {job : Job σ ρ}
  {launch : Launch}
  {store : GraphStore}

/-- All streams of a job over a snapshot are streams of the snapshot. -/
theorem sources_of_snapshot
    (opening : job.Opening (Transaction.begin store).context launch) :
    opening.primary = Transaction.streamOf store Slice.probe ∧
      ∀ source ∈ opening.primary :: opening.others,
        ∃ query, source = Transaction.streamOf store query := by
  have primary : opening.primary = Transaction.streamOf store Slice.probe :=
    (Except.ok.inj opening.opensProbe).symm
  refine ⟨primary, ?_⟩
  intro source member
  rcases List.mem_cons.1 member with rfl | other
  · exact ⟨Slice.probe, primary⟩
  · rw [← opening.asked_map_snd] at other
    obtain ⟨⟨query, _⟩, asked, rfl⟩ := List.mem_map.1 other
    have opens := (List.forall₂_iff_zip.1
      (ReadContext.openAll_opens opening.opensAll)).2 asked
    exact ⟨query, (Except.ok.inj opens).symm⟩

/-- The streams of a snapshot without faults deliver their vertices in order. -/
theorem ascend_of_snapshot
    (opening : job.Opening (Transaction.begin store).context launch)
    (keyed : store.Keyed)
    (faultless : store.faults = Faults.empty) :
    ∀ source ∈ opening.primary :: opening.others, source.Ascends := by
  intro source member
  obtain ⟨query, rfl⟩ := opening.sources_of_snapshot.2 source member
  exact Transaction.ascends_streamOf keyed faultless query

/-- The vertices that a job over a snapshot finds to exist are neither negative nor
hidden. -/
theorem shown_of_mem_live
    (opening : job.Opening (Transaction.begin store).context launch)
    (keyed : store.Keyed)
    (faultless : store.faults = Faults.empty)
    {id : VertexId}
    (living : id ∈ opening.live) :
    0 ≤ id ∧ VertexId.isHidden id = false := by
  rw [live, opening.sources_of_snapshot.1] at living
  obtain ⟨item, member, rfl⟩ := List.mem_map.1 living
  obtain ⟨natural, shown, -⟩ :=
    (Transaction.mem_delivered keyed faultless).1 (List.mem_filter.1 member).1
  exact ⟨natural, shown⟩

/-- What a view has for a query is what the query selects of the row of the vertex. -/
theorem entries_viewOf
    (opening : job.Opening (Transaction.begin store).context launch)
    (keyed : store.Keyed)
    (faultless : store.faults = Faults.empty)
    {id : VertexId}
    (natural : 0 ≤ id)
    (shown : VertexId.isHidden id = false)
    {query : Slice}
    (registered : query ∈ registerQueries job.queries) :
    (opening.viewOf id).entries query = query.select (store.row id) := by
  obtain ⟨source, -, opens, asked⟩ := opening.exists_asked registered
  have stream : source = Transaction.streamOf store query :=
    (Except.ok.inj opens).symm
  rw [View.entries, opening.lookup_viewOf id asked, stream]
  by_cases selected : query.select (store.row id) = []
  · have missing : (Transaction.streamOf store query).entriesOf? id = none := by
      apply Item.entriesOf?_eq_none
      intro item member same
      have found := (Transaction.mem_delivered keyed faultless).1 member
      rw [same] at found
      exact found.2.2.1 selected
    rw [missing, selected]
    rfl
  · have member : (⟨id, query.select (store.row id)⟩ : Item) ∈
        (Transaction.streamOf store query).delivered :=
      (Transaction.mem_delivered keyed faultless).2
        ⟨natural, shown, selected, rfl⟩
    have found : (Transaction.streamOf store query).entriesOf? id =
        some (query.select (store.row id)) :=
      Item.entriesOf?_of_mem
        (Transaction.ascends_streamOf keyed faultless query) member
    rw [found]
    rfl

end Snapshot

section Writes

variable
  {σ ρ : Type}
  {job : Job σ ρ}
  {launch : Launch}
  {layout : IdLayout}
  {writes : List GraphStore.Write}

/-- Nothing is in the way of a job over a snapshot without negative vertices. -/
theorem failures_of_snapshot
    (opening : job.Opening
      (Transaction.begin (GraphStore.ofWrites layout writes)).context launch)
    (natural : ∀ write ∈ writes, write.Natural) :
    opening.failures = [] ∧
      ∀ source ∈ opening.primary :: opening.others, source.Ascends := by
  have named := GraphStore.named_ofWrites layout natural
  have faultless := (GraphStore.ofWrites_frame layout writes).2
  obtain ⟨primary, sources⟩ := opening.sources_of_snapshot
  refine ⟨opening.failures_eq_nil ?_ ?_,
    opening.ascend_of_snapshot named.keyed faultless⟩
  · intro source member
    obtain ⟨query, rfl⟩ := sources source member
    exact Transaction.fault?_streamOf named faultless query
  · intro item member
    rw [primary] at member
    obtain ⟨-, -, selected, entries⟩ :=
      (Transaction.mem_delivered named.keyed faultless).1 member
    exact GraphStore.readable_probe entries selected

/-- No reader of a snapshot pauses. -/
theorem awake_of_snapshot
    (opening : job.Opening
      (Transaction.begin (GraphStore.ofWrites layout writes)).context launch)
    (source : KeyStream)
    (member : source ∈ opening.primary :: opening.others) :
    source.stall = none := by
  obtain ⟨query, rfl⟩ := opening.sources_of_snapshot.2 source member
  rw [Transaction.streamOf_eq (GraphStore.ofWrites_frame layout writes).2]

/-- A job over a snapshot without negative vertices is bound to dispatch those that it
finds to exist. -/
theorem foreseen_of_snapshot
    [Mergeable σ]
    (opening : job.Opening
      (Transaction.begin (GraphStore.ofWrites layout writes)).context launch)
    (natural : ∀ write ∈ writes, write.Natural) :
    ∃ final, opening.foreseen = .ok final ∧
      final.views.map View.id = opening.live := by
  obtain ⟨failures, ascend⟩ := opening.failures_of_snapshot natural
  obtain ⟨joins, views⟩ :=
    opening.joined_of_no_failures layout ascend failures
  have foreseen := opening.foreseen_eq layout
  rw [joins, Except.bind, released_eq] at foreseen
  refine ⟨_, foreseen, ?_⟩
  rw [opening.views_of_foreseen layout foreseen]
  exact (congrArg (List.map View.id) views).trans (opening.map_id_viewOf _)

/-- The vertices of a snapshot that a job finds to exist are those that are marked and
not hidden. -/
theorem mem_live_of_snapshot
    (opening : job.Opening
      (Transaction.begin (GraphStore.ofWrites layout writes)).context launch)
    (admissible : ∀ write ∈ writes, write.Admissible)
    (id : VertexId) :
    id ∈ opening.live ↔
      VertexId.isHidden id = false ∧ GraphStore.Marked layout writes id := by
  have named := GraphStore.named_ofWrites layout
    fun write member => (admissible write member).natural
  have faultless := (GraphStore.ofWrites_frame layout writes).2
  rw [live, opening.sources_of_snapshot.1, List.mem_map]
  constructor
  · rintro ⟨item, member, rfl⟩
    obtain ⟨among, living⟩ := List.mem_filter.1 member
    obtain ⟨-, shown, selected, entries⟩ :=
      (Transaction.mem_delivered named.keyed faultless).1 among
    exact ⟨shown,
      (GraphStore.probe_tells admissible entries selected).1 living⟩
  · rintro ⟨shown, marked⟩
    obtain ⟨item, rfl, entries⟩ : ∃ item : Item, item.id = id ∧
        item.entries = Slice.probe.select
          (GraphStore.row (GraphStore.ofWrites layout writes) id) :=
      ⟨⟨id, _⟩, rfl, rfl⟩
    have selected : Slice.probe.select
        (GraphStore.row (GraphStore.ofWrites layout writes) item.id) ≠ [] := by
      rw [GraphStore.probe_of_marked admissible marked]
      exact List.cons_ne_nil _ _
    have among := (Transaction.mem_delivered named.keyed faultless).2
      ⟨named.natural_of_select selected, shown, selected, entries⟩
    exact ⟨item, List.mem_filter.2 ⟨among,
      (GraphStore.probe_tells admissible entries selected).2 marked⟩, rfl⟩

/-- The view of a marked vertex has what was written to it last. -/
theorem prefetches_viewOf
    (opening : job.Opening
      (Transaction.begin (GraphStore.ofWrites layout writes)).context launch)
    (admissible : ∀ write ∈ writes, write.Admissible)
    {id : VertexId}
    (shown : VertexId.isHidden id = false)
    (marked : GraphStore.Marked layout writes id)
    {query : Slice}
    (registered : query ∈ registerQueries job.queries) :
    (opening.viewOf id).Prefetches layout writes query := by
  have named := GraphStore.named_ofWrites layout
    fun write member => (admissible write member).natural
  have selected : Slice.probe.select
      (GraphStore.row (GraphStore.ofWrites layout writes) id) ≠ [] := by
    rw [GraphStore.probe_of_marked admissible marked]
    exact List.cons_ne_nil _ _
  have natural : 0 ≤ id := named.natural_of_select selected
  have entries := opening.entries_viewOf named.keyed
    (GraphStore.ofWrites_frame layout writes).2 natural shown registered
  rw [Slice.select_eq] at entries
  refine ⟨_, entries, Slice.ascending_range _ _, ?_⟩
  intro entry
  rw [Slice.mem_range, GraphStore.find?_row_of_marked admissible marked]
  refine and_congr_right fun _ => ?_
  constructor
  · intro found
    obtain ⟨last, latest, value⟩ := Option.map_eq_some_iff.1 found
    have column := (Entry.of_latest?_eq_some latest).2
    have same : last = entry := by
      obtain ⟨lastColumn, lastValue⟩ := last
      obtain ⟨entryColumn, entryValue⟩ := entry
      cases column
      cases value
      rfl
    exact same ▸ latest
  · intro latest
    have latest : Entry.latest? (GraphStore.written layout writes id)
        entry.column = some entry := latest
    rw [latest]
    rfl

/-- Liveness and prefetch. Whatever has been written to a store, a job over a snapshot
of it runs its program for no vertex but those that are marked as existing and not
hidden, for none of them twice, with the state that the vertex had when the job began and
with what was written last to the vertex in the columns that its queries contain. As long
as no wait runs out it does so for all of them, and on its clock none does if its runs do
not take longer than it waits. -/
theorem runs_for_marked_vertices
    [Mergeable σ]
    (opening : job.Opening
      (Transaction.begin (GraphStore.ofWrites layout writes)).context launch)
    (states : IdLayout)
    (admissible : ∀ write ∈ writes, write.Admissible) :
    (∃ outcome, opening.Yields states outcome) ∧
    (opening.Brisk states ->
      opening.Yields states (job.execute states
        (Transaction.begin (GraphStore.ofWrites layout writes)).context
        launch)) ∧
    (∀ outcome, opening.Yields states outcome ->
      (outcome.visited.map fun visited => visited.view.id).Nodup ∧
      (∀ id, id ∈ outcome.visited.map (fun visited => visited.view.id) ↔
        VertexId.isHidden id = false ∧ GraphStore.Marked layout writes id) ∧
      ∀ visited ∈ outcome.visited,
        visited.visit = job.program visited.view
          ((job.startStore states).own opening.initializer visited.view.id) ∧
        ∀ query ∈ registerQueries job.queries,
          visited.view.Prefetches layout writes query) ∧
    ∀ submitted outcome, opening.Runs states submitted outcome ->
      (outcome.visited.map fun visited => visited.view.id).Nodup ∧
      (∀ id, id ∈ outcome.visited.map (fun visited => visited.view.id) ->
        VertexId.isHidden id = false ∧ GraphStore.Marked layout writes id) ∧
      ∀ visited ∈ outcome.visited,
        visited.visit = job.program visited.view
          ((job.startStore states).own opening.initializer visited.view.id) ∧
        ∀ query ∈ registerQueries job.queries,
          visited.view.Prefetches layout writes query := by
  obtain ⟨failures, ascend⟩ := opening.failures_of_snapshot
    fun write member => (admissible write member).natural
  have distinct := opening.nodup_live (ascend _ List.mem_cons_self)
  have fetched (id : VertexId)
      (living : id ∈ opening.live)
      (query : Slice)
      (registered : query ∈ registerQueries job.queries) :
      (opening.viewOf id).Prefetches layout writes query := by
    obtain ⟨shown, marked⟩ :=
      (opening.mem_live_of_snapshot admissible id).1 living
    exact opening.prefetches_viewOf admissible shown marked registered
  -- Whatever a job makes of the runs for the vertices that exist is made for these.
  have bounded (visited : List (Visited σ ρ))
      (made : visited.Subperm (opening.livingRuns states)) :
      (visited.map fun visited => visited.view.id).Nodup ∧
      (∀ id, id ∈ visited.map (fun visited => visited.view.id) ->
        VertexId.isHidden id = false ∧ GraphStore.Marked layout writes id) ∧
      ∀ run ∈ visited,
        run.visit = job.program run.view
          ((job.startStore states).own opening.initializer run.view.id) ∧
        ∀ query ∈ registerQueries job.queries,
          run.view.Prefetches layout writes query := by
    obtain ⟨some, perm, among⟩ := made
    have named := perm.map fun run => run.view.id
    have within := among.map fun run => run.view.id
    rw [opening.map_id_livingRuns] at within
    refine ⟨named.nodup_iff.1 (within.nodup distinct), ?_, ?_⟩
    · intro id member
      exact (opening.mem_live_of_snapshot admissible id).1
        (within.subset (named.mem_iff.2 member))
    · intro run member
      have made := among.subset (perm.mem_iff.2 member)
      obtain ⟨view, viewed, rfl⟩ := List.mem_map.1 made
      obtain ⟨id, living, rfl⟩ := List.mem_map.1 viewed
      exact ⟨rfl, fetched id living⟩
  refine ⟨opening.exists_yields states, yields_of_brisk, ?_, ?_⟩
  · intro outcome yields
    have made := yields.visited_perm ascend failures rfl
    obtain ⟨once, -, runs⟩ := bounded outcome.visited made.subperm
    have named := made.map fun run => run.view.id
    rw [opening.map_id_livingRuns] at named
    exact ⟨once, fun id => named.mem_iff.trans
      (opening.mem_live_of_snapshot admissible id), runs⟩
  · intro submitted outcome runs
    exact bounded outcome.visited (runs.visited_subperm ascend failures rfl)

end Writes

end Opening
end Job

namespace TwoStreams

/-- A vertex whose property is written twice, a partitioned vertex with an edge to it, a
vertex that loses its mark, one that never had it, and a hidden one. -/
def history : List GraphStore.Write :=
  [ .addVertex 4, .putProperty 4 64 [7], .addPartitioned 2 2,
    .addEdge 65 4 129, .addVertex 8, .putProperty 8 64 [1], .unmark 8,
    .putProperty 12 64 [9], .putProperty 4 64 [3], .addVertex 6 ]

/-- The job over a snapshot of what is written. -/
def snapshot : (job .fail).Opening
    (Transaction.begin
      (GraphStore.ofWrites IdLayout.standard history)).context
    Launch.ordinary where
  initializer := .state 0
  primary := Transaction.streamOf
    (GraphStore.ofWrites IdLayout.standard history) Slice.probe
  others := [Transaction.streamOf
    (GraphStore.ofWrites IdLayout.standard history)
    (Slice.ofType Relation.firstFreeType)]
  accepted := rfl
  initialized := rfl
  opensProbe := rfl
  opensAll := rfl
  queueFits := usual.queueFits
  workersFit := usual.workersFit
  kept := Launch.aborted_ordinary

theorem runs_for_marked_vertices_of_history :
    (∀ write ∈ history, write.Admissible) ∧
    snapshot.Yields IdLayout.standard ((job .fail).execute IdLayout.standard
      (Transaction.begin
        (GraphStore.ofWrites IdLayout.standard history)).context
      Launch.ordinary) ∧
    ∀ outcome, snapshot.Yields IdLayout.standard outcome ->
      (outcome.visited.map fun visited => visited.view.id).Nodup ∧
      (∀ id ∈ ([4, 129, 133] : List VertexId),
        id ∈ outcome.visited.map fun visited => visited.view.id) ∧
      ∀ id ∈ ([6, 8, 12] : List VertexId),
        id ∉ outcome.visited.map fun visited => visited.view.id := by
  have admissible : ∀ write ∈ history, write.Admissible := by
    decide +kernel
  obtain ⟨-, clock, runs, -⟩ := Job.Opening.runs_for_marked_vertices snapshot
    IdLayout.standard admissible
  have brisk : snapshot.Brisk IdLayout.standard := by
    decide +kernel
  refine ⟨admissible, clock brisk, ?_⟩
  intro outcome here
  obtain ⟨once, ids, -⟩ := runs outcome here
  have marks (id : VertexId) :=
    @GraphStore.find?_marker_ofWrites IdLayout.standard history id
      Relation.markerEntry.value admissible
  refine ⟨once, ?_, ?_⟩
  · intro id member
    have held : List.all [4, 129, 133] (fun id =>
        VertexId.isHidden id = false ∧
        (GraphStore.row (GraphStore.ofWrites IdLayout.standard history)
          id).find? (Relation.columnOfProperty Relation.markerType) =
            some Relation.markerEntry.value) = true := by
      decide +kernel
    obtain ⟨shown, marked⟩ :=
      of_decide_eq_true (List.all_eq_true.1 held id member)
    exact (ids id).2 ⟨shown, ((marks id).1 marked).2⟩
  · intro id member visited
    have missing : List.all [6, 8, 12] (fun id =>
        VertexId.isHidden id = true ∨
        (GraphStore.row (GraphStore.ofWrites IdLayout.standard history)
          id).find? (Relation.columnOfProperty Relation.markerType) =
            none) = true := by
      decide +kernel
    obtain ⟨shown, marked⟩ := (ids id).1 visited
    rcases of_decide_eq_true (List.all_eq_true.1 missing id member)
      with hidden | unmarked
    · rw [hidden] at shown
      cases shown
    · rw [(marks id).2 ⟨rfl, marked⟩] at unmarked
      cases unmarked

end TwoStreams
end GraphSweep
