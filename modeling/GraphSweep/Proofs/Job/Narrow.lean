import GraphSweep.Proofs.Job.Conservation
import GraphSweep.Proofs.Job.Snapshot

/-!
# Jobs whose queries lie in the range of the probe

A data stream names the vertices of which its query selects something. If the query lies
in the range of the probe then the probe selects something of them too, so that the
first stream names them as well and no item of the data stream is left over. This holds
whatever is stored and however many entries a query allows; only queries that reach
beyond the probe can have orphans.
-/

namespace GraphSweep

namespace Slice

/-- A query starts and stops in the range of another. -/
def LiesIn (query outer : Slice) : Prop :=
  Bytes.precedes query.start outer.start = false ∧
    Bytes.precedes outer.stop query.stop = false

instance (query outer : Slice) : Decidable (query.LiesIn outer) :=
  inferInstanceAs (Decidable (_ ∧ _))

variable {query outer : Slice}

/-- A query contains no column that is out of a range it lies in. -/
theorem LiesIn.contains
    {column : Bytes}
    (inside : query.LiesIn outer)
    (contained : query.contains column = true) :
    outer.contains column = true := by
  rw [Slice.contains, Bool.and_eq_true, Bool.not_eq_true'] at contained ⊢
  refine ⟨?_, ?_⟩
  · rw [Bool.eq_false_iff]
    intro before
    rw [Bytes.precedes_of_precedes_of_not_precedes before inside.1] at contained
    exact Bool.noConfusion contained.1
  · exact Bytes.precedes_of_precedes_of_not_precedes contained.2 inside.2

/-- The probe selects something of a row exactly if the row has a column in its
range. -/
theorem probe_select_ne_nil {row : Row} :
    probe.select row ≠ [] ↔ row.keys.any probe.contains = true := by
  have first : probe.select row = (probe.range row).take 1 := select_eq probe row
  rw [first, ne_eq, List.take_eq_nil_iff, or_iff_right Nat.one_ne_zero, range,
    List.map_eq_nil_iff, List.filter_eq_nil_iff, ByteMap.keys, List.any_map,
    List.any_eq_true]
  simp only [not_forall, not_not, exists_prop]
  rfl

/-- Where a query that lies in the range of the probe selects something, so does the
probe. -/
theorem LiesIn.probe_select_ne_nil
    {row : Row}
    (inside : query.LiesIn probe)
    (selected : query.select row ≠ []) :
    probe.select row ≠ [] := by
  obtain ⟨entry, member⟩ := List.exists_mem_of_ne_nil _ selected
  rw [select_eq] at member
  obtain ⟨contained, held⟩ :=
    mem_range.1 ((bound_sublist query _).subset member)
  rw [Slice.probe_select_ne_nil, List.any_eq_true]
  exact ⟨entry.column, List.mem_map.2
    ⟨_, ByteMap.find?_eq_some_iff.1 held, rfl⟩, inside.contains contained⟩

end Slice

/-- Whether a key is that of a vertex that jobs do not pass over. -/
def VertexId.isShown (key : Bytes) : Bool :=
  match ofKey key with
  | .ok id => !isHidden id
  | .error _ => false

/-- The key of a vertex is shown unless the vertex is negative or hidden. -/
theorem VertexId.isShown_key (id : VertexId) :
    isShown (key id) = true ↔ 0 ≤ id ∧ isHidden id = false := by
  by_cases natural : 0 ≤ id
  · rw [isShown, ofKey_key natural, and_iff_right natural]
    exact Iff.of_eq (Bool.not_eq_true' _)
  · rw [isShown, ofKey_key_of_negative natural]
    exact iff_of_false Bool.false_ne_true fun both => natural both.1

/-- The number of keys in a store that are not hidden and have a column in the range of
the probe. -/
def GraphStore.probedKeys (store : GraphStore) : Nat :=
  store.table.entries.countP fun entry =>
    VertexId.isShown entry.1 && entry.2.keys.any Slice.probe.contains

/-- The first stream of a snapshot delivers an item for each of these keys. -/
theorem Transaction.length_delivered_probe
    {store : GraphStore}
    (keyed : store.Keyed)
    (faultless : store.faults = Faults.empty) :
    (streamOf store Slice.probe).delivered.length = store.probedKeys := by
  rw [delivered_eq keyed faultless, List.length_filterMap_eq_countP,
    GraphStore.probedKeys]
  apply List.countP_congr
  rintro ⟨key, row⟩ member
  obtain ⟨id, rfl⟩ := keyed key row (ByteMap.find?_eq_some_iff.2 member)
  rw [Bool.and_eq_true, VertexId.isShown_key, ← Slice.probe_select_ne_nil,
    Option.isSome_iff_exists]
  simp only [itemOf?_eq_some]
  constructor
  · rintro ⟨item, natural, shown, selected, -⟩
    exact ⟨⟨natural, shown⟩, selected⟩
  · rintro ⟨⟨natural, shown⟩, selected⟩
    exact ⟨_, natural, shown, selected, rfl⟩

namespace Job
namespace Opening

variable
  {σ ρ : Type}
  {job : Job σ ρ}

/-- The streams besides the first are those of the queries that are registered. -/
theorem exists_registered
    {context : ReadContext}
    {launch : Launch}
    (opening : job.Opening context launch)
    {source : KeyStream}
    (other : source ∈ opening.others) :
    ∃ query ∈ registerQueries job.queries,
      context.openStream query = .ok source := by
  rw [← opening.asked_map_snd] at other
  obtain ⟨⟨query, _⟩, asked, rfl⟩ := List.mem_map.1 other
  refine ⟨query, ?_, (List.forall₂_iff_zip.1
    (ReadContext.openAll_opens opening.opensAll)).2 asked⟩
  rw [← opening.asked_map_fst]
  exact List.mem_map_of_mem asked

/-- What a job that succeeds has counted of the first stream. -/
theorem Succeeded.counted
    [Mergeable σ]
    {context : ReadContext}
    {launch : Launch}
    {opening : job.Opening context launch}
    {layout : IdLayout}
    {submitted : List View}
    {outcome : Outcome σ ρ}
    {tally : Tally}
    (succeeded : opening.Succeeded layout submitted outcome tally) :
    let handled := Item.leading opening.primary.delivered
    tally.dispatched + tally.deleted = handled.length ∧
      tally.disordered + handled.length =
        opening.primary.delivered.length := by
  intro handled
  have covers := opening.covers_joined layout succeeded.joins
  have views := congrArg List.length covers.views
  rw [List.length_map, List.length_map, ← covers.dispatched] at views
  have dispatched : tally.dispatched =
      (handled.filter Item.isLive).length :=
    (congrArg Tally.dispatched succeeded.counts).trans views
  have deleted : tally.deleted =
      (handled.filter fun item => !item.isLive).length :=
    (congrArg Tally.deleted succeeded.counts).trans covers.deleted
  have disordered := congrArg Tally.disordered succeeded.counts
  refine ⟨?_, (congrArg (· + handled.length) disordered).trans
    covers.disordered⟩
  rw [dispatched, deleted, ← List.length_eq_length_filter_add]

variable
  {launch : Launch}
  {store : GraphStore}

/-- Where all queries lie in the range of the probe, the first stream of a snapshot
names every vertex that a data stream does. -/
theorem named_of_narrow
    (opening : job.Opening (Transaction.begin store).context launch)
    (keyed : store.Keyed)
    (faultless : store.faults = Faults.empty)
    (narrow : ∀ query ∈ job.queries, query.LiesIn Slice.probe)
    {source : KeyStream}
    (other : source ∈ opening.others)
    {item : Item}
    (member : item ∈ source.delivered) :
    item.id ∈ opening.primary.delivered.map Item.id := by
  obtain ⟨query, registered, opens⟩ := opening.exists_registered other
  cases Except.ok.inj opens
  obtain ⟨natural, shown, selected, -⟩ :=
    (Transaction.mem_delivered keyed faultless).1 member
  have inside := narrow query (mem_registerQueries.1 registered).1
  refine List.mem_map.2
    ⟨⟨item.id, Slice.probe.select (store.row item.id)⟩, ?_, rfl⟩
  rw [opening.sources_of_snapshot.1, Transaction.mem_delivered keyed faultless]
  exact ⟨natural, shown, inside.probe_select_ne_nil selected, rfl⟩

/-- Queries in the range of the probe have no orphans. Whatever a store without faults
holds, a job over a snapshot of it that succeeds drops no item of a data stream if all
its queries lie in the range of the probe. It skips nothing as out of order, and has
dispatched or counted as deleted each vertex that has a column in the range of the probe
and is not hidden. -/
theorem narrow_queries_have_no_orphans
    [Mergeable σ]
    (opening : job.Opening (Transaction.begin store).context launch)
    (layout : IdLayout)
    (submitted : List View)
    (outcome : Outcome σ ρ)
    (tally : Tally)
    (assembled : store.Assembled)
    (faultless : store.faults = Faults.empty)
    (narrow : ∀ query ∈ job.queries, query.LiesIn Slice.probe)
    (runs : opening.Runs layout submitted outcome)
    (succeeded : outcome.result = .ok tally) :
    tally.orphans = 0 ∧
      tally.disordered = 0 ∧
      tally.dispatched + tally.deleted = store.probedKeys := by
  have keyed := assembled.keyed
  have ends := runs.succeeded succeeded
  have ascend := opening.ascend_of_snapshot keyed faultless
  have leading : Item.leading opening.primary.delivered =
      opening.primary.delivered :=
    Item.leading_of_ascend (ascend _ List.mem_cons_self)
  have delivered : opening.primary.delivered.length = store.probedKeys := by
    rw [opening.sources_of_snapshot.1,
      Transaction.length_delivered_probe keyed faultless]
  obtain ⟨handled, disordered⟩ := ends.counted
  rw [leading] at handled disordered
  refine ⟨?_, by omega, handled.trans delivered⟩
  rw [ends.orphans, opening.orphansIn_of_ascends fun source other =>
    ascend source (List.mem_cons_of_mem _ other)]
  apply List.sum_eq_zero
  intro count member
  obtain ⟨source, other, rfl⟩ := List.mem_map.1 member
  apply Item.unclaimed_eq_zero
  · exact opening.pairwise_visits.map _ fun _ _ before => before
  · intro item among
    have visits : opening.visits.map Probed.id =
        (Item.leading opening.primary.delivered).map Item.id :=
      List.map_map
    rw [visits, leading]
    exact opening.named_of_narrow keyed faultless narrow other among

end Opening
end Job

namespace TwoStreams

/-- A store with a vertex that has columns in the range of the probe and behind it, a
hidden one, one without the mark of existence, one that has columns in front of the range
and behind it only, and one in front of whose mark there is a column. -/
def ragged : GraphStore :=
  [ ((4 : VertexId), Relation.markerEntry), (4, plain),
    (4, ⟨[0xff, 0xff, 0xff, 0xff, 0x01], [1]⟩), (6, Relation.markerEntry),
    (6, plain), (8, plain), (8, ⟨[0x00, 0x01], [2]⟩), (12, ⟨[0x00, 0x00], [3]⟩),
    (12, ⟨[0xff, 0xff, 0xff, 0xff], [3]⟩), (16, Relation.markerEntry),
    (16, ⟨[0x00], [4]⟩) ].foldl
      (fun current put => current.insert put.1 put.2)
      (GraphStore.empty IdLayout.standard)

/-- The job with queries for all of the range of the probe and for parts of it. -/
def narrowing : Job UInt64 Unit :=
  { job .fail with
    queries :=
      [ { Slice.probe with limit := none },
        Slice.ofType Relation.firstFreeType, ⟨[0x00, 0x01], [0x80], some 3⟩ ] }

theorem queueFits_narrowing :
    narrowing.config.queueLength.toNat ≤ JobError.longestQueue :=
  usual.queueFits

theorem workersFit_narrowing :
    narrowing.config.workers.toNat ≤ JobError.mostWorkers :=
  usual.workersFit

/-- The job over a snapshot of the store. -/
def narrowingRagged : narrowing.Opening
    (Transaction.begin ragged).context Launch.ordinary where
  initializer := .state 0
  primary := Transaction.streamOf ragged Slice.probe
  others := narrowing.queries.map (Transaction.streamOf ragged)
  accepted := rfl
  initialized := rfl
  opensProbe := rfl
  opensAll := rfl
  queueFits := queueFits_narrowing
  workersFit := workersFit_narrowing
  kept := Launch.aborted_ordinary

theorem narrow_queries_over_ragged :
    ragged.Assembled ∧
    ragged.faults = Faults.empty ∧
    (∀ query ∈ narrowing.queries, query.LiesIn Slice.probe) ∧
    ∃ submitted outcome tally,
      narrowingRagged.Runs IdLayout.standard submitted outcome ∧
      outcome.result = .ok tally ∧
      tally.orphans = 0 ∧
      tally.disordered = 0 ∧
      tally.dispatched + tally.deleted = 3 := by
  have assembled : ragged.Assembled :=
    (GraphStore.Assembled.empty IdLayout.standard).inserts _
  have narrow : ∀ query ∈ narrowing.queries, query.LiesIn Slice.probe := by
    decide
  have succeeded : (narrowing.execute IdLayout.standard
      (Transaction.begin ragged).context Launch.ordinary).result =
        .ok ⟨2, 1, 0, 0, 0, 0, false⟩ := by
    decide +kernel
  have runs : narrowingRagged.Runs IdLayout.standard _ _ :=
    Job.Opening.Runs.clocked
  have keys : ragged.probedKeys = 3 := by decide +kernel
  obtain ⟨orphans, disordered, handled⟩ :=
    Job.Opening.narrow_queries_have_no_orphans narrowingRagged
      IdLayout.standard _ _ _ assembled rfl narrow runs succeeded
  rw [keys] at handled
  exact ⟨assembled, rfl, narrow, _, _, _, runs, succeeded, orphans, disordered,
    handled⟩

end TwoStreams
end GraphSweep
