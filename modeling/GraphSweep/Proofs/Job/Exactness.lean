import GraphSweep.Proofs.Job.Stored

/-!
# Exactness of the join

Where no stream fails and the vertices of every stream ascend, a job runs its
program once for each vertex that exists, and hands it exactly what the streams
deliver for the vertex.
-/

namespace GraphSweep

/-- A view has for a query what the stream of the query delivers for its vertex. -/
structure View.Serves
    (view : View)
    (query : Slice)
    (source : KeyStream) : Prop where
  found : ∀ item ∈ source.delivered, item.id = view.id ->
    view.entries query = item.entries ∧ view.answers query = true
  missing : (∀ item ∈ source.delivered, item.id ≠ view.id) ->
    view.entries query = [] ∧ view.answers query = false

namespace Job
namespace Opening

variable
  {σ ρ : Type}
  {job : Job σ ρ}
  {context : ReadContext}
  {launch : Launch}

/-- A registered query has its stream among those of the job. -/
theorem exists_asked
    (opening : job.Opening context launch)
    {query : Slice}
    (registered : query ∈ registerQueries job.queries) :
    ∃ source ∈ opening.others, context.openStream query = .ok source ∧
      (query, source) ∈ opening.asked := by
  rw [← opening.asked_map_fst] at registered
  obtain ⟨⟨_, source⟩, member, rfl⟩ := List.mem_map.1 registered
  have opens := ReadContext.openAll_opens opening.opensAll
  refine ⟨source, ?_, (List.forall₂_iff_zip.1 opens).2 member, member⟩
  rw [← opening.asked_map_snd]
  exact List.mem_map_of_mem member

/-- The view of a vertex serves every query with what its stream delivers. -/
theorem serves_viewOf
    (opening : job.Opening context launch)
    (id : VertexId)
    {query : Slice}
    {source : KeyStream}
    (asked : (query, source) ∈ opening.asked)
    (ascends : source.Ascends) :
    (opening.viewOf id).Serves query source := by
  have fetched := opening.lookup_viewOf id asked
  refine ⟨?_, ?_⟩
  · intro item member same
    have same : item.id = id := same
    have entries : source.entriesOf? id = some item.entries := by
      rw [← same]
      exact Item.entriesOf?_of_mem ascends member
    rw [View.answers_eq, View.entries, fetched, entries]
    exact ⟨rfl, rfl⟩
  · intro absent
    have entries : source.entriesOf? id = none :=
      Item.entriesOf?_eq_none absent
    rw [View.answers_eq, View.entries, fetched, entries]
    exact ⟨rfl, rfl⟩

/-- No vertex of an ascending stream exists twice. -/
theorem nodup_live
    (opening : job.Opening context launch)
    (ascends : opening.primary.Ascends) :
    opening.live.Nodup := by
  rw [live, List.Nodup, List.pairwise_map]
  have ascendLive := List.Pairwise.filter Item.isLive ascends
  exact ascendLive.imp fun earlier => Int64.ne_of_lt earlier

/-- Nothing is in the way of a job whose streams do not fail and whose probes can be
read. -/
theorem failures_eq_nil
    (opening : job.Opening context launch)
    (faultless : ∀ source ∈ opening.primary :: opening.others,
      source.fault? = none)
    (readable : ∀ item ∈ opening.primary.delivered, item.failures = []) :
    opening.failures = [] := by
  have harmless : ∀ source ∈ opening.primary :: opening.others, ∀ stream,
      source.failures job.config.policy stream = [] := by
    intro source member stream
    rw [KeyStream.failures, faultless source member]
    rfl
  rw [failures, List.append_eq_nil_iff, List.flatMap_eq_nil_iff]
  refine ⟨fun item member => ?_, harmless _ List.mem_cons_self 0⟩
  rw [List.append_eq_nil_iff, List.flatMap_eq_nil_iff]
  refine ⟨readable item member, ?_⟩
  intro entry numbered
  have among : entry.1 ∈ opening.others := List.fst_mem_of_mem_zipIdx numbered
  rw [KeyStream.failuresBefore, ite_eq_right_iff]
  intro _
  exact harmless entry.1 (List.mem_cons_of_mem _ among) entry.2

/-- The join is exact. Where no stream fails, the vertices of every stream ascend and
every probe can be read, the job succeeds however its parts interleave, and on its clock
if its pauses and its runs do not take longer than it waits. It runs its program once for
each vertex of the first stream that exists and for no other, with the state that the
vertex had when the job began and with a view that has for each registered query what its
stream delivers for the vertex. -/
theorem join_is_exact
    [Mergeable σ]
    (opening : job.Opening context launch)
    (layout : IdLayout)
    (faultless : ∀ source ∈ opening.primary :: opening.others,
      source.fault? = none)
    (ascend : ∀ source ∈ opening.primary :: opening.others, source.Ascends)
    (readable : ∀ item ∈ opening.primary.delivered, item.failures = [])
    (released : context.releaseFault = none)
    (free : opening.MergesFreely layout) :
    (∃ outcome, opening.Yields layout outcome) ∧
    (opening.Brisk layout ->
      opening.Yields layout (job.execute layout context launch)) ∧
    ∀ outcome, opening.Yields layout outcome ->
      (∃ tally, outcome.result = .ok tally) ∧
      (outcome.visited.map fun visited => visited.view.id).Nodup ∧
      (∀ id, id ∈ outcome.visited.map (fun visited => visited.view.id) ↔
        id ∈ opening.live) ∧
      ∀ visited ∈ outcome.visited,
        visited.visit = job.program visited.view
          ((job.startStore layout).own opening.initializer visited.view.id) ∧
        ∀ query ∈ registerQueries job.queries,
          ∃ source ∈ opening.others, context.openStream query = .ok source ∧
            visited.view.Serves query source := by
  refine ⟨opening.exists_yields layout, yields_of_brisk, ?_⟩
  intro outcome yields
  have failures := opening.failures_eq_nil faultless readable
  obtain ⟨⟨tally, succeeds⟩, views⟩ :=
    yields.of_no_failures ascend failures released free
  have ids : (outcome.visited.map fun visited => visited.view.id).Perm
      opening.live := by
    have named := views.map View.id
    rw [opening.map_id_viewOf, List.map_map] at named
    exact named
  refine ⟨⟨tally, succeeds⟩, ?_, fun id => ids.mem_iff, ?_⟩
  · exact ids.nodup_iff.2
      (opening.nodup_live (ascend _ List.mem_cons_self))
  · intro visited member
    obtain ⟨submitted, runs⟩ := yields.exists_runs
    refine ⟨(runs.succeeded succeeds).ran member, ?_⟩
    intro query registered
    obtain ⟨source, among, opens, asked⟩ := opening.exists_asked registered
    have found : visited.view ∈ opening.live.map opening.viewOf :=
      views.mem_iff.1 (List.mem_map_of_mem member)
    obtain ⟨id, -, view⟩ := List.mem_map.1 found
    refine ⟨source, among, opens, ?_⟩
    rw [← view]
    exact opening.serves_viewOf id asked
      (ascend source (List.mem_cons_of_mem _ among))

end Opening
end Job

namespace TwoStreams

theorem join_of_two_streams_is_exact :
    (∀ source ∈ usual.primary :: usual.others,
      source.fault? = none ∧ source.Ascends) ∧
    (∀ item ∈ usual.primary.delivered, item.failures = []) ∧
    (context primary other).releaseFault = none ∧
    usual.MergesFreely IdLayout.standard ∧
    usual.Yields IdLayout.standard ((job .fail).execute IdLayout.standard
      (context primary other) Launch.ordinary) ∧
    ∀ outcome, usual.Yields IdLayout.standard outcome ->
      (outcome.visited.map fun visited => visited.view.id).Nodup ∧
      (∀ id, id ∈ outcome.visited.map (fun visited => visited.view.id) ↔
        id ∈ ([4, 9] : List VertexId)) ∧
      ∀ visited ∈ outcome.visited,
        visited.visit =
          (job .fail).program visited.view ⟨none, .state 0⟩ := by
  have sources : ∀ source ∈ usual.primary :: usual.others,
      source.fault? = none ∧ source.Ascends := by
    unfold KeyStream.Ascends Item.Ascend
    decide +kernel
  have readable : ∀ item ∈ usual.primary.delivered, item.failures = [] := by
    decide +kernel
  have free : usual.MergesFreely IdLayout.standard :=
    mergesFreely other List.mem_cons_self
  have live : usual.live = [4, 9] := by
    decide +kernel
  have brisk : usual.Brisk IdLayout.standard := by
    decide +kernel
  obtain ⟨-, clock, exact⟩ := Job.Opening.join_is_exact usual IdLayout.standard
    (fun source member => (sources source member).1)
    (fun source member => (sources source member).2) readable rfl free
  refine ⟨sources, readable, rfl, free, clock brisk, ?_⟩
  intro outcome here
  obtain ⟨-, once, ids, runs⟩ := exact outcome here
  exact ⟨once, live ▸ ids, fun visited member => (runs visited member).1⟩

end TwoStreams
end GraphSweep
