import GraphSweep.Proofs.Job.Dispatch
import GraphSweep.Proofs.Job.Snapshot

/-!
# Queries of a job that succeeds

Queries may be given to a job in any order and more than once, and each of them is
answered in every view with what it selects of the vertex. The probe is the exception:
every job asks it, to see which vertices exist, and keeps no answer to it in the views.
That a store has negative vertices, which cannot be read, or entries that are no
relations, changes nothing of this as long as the job succeeds.
-/

namespace GraphSweep
namespace Job
namespace Opening

variable
  {σ ρ : Type}
  {job : Job σ ρ}
  {launch : Launch}
  {store : GraphStore}

/-- The queries given to a job are served. Whatever a store without faults holds, in a
job over a snapshot of it that succeeds each view that is dispatched answers every query
given to the job but the probe with the entries of the vertex that the query contains, as
many as it allows, and all other queries with nothing. The program runs for the views that
are dispatched. -/
theorem serves_given_queries
    [Mergeable σ]
    (opening : job.Opening (Transaction.begin store).context launch)
    (layout : IdLayout)
    (submitted : List View)
    (outcome : Outcome σ ρ)
    (tally : Tally)
    (assembled : store.Assembled)
    (faultless : store.faults = Faults.empty)
    (runs : opening.Runs layout submitted outcome)
    (succeeded : outcome.result = .ok tally) :
    (outcome.visited.map Visited.view).Perm submitted ∧
    ∀ view ∈ submitted, ∀ query,
      view.entries query =
        if query ∈ job.queries ∧ query ≠ Slice.probe then
          query.bound (query.range (store.row view.id))
        else [] := by
  obtain ⟨joins, submits, -, visits, -, -⟩ := runs.succeeded succeeded
  have keyed := assembled.keyed
  have views := opening.views_of_joined layout
    (opening.ascend_of_snapshot keyed faultless) joins
  have submits : submitted = opening.live.map opening.viewOf :=
    submits.trans views
  refine ⟨?_, ?_⟩
  · rw [submits, ← views]
    exact visits.map Visited.view
  · intro view member query
    rw [submits] at member
    obtain ⟨id, living, rfl⟩ := List.mem_map.1 member
    obtain ⟨natural, shown⟩ := opening.shown_of_mem_live keyed faultless living
    split
    · next given =>
      rw [opening.entries_viewOf keyed faultless natural shown
        (mem_registerQueries.2 given), Slice.select_eq]
      rfl
    · next other =>
      exact opening.entries_viewOf_of_not_registered id fun registered =>
        other (mem_registerQueries.1 registered)

end Opening
end Job

namespace TwoStreams

/-- A store with a vertex that has a property and an entry that is no relation, one that
has nothing, a hidden one, and a negative one. -/
def rough : GraphStore :=
  [ ((4 : VertexId), Relation.markerEntry), (4, plain), (4, ⟨[0xff, 0x07], [1]⟩),
    (6, Relation.markerEntry), (8, Relation.markerEntry),
    (-4, Relation.markerEntry) ].foldl
      (fun current put => current.insert put.1 put.2)
      (GraphStore.empty IdLayout.standard)

theorem assembled_rough : rough.Assembled :=
  (GraphStore.Assembled.empty IdLayout.standard).inserts _

/-- The query for all that is in front of the highest byte, and some behind it. -/
def everything : Slice := ⟨[], [0xff, 0x08], none⟩

/-- The job with the probe and one query twice among its queries. -/
def asking : Job UInt64 Unit :=
  { job .truncate with
    queries :=
      [ everything, Slice.probe, Slice.ofType Relation.firstFreeType,
        everything.atMost 2, Slice.ofType Relation.firstFreeType ] }

theorem queueFits_asking :
    asking.config.queueLength.toNat ≤ JobError.longestQueue :=
  usual.queueFits

theorem workersFit_asking :
    asking.config.workers.toNat ≤ JobError.mostWorkers :=
  usual.workersFit

/-- The job over a snapshot of the store. -/
def askingRough :
    asking.Opening (Transaction.begin rough).context Launch.ordinary where
  initializer := .state 0
  primary := Transaction.streamOf rough Slice.probe
  others :=
    [ Transaction.streamOf rough everything,
      Transaction.streamOf rough (Slice.ofType Relation.firstFreeType),
      Transaction.streamOf rough (everything.atMost 2) ]
  accepted := rfl
  initialized := rfl
  opensProbe := rfl
  opensAll := rfl
  queueFits := queueFits_asking
  workersFit := workersFit_asking
  kept := Launch.aborted_ordinary

/-- What comes of the job. -/
def askingOutcome : Outcome UInt64 Unit :=
  asking.execute IdLayout.standard (Transaction.begin rough).context
    Launch.ordinary

theorem given_queries_are_served_over_rough :
    rough.Assembled ∧
    rough.faults = Faults.empty ∧
    ∃ submitted tally,
      askingRough.Runs IdLayout.standard submitted askingOutcome ∧
      askingOutcome.result = .ok tally ∧
      submitted.map View.id = [4, 8] ∧
      ∀ view ∈ submitted, view.id = 4 ->
        view.entries everything =
          [Relation.markerEntry, plain, ⟨[0xff, 0x07], [1]⟩] ∧
        view.entries (everything.atMost 2) = [Relation.markerEntry, plain] ∧
        view.entries (Slice.ofType Relation.firstFreeType) = [plain] := by
  have succeeded : askingOutcome.result = .ok ⟨2, 0, 0, 0, 0, 0, false⟩ := by
    decide +kernel
  have runs : askingRough.Runs IdLayout.standard _ askingOutcome :=
    Job.Opening.Runs.clocked
  obtain ⟨-, serves⟩ := Job.Opening.serves_given_queries askingRough
    IdLayout.standard _ _ _ assembled_rough rfl runs succeeded
  refine ⟨assembled_rough, rfl, _, _, runs, succeeded, by decide +kernel, ?_⟩
  intro view member here
  rw [serves view member, serves view member, serves view member, here]
  decide +kernel

/-- The probe is not served to views, though it selects something of both vertices. -/
theorem probe_is_not_served :
    rough.faults = Faults.empty ∧
    Slice.probe ∈ asking.queries ∧
    askingOutcome.result = .ok ⟨2, 0, 0, 0, 0, 0, false⟩ ∧
    (askingOutcome.visited.map fun visited =>
      (visited.view.id, visited.view.entries Slice.probe)) =
        [(4, []), (8, [])] ∧
    Slice.probe.bound (Slice.probe.range (rough.row 4)) =
      [Relation.markerEntry] ∧
    Slice.probe.bound (Slice.probe.range (rough.row 8)) =
      [Relation.markerEntry] :=
  ⟨rfl, by decide +kernel⟩

end TwoStreams
end GraphSweep
