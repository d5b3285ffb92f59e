import GraphSweep.Proofs.Feed
import GraphSweep.Proofs.Job.Schedules
import GraphSweep.Proofs.Join.Ascending

/-!
# Jobs over ascending streams

Where the vertices of every stream ascend, what a job comes to can be read off its
streams: the failures in its way, in the order in which it meets them, and the views
that it dispatches if there are none.
-/

namespace GraphSweep

namespace KeyStream

/-- The vertices that a stream delivers strictly ascend. -/
def Ascends (source : KeyStream) : Prop := Item.Ascend source.delivered

/-- The entries that a stream delivers for a vertex. -/
def entriesOf? (source : KeyStream) (id : VertexId) : Option (List Entry) :=
  Item.entriesOf? source.delivered id

/-- The failure that the end of a stream is, if it is one. -/
def failures
    (policy : FailurePolicy)
    (stream : Nat)
    (source : KeyStream) : List JobError :=
  policy.failures stream (FeedEnd.ofFault? source.fault?)

/-- The failure of a stream that is in the way to a vertex: all that the stream has
delivered before comes before the vertex. -/
def failuresBefore
    (policy : FailurePolicy)
    (id : VertexId)
    (stream : Nat)
    (source : KeyStream) : List JobError :=
  if Item.allBefore source.delivered id then source.failures policy stream
  else []

/-- The data lane that a stream is, before the first vertex. -/
def lane (source : KeyStream) (stream : Nat) (query : Slice) : Lane :=
  ⟨stream, query, none, source.delivered, FeedEnd.ofFault? source.fault?⟩

end KeyStream

/-- No query is registered twice. -/
theorem registerQueries_nodup (queries : List Slice) :
    (registerQueries queries).Nodup := by
  have kept (seen : List Slice) (fresh : seen.Nodup) :
      (queries.foldl (fun kept query =>
        if query = Slice.probe ∨ query ∈ kept then kept
        else kept ++ [query]) seen).Nodup := by
    induction queries generalizing seen with
    | nil => exact fresh
    | cons query queries hypothesis =>
        rw [List.foldl_cons]
        apply hypothesis
        split
        · exact fresh
        · next new =>
          rw [not_or] at new
          rw [List.nodup_append]
          refine ⟨fresh, List.nodup_singleton query, ?_⟩
          intro other earlier same here
          rw [List.mem_singleton.1 here]
          exact fun equal => new.2 (equal ▸ earlier)
  exact kept [] List.nodup_nil

/-- All queries are registered but the probe. -/
theorem mem_registerQueries {queries : List Slice} {query : Slice} :
    query ∈ registerQueries queries ↔
      query ∈ queries ∧ query ≠ Slice.probe := by
  have kept (seen : List Slice) :
      query ∈ queries.foldl (fun kept query =>
        if query = Slice.probe ∨ query ∈ kept then kept
        else kept ++ [query]) seen ↔
      query ∈ seen ∨ query ∈ queries ∧ query ≠ Slice.probe := by
    induction queries generalizing seen with
    | nil => simp
    | cons first rest hypothesis =>
        rw [List.foldl_cons, hypothesis, List.mem_cons]
        by_cases same : query = first
        · subst same
          by_cases probe : query = Slice.probe
          · simp [probe]
          · by_cases earlier : query ∈ seen <;> simp [probe, earlier]
        · by_cases left : first = Slice.probe ∨ first ∈ seen <;>
            simp [left, same]
  rw [registerQueries, kept]
  simp

/-- What is looked up in the entries found for queries of which none repeats. -/
theorem View.lookup_found
    {κ : Type}
    {asked : List (Slice × κ)}
    {query : Slice}
    {source : κ}
    (found : κ -> Option (List Entry))
    (distinct : (asked.map Prod.fst).Nodup)
    (member : (query, source) ∈ asked) :
    (asked.filterMap fun entry =>
      (found entry.2).map fun entries => (entry.1, entries)).lookup query =
        found source := by
  induction asked with
  | nil => cases member
  | cons entry rest hypothesis =>
      obtain ⟨fresh, distinctRest⟩ := List.nodup_cons.1 distinct
      rw [List.filterMap_cons]
      rcases List.mem_cons.1 member with rfl | later
      · cases here : found source with
        | some entries => simp
        | none =>
            simp only [Option.map_none, List.lookup_eq_none_iff]
            intro other among
            obtain ⟨asker, asks, answer⟩ := List.mem_filterMap.1 among
            obtain ⟨entries, -, rfl⟩ := Option.map_eq_some_iff.1 answer
            have repeats : asker.1 ∈ rest.map Prod.fst :=
              List.mem_map_of_mem asks
            have apart : query ≠ asker.1 := fun same => fresh (same ▸ repeats)
            simpa using apart
      · have apart : (query == entry.1) = false := by
          have asks : query ∈ rest.map Prod.fst := List.mem_map_of_mem later
          simpa using fun same : query = entry.1 => fresh (same ▸ asks)
        cases here : found entry.2 with
        | none => simpa [here] using hypothesis distinctRest later
        | some entries =>
            simpa [here, List.lookup_cons, apart] using
              hypothesis distinctRest later

/-- A view answers the queries that something can be looked up for. -/
theorem View.answers_eq (view : View) (query : Slice) :
    view.answers query = (view.fetched.lookup query).isSome := by
  rw [answers, queries, Bool.eq_iff_iff, List.lookup_isSome_iff,
    List.contains_iff_mem, List.mem_map]
  constructor
  · rintro ⟨entry, member, rfl⟩
    exact ⟨entry, member, beq_self_eq_true entry.1⟩
  · rintro ⟨entry, member, same⟩
    exact ⟨entry, member, (eq_of_beq same).symm⟩

/-- The lanes of a job, stream by stream. -/
theorem Job.lanes_eq
    (stream : Nat)
    (queries : List Slice)
    (sources : List KeyStream) :
    Job.lanes stream queries
        (sources.map fun source => Feed.ofReads source.reads) =
      ((queries.zip sources).zipIdx stream).map fun entry =>
        entry.1.2.lane entry.2 entry.1.1 := by
  induction queries generalizing stream sources with
  | nil => rfl
  | cons query queries hypothesis =>
      cases sources with
      | nil => rfl
      | cons source sources =>
          rw [List.map_cons, Job.lanes, hypothesis, source.feed_eq]
          rfl

namespace Job
namespace Opening

variable
  {σ ρ : Type}
  {job : Job σ ρ}
  {context : ReadContext}
  {launch : Launch}

/-- The registered queries of a job with their streams, in order. -/
def asked (opening : job.Opening context launch) : List (Slice × KeyStream) :=
  (registerQueries job.queries).zip opening.others

/-- All that may be in the way of a job, in the order in which it meets it: for one
vertex of the first stream after another a probe that cannot be read and the
failures of the other streams, and in the end the failure of the first stream. -/
def failures (opening : job.Opening context launch) : List JobError :=
  (opening.primary.delivered.flatMap fun item =>
    item.failures ++ (opening.others.zipIdx 1).flatMap fun entry =>
      entry.1.failuresBefore job.config.policy item.id entry.2) ++
    opening.primary.failures job.config.policy 0

/-- The view of a vertex with what the streams deliver for it. -/
def viewOf (opening : job.Opening context launch) (id : VertexId) : View where
  id := id
  fetched := opening.asked.filterMap fun asked =>
    (asked.2.entriesOf? id).map fun entries => (asked.1, entries)

theorem map_id_viewOf
    (opening : job.Opening context launch)
    (ids : List VertexId) :
    (ids.map opening.viewOf).map View.id = ids := by
  rw [List.map_map]
  exact List.map_id _

/-- The vertices of the first stream that exist. -/
def live (opening : job.Opening context launch) : List VertexId :=
  (opening.primary.delivered.filter Item.isLive).map Item.id

/-- There is a stream for every registered query. -/
theorem length_others (opening : job.Opening context launch) :
    (registerQueries job.queries).length = opening.others.length :=
  (ReadContext.openAll_opens opening.opensAll).length_eq

theorem asked_map_fst (opening : job.Opening context launch) :
    opening.asked.map Prod.fst = registerQueries job.queries :=
  List.map_fst_zip opening.length_others.le

theorem asked_map_snd (opening : job.Opening context launch) :
    opening.asked.map Prod.snd = opening.others :=
  List.map_snd_zip opening.length_others.ge

theorem lanes_eq (opening : job.Opening context launch) :
    opening.lanes = (opening.asked.zipIdx 1).map fun entry =>
      entry.1.2.lane entry.2 entry.1.1 :=
  Job.lanes_eq 1 (registerQueries job.queries) opening.others

/-- What is in the way of the join is what is in the way of the job. -/
theorem failures_eq (opening : job.Opening context launch) :
    Course.failures job.config.policy opening.lanes opening.probe.items
      opening.probe.ending = opening.failures := by
  have numbered : opening.others.zipIdx 1 =
      (opening.asked.zipIdx 1).map (Prod.map Prod.snd id) := by
    rw [← List.zipIdx_map, asked_map_snd]
  rw [Course.failures, failures, probe, KeyStream.feed_eq, lanes_eq, numbered]
  congr 2
  funext item
  rw [Course.failuresAt, List.flatMap_map, List.flatMap_map]
  rfl

/-- What the lanes have for a vertex is what the streams deliver for it. -/
theorem viewOf_eq
    (opening : job.Opening context launch)
    (item : Item) :
    Course.viewOf opening.lanes item = opening.viewOf item.id := by
  have plain : opening.asked = (opening.asked.zipIdx 1).map Prod.fst :=
    (List.zipIdx_map_fst 1 opening.asked).symm
  rw [Course.viewOf, viewOf, plain, lanes_eq, Lane.fetchedFor,
    List.filterMap_map, List.filterMap_map]
  rfl

/-- The entries in a view are those that the stream of the query delivers. -/
theorem lookup_viewOf
    (opening : job.Opening context launch)
    (id : VertexId)
    {query : Slice}
    {source : KeyStream}
    (member : (query, source) ∈ opening.asked) :
    (opening.viewOf id).fetched.lookup query = source.entriesOf? id := by
  have distinct : (opening.asked.map Prod.fst).Nodup := by
    rw [asked_map_fst]
    exact registerQueries_nodup job.queries
  exact View.lookup_found (fun source => source.entriesOf? id) distinct member

/-- Views have nothing for a query that is not registered. -/
theorem entries_viewOf_of_not_registered
    (opening : job.Opening context launch)
    (id : VertexId)
    {query : Slice}
    (unregistered : query ∉ registerQueries job.queries) :
    (opening.viewOf id).entries query = [] := by
  have missing : (opening.viewOf id).fetched.lookup query = none := by
    rw [List.lookup_eq_none_iff]
    intro answer among
    obtain ⟨asked, member, found⟩ := List.mem_filterMap.1 among
    obtain ⟨entries, -, rfl⟩ := Option.map_eq_some_iff.1 found
    have registered : asked.1 ∈ registerQueries job.queries :=
      opening.asked_map_fst ▸ List.mem_map_of_mem member
    have apart : query ≠ asked.1 := fun same =>
      unregistered (same ▸ registered)
    simpa using apart
  rw [View.entries, missing]
  rfl

/-- What the join of ascending streams comes to. -/
theorem views_joined
    (opening : job.Opening context launch)
    (layout : IdLayout)
    (ascend : ∀ source ∈ opening.primary :: opening.others, source.Ascends) :
    (opening.joined layout).result.map (fun _ =>
        (opening.joined layout).progress.visited.map Visited.view) =
      (JobError.first opening.failures).map fun _ =>
        opening.live.map opening.viewOf := by
  have follows : (opening.ready layout).Follows opening.sweep
      ⟨opening.start layout, 0, []⟩ := rfl
  have course := (Progress.run_eq_course follows opening.probe.ending
    opening.probe.items).1
  have ascendLanes : ∀ lane ∈ opening.lanes, Item.Ascend lane.pending := by
    intro lane member
    rw [lanes_eq] at member
    obtain ⟨⟨entry, stream⟩, numbered, rfl⟩ := List.mem_map.1 member
    have among : entry ∈ opening.asked := List.fst_mem_of_mem_zipIdx numbered
    have source : entry.2 ∈ opening.others :=
      opening.asked_map_snd ▸ List.mem_map_of_mem among
    exact ascend entry.2 (List.mem_cons_of_mem opening.primary source)
  have ascendItems : Item.Ascend opening.probe.items := by
    rw [probe, KeyStream.feed_eq]
    exact ascend opening.primary List.mem_cons_self
  have reached : (opening.ready layout).course.Reached opening.lanes :=
    List.forall₂_same.2 fun lane _ => rfl
  have views := Course.views_run job.config.policy ascendLanes reached ascendItems
    (fun past named => by cases named) opening.probe.ending
  have found : (opening.probe.items.filter Item.isLive).map
      (Course.viewOf opening.lanes) = opening.live.map opening.viewOf := by
    rw [live, probe, KeyStream.feed_eq, List.map_map]
    exact List.map_congr_left fun item _ => opening.viewOf_eq item
  have noted : (opening.ready layout).course.account.views = [] := rfl
  rw [failures_eq, found, noted, List.nil_append] at views
  have sweep : opening.sweep.policy = job.config.policy := rfl
  rw [sweep] at course
  rw [← course] at views
  rw [← views, joined]
  cases (Progress.run opening.sweep (opening.ready layout)
    opening.probe.ending opening.probe.items).result <;> rfl

/-- The join fails with the first failure in its way. -/
theorem joined_of_failures
    (opening : job.Opening context launch)
    (layout : IdLayout)
    (ascend : ∀ source ∈ opening.primary :: opening.others, source.Ascends)
    {error : JobError}
    {others : List JobError}
    (failures : opening.failures = error :: others) :
    (opening.joined layout).result = .error error := by
  have joins := opening.views_joined layout ascend
  rw [failures] at joins
  cases result : (opening.joined layout).result with
  | ok _ =>
      rw [result] at joins
      cases joins
  | error other =>
      rw [result] at joins
      cases joins
      rfl

/-- With no failure in its way, the join succeeds and dispatches the vertices that
exist with what the streams deliver for them. -/
theorem joined_of_no_failures
    (opening : job.Opening context launch)
    (layout : IdLayout)
    (ascend : ∀ source ∈ opening.primary :: opening.others, source.Ascends)
    (failures : opening.failures = []) :
    (opening.joined layout).result = .ok () ∧
      (opening.joined layout).progress.visited.map Visited.view =
        opening.live.map opening.viewOf := by
  have joins := opening.views_joined layout ascend
  rw [failures] at joins
  cases result : (opening.joined layout).result with
  | error error =>
      rw [result] at joins
      cases joins
  | ok _ =>
      rw [result] at joins
      exact ⟨rfl, Except.ok.inj joins⟩

/-- The views that a join which succeeds hands to the workers are those of the vertices
that exist. -/
theorem views_of_joined
    (opening : job.Opening context launch)
    (layout : IdLayout)
    (ascend : ∀ source ∈ opening.primary :: opening.others, source.Ascends)
    (joins : (opening.joined layout).result = .ok ()) :
    (opening.joined layout).progress.visited.map Visited.view =
      opening.live.map opening.viewOf := by
  have views := opening.views_joined layout ascend
  rw [joins] at views
  cases first : JobError.first opening.failures with
  | error error =>
      rw [first] at views
      cases views
  | ok _ =>
      rw [first] at views
      exact Except.ok.inj views

section Yields

variable
  [Mergeable σ]
  {opening : job.Opening context launch}
  {layout : IdLayout}
  {outcome : Outcome σ ρ}

/-- The first failure in the way is what any run of the job comes to. -/
theorem Yields.of_failures
    {error : JobError}
    {others : List JobError}
    (yields : opening.Yields layout outcome)
    (ascend : ∀ source ∈ opening.primary :: opening.others, source.Ascends)
    (failures : opening.failures = error :: others) :
    outcome.result = .error error := by
  have joins := opening.joined_of_failures layout ascend failures
  have free : opening.MergesFreely layout := by
    intro succeeded
    rw [joins] at succeeded
    cases succeeded
  have reference : (opening.sequential layout).result = .error error := by
    rw [sequential, joins]
  exact (yields.matches free).error_of reference

/-- With no failure in the way, any run of the job succeeds and dispatches the
vertices that exist with what the streams deliver for them. -/
theorem Yields.of_no_failures
    (yields : opening.Yields layout outcome)
    (ascend : ∀ source ∈ opening.primary :: opening.others, source.Ascends)
    (failures : opening.failures = [])
    (released : context.releaseFault = none)
    (free : opening.MergesFreely layout) :
    (∃ tally, outcome.result = .ok tally) ∧
      (outcome.visited.map Visited.view).Perm
        (opening.live.map opening.viewOf) := by
  obtain ⟨joins, views⟩ :=
    opening.joined_of_no_failures layout ascend failures
  obtain ⟨reference, runs, -⟩ :=
    opening.sequential_of_ok layout free joins released
  have like := yields.matches free
  obtain ⟨tally, ends⟩ :=
    Outcome.exists_ok_of_same like.result.symm reference
  refine ⟨⟨tally, ends⟩, ?_⟩
  have visited := like.visited tally ends
  rw [runs] at visited
  rw [← views]
  exact visited.map Visited.view

end Yields

end Opening
end Job
end GraphSweep
