import GraphSweep.Proofs.Job.Dispatch
import GraphSweep.Proofs.StateStore.Answers

/-!
# What a job that succeeds leaves in its store

Before siblings are merged, the store of a job holds the entries that it began with
but for those of dispatched vertices, which their runs have left. The siblings are
then merged in some order if a partitioned vertex was among those dispatched, and
merging has had an answer. Without one, nothing is merged, and the store counts as
not merged even if it did before the job.
-/

namespace GraphSweep
namespace Job

/-- The job when it goes on with another store. -/
def resume {σ ρ : Type} (job : Job σ ρ) (seed : StateStore σ) : Job σ ρ :=
  { job with seed := some seed }

namespace Opening

variable
  {σ ρ : Type}
  {job : Job σ ρ}
  {context : ReadContext}
  {launch : Launch}

/-- The job gets under way with another store to go on with. -/
def resume
    (opening : job.Opening context launch)
    (seed : StateStore σ) :
    (job.resume seed).Opening context launch where
  initializer := opening.initializer
  primary := opening.primary
  others := opening.others
  accepted := opening.accepted
  initialized := opening.initialized
  opensProbe := opening.opensProbe
  opensAll := opening.opensAll
  queueFits := opening.queueFits
  workersFit := opening.workersFit
  kept := opening.kept

/-- The run of the program for a vertex, which finds the state that the vertex had
when the job began. -/
def runOf
    (opening : job.Opening context launch)
    (layout : IdLayout)
    (view : View) : Visited σ ρ :=
  ⟨view, job.program view
    ((job.startStore layout).own opening.initializer view.id)⟩

/-- The store of the job when the program has been run for all its vertices and no
siblings have been merged yet. -/
def written
    (opening : job.Opening context launch)
    (layout : IdLayout) : StateStore σ :=
  (opening.joined layout).progress.store

theorem written_eq
    (opening : job.Opening context launch)
    (layout : IdLayout) :
    opening.written layout =
      (Effects.visitAll opening.sweep ⟨opening.start layout, 0, []⟩
        (opening.joined layout).progress.account.views).store :=
  congrArg Effects.store (opening.effects_joined layout)

/-- A join that succeeds has dispatched each vertex once. -/
theorem nodup_views
    (opening : job.Opening context launch)
    (layout : IdLayout)
    (joins : (opening.joined layout).result = .ok ()) :
    ((opening.joined layout).progress.account.views.map View.id).Nodup := by
  rw [(opening.covers_joined layout joins).views]
  have ascends := Item.ascend_leading opening.primary.delivered
  have sorted := (ascends.filter fun item => item.isLive).map Item.id
    (S := (· < ·)) fun _ _ before => before
  exact sorted.imp Int64.ne_of_lt

theorem layout_written
    (opening : job.Opening context launch)
    (layout : IdLayout) :
    (opening.written layout).layout = (job.startStore layout).layout := by
  rw [written_eq, Effects.layout_visitAll]
  rfl

/-- Running the program for some vertices before any state has been written makes the run
of each. -/
theorem visited_visitAll_start
    (opening : job.Opening context launch)
    (layout : IdLayout)
    {views : List View}
    (distinct : (views.map View.id).Nodup) :
    (Effects.visitAll opening.sweep ⟨opening.start layout, 0, []⟩ views).visited =
      views.map (opening.runOf layout) := by
  rw [Effects.visited_visitAll opening.sweep _ distinct, List.nil_append]
  rfl

/-- The join makes the run of each vertex that it dispatches. -/
theorem visited_joined
    (opening : job.Opening context launch)
    (layout : IdLayout)
    (joins : (opening.joined layout).result = .ok ()) :
    (opening.joined layout).progress.visited =
      (opening.joined layout).progress.account.views.map
        (opening.runOf layout) := by
  have runs := congrArg Effects.visited (opening.effects_joined layout)
  rwa [opening.visited_visitAll_start layout
    (opening.nodup_views layout joins)] at runs

/-- Vertices that were not dispatched keep the entries that the job began with. -/
theorem entry?_written_of_not_mem
    (opening : job.Opening context launch)
    (layout : IdLayout)
    {id : VertexId}
    (apart : id ∉
      (opening.joined layout).progress.account.views.map View.id) :
    StateStore.entry? (opening.written layout) id =
      StateStore.entry? (job.startStore layout) id := by
  rw [written_eq]
  exact Effects.entry?_visitAll_of_not_mem opening.sweep _ apart

/-- The run for a dispatched vertex leaves what it does given the entry that the job
began with. -/
theorem entry?_written
    (opening : job.Opening context launch)
    (layout : IdLayout)
    (joins : (opening.joined layout).result = .ok ())
    {view : View}
    (member : view ∈ (opening.joined layout).progress.account.views) :
    StateStore.entry? (opening.written layout) view.id =
      (opening.runOf layout view).visit.leaves
        (StateStore.entry? (job.startStore layout) view.id) := by
  rw [written_eq]
  exact Effects.entry?_visitAll opening.sweep _
    (opening.nodup_views layout joins) member

/-- No siblings have been merged for the job yet. -/
theorem merged_written
    (opening : job.Opening context launch)
    (layout : IdLayout) :
    (opening.written layout).merged = false := by
  rw [written_eq, Effects.merged_visitAll]
  rfl

section Succeeded

variable
  [Mergeable σ]
  {opening : job.Opening context launch}
  {layout : IdLayout}
  {submitted : List View}
  {outcome : Outcome σ ρ}
  {tally : Tally}

/-- A job that succeeds has dispatched each vertex once. -/
theorem Succeeded.distinct
    (succeeded : opening.Succeeded layout submitted outcome tally) :
    (submitted.map View.id).Nodup := by
  rw [succeeded.submits]
  exact opening.nodup_views layout succeeded.joins

/-- A job that succeeds has seen siblings if a dispatched vertex was one. -/
theorem Succeeded.partitioned
    (succeeded : opening.Succeeded layout submitted outcome tally) :
    (opening.joined layout).progress.tally.sawPartitioned =
      submitted.any View.isPartitioned := by
  rw [succeeded.submits]
  exact (opening.covers_joined layout succeeded.joins).partitioned

/-- A job that succeeds has made one run for each vertex that it dispatched. -/
theorem Succeeded.visited
    (succeeded : opening.Succeeded layout submitted outcome tally) :
    outcome.visited.Perm (submitted.map (opening.runOf layout)) := by
  rw [succeeded.submits, ← opening.visited_joined layout succeeded.joins]
  exact succeeded.visits

/-- Each run of a job that succeeds has found the state that its vertex had when the job
began. -/
theorem Succeeded.ran
    (succeeded : opening.Succeeded layout submitted outcome tally)
    {visited : Visited σ ρ}
    (member : visited ∈ outcome.visited) :
    visited.visit = (opening.runOf layout visited.view).visit := by
  obtain ⟨view, -, rfl⟩ := List.mem_map.1 (succeeded.visited.mem_iff.1 member)
  rfl

/-- A job that succeeds has counted the runs that did not complete. -/
theorem Succeeded.failed
    (succeeded : opening.Succeeded layout submitted outcome tally) :
    tally.failed = (Visited.failing outcome.visited).length := by
  have counts := congrArg Tally.failed succeeded.counts
  have blank : (⟨opening.start layout, 0, []⟩ : Effects σ ρ).Counted := rfl
  have counted := blank.visitAll opening.sweep
    (opening.joined layout).progress.account.views
  rw [← opening.effects_joined layout] at counted
  have runs := ((succeeded.visits.filter fun run =>
    run.visit.ending ≠ .completed).map fun run => run.view.id).length_eq
  exact counts.trans (counted.trans runs.symm)

/-- The vertices whose runs fail are dispatched vertices for which the program does
not complete. -/
theorem Succeeded.mem_failing
    (succeeded : opening.Succeeded layout submitted outcome tally)
    {id : VertexId} :
    id ∈ Visited.failing outcome.visited ↔
      ∃ view ∈ submitted, view.id = id ∧
        (opening.runOf layout view).visit.ending ≠ .completed := by
  rw [Visited.failing, List.mem_map]
  constructor
  · rintro ⟨run, member, rfl⟩
    obtain ⟨made, missed⟩ := List.mem_filter.1 member
    obtain ⟨view, among, rfl⟩ :=
      List.mem_map.1 (succeeded.visited.mem_iff.1 made)
    exact ⟨view, among, rfl, of_decide_eq_true missed⟩
  · rintro ⟨view, among, rfl, missed⟩
    refine ⟨opening.runOf layout view, List.mem_filter.2 ⟨?_, ?_⟩, rfl⟩
    · exact succeeded.visited.mem_iff.2 (List.mem_map_of_mem among)
    · exact decide_eq_true missed

/-- A job that succeeds has run for the views that it dispatched. -/
theorem Succeeded.viewed
    (succeeded : opening.Succeeded layout submitted outcome tally) :
    (outcome.visited.map Visited.view).Perm submitted := by
  have runs := succeeded.visited.map Visited.view
  rw [List.map_map] at runs
  exact runs.trans (List.Perm.of_eq (List.map_id submitted))

/-- No vertex fails twice. -/
theorem Succeeded.nodup_failing
    (succeeded : opening.Succeeded layout submitted outcome tally) :
    (Visited.failing outcome.visited).Nodup := by
  have all := succeeded.viewed.map View.id
  rw [List.map_map] at all
  exact (List.filter_sublist.map (View.id ∘ Visited.view)).nodup
    (all.nodup_iff.2 succeeded.distinct)

/-- A job that succeeds and merges siblings has got through with it. -/
theorem Runs.merged_of_ok
    (runs : opening.Runs layout submitted outcome)
    (succeeded : outcome.result = .ok tally)
    (partitioned : (opening.joined layout).progress.tally.sawPartitioned) :
    outcome.store.merged = true := by
  cases runs with
  | clocked =>
      obtain ⟨-, -, inlined, now, released⟩ :=
        opening.release_of_execute layout succeeded
      rw [released] at succeeded ⊢
      obtain ⟨-, -, store, answered⟩ := release_of_ok succeeded
      rw [store, if_pos partitioned, StateStore.mergeSiblings_eq_mergeInOrder]
      exact StateStore.merged_mergeInOrder (answered partitioned)
  | interleaved actions pipeline _ follows ends =>
      obtain ⟨foreseen, concluded, store, -⟩ :=
        concluded_of_follow follows ends succeeded
      have seen := (opening.visitAll_of_foreseen layout foreseen).2
      rw [store]
      exact concluded.gathered (seen.trans partitioned)

/-- What a job yields when no wait runs out is one of the outcomes that it may have. -/
theorem Yields.exists_runs (yields : opening.Yields layout outcome) :
    ∃ submitted, opening.Runs layout submitted outcome := by
  cases yields with
  | clocked => exact ⟨_, .clocked⟩
  | interleaved actions pipeline _ _ follows ends =>
      exact ⟨_, .interleaved actions pipeline outcome follows ends⟩

/-- A job that succeeds leaves what the store written becomes when its siblings are
merged in some order, if a dispatched vertex was a sibling. -/
theorem Runs.exists_gathers
    (runs : opening.Runs layout submitted outcome)
    (ends : outcome.result = .ok tally) :
    ∃ order, (opening.written layout).Gathers
      (submitted.any View.isPartitioned) order outcome.store := by
  have succeeded := runs.succeeded ends
  rw [← succeeded.partitioned]
  cases partitioned : (opening.joined layout).progress.tally.sawPartitioned with
  | false =>
      refine ⟨_, List.Perm.refl _, fun merges => ?_, ?_⟩
      · cases merges
      · exact succeeded.plain partitioned
  | true =>
      obtain ⟨order, every, same⟩ := succeeded.merged partitioned
      have merged := runs.merged_of_ok ends partitioned
      exact ⟨order, StateStore.gathers_of_merged (opening.merged_written layout)
        every same merged⟩

/-- What a job has noted that has nothing left to do but to release its read context. -/
theorem noted_of_ready
    {pipeline : Pipeline σ ρ}
    {final : Account}
    (faithful : pipeline.Faithful opening.setup ⟨opening.start layout, 0, []⟩
      (.ok final))
    (ready : pipeline.IsReady)
    (released : context.releaseFault = none) :
    final = pipeline.account.drop pipeline.leftover := by
  have foretold := faithful.foretold
  rw [Pipeline.forecast, ready.1] at foretold
  have noted : opening.setup.released
      (pipeline.account.drop pipeline.leftover) = .ok final := foretold
  rw [released_eq, released] at noted
  exact (Except.ok.inj noted).symm

/-- The store of a job that has nothing left to do but to release its read context. -/
theorem same_written_of_ready
    {pipeline : Pipeline σ ρ}
    {final : Account}
    (foreseen : opening.foreseen = .ok final)
    (faithful : pipeline.Faithful opening.setup ⟨opening.start layout, 0, []⟩
      (.ok final))
    (ready : pipeline.IsReady)
    (released : context.releaseFault = none) :
    pipeline.effects.store.Same (opening.written layout) := by
  obtain ⟨drained, idle⟩ := faithful.idle ready.1
  have pooled := faithful.pooled (by rw [ready.1]; rfl)
  have noted := noted_of_ready faithful ready released
  have views : pipeline.account.views =
      (opening.joined layout).progress.account.views := by
    rw [← opening.views_of_foreseen layout foreseen, noted]
    rfl
  have same := (pooled.effects_of_idle drained idle).store
  rw [views] at same
  rw [written_eq]
  exact same

/-- A job that releases its read context, and can, ends: it has merged its siblings in the
order asked for, if a vertex was a sibling, unless merging them has no answer. -/
theorem exists_outcome_of_release
    {pipeline next : Pipeline σ ρ}
    {order : List VertexId}
    (acts : pipeline.act opening.setup (.release order) = some next)
    (released : context.releaseFault = none)
    (every : order.Perm (opening.written layout).siblings)
    (store : pipeline.effects.store.Same (opening.written layout)) :
    ∃ outcome, next.outcome? = some outcome ∧
      (outcome.result = .error .taskLost ∨
        ∃ tally, outcome.result = .ok tally ∧
          (opening.written layout).Gathers pipeline.account.tally.sawPartitioned
            order outcome.store) := by
  cases Pipeline.releases_of_release acts with
  | refused fault phase fails => cases released.symm.trans fails
  | plain phase _ whole =>
      refine ⟨_, rfl, Or.inr ⟨_, rfl, ?_⟩⟩
      rw [whole]
      refine ⟨every, fun merges => ?_, store⟩
      cases merges
  | merged phase _ perm partitioned =>
      refine ⟨_, rfl, ?_⟩
      by_cases answered :
          (pipeline.effects.store.mergeInOrder order).1.isSome
      · refine Or.inr ⟨_, if_pos answered, ?_⟩
        rw [partitioned]
        exact StateStore.gathers_of_merged (opening.merged_written layout)
          every (store.mergeInOrder order).2
          (StateStore.merged_mergeInOrder answered)
      · exact Or.inl (if_neg answered)

/-- A job whose streams can be joined, and whose read context can be released, can come to
merge its siblings in any order. It then succeeds unless merging them has no answer. -/
theorem exists_yields_in_order
    {order : List VertexId}
    (joins : (opening.joined layout).result = .ok ())
    (released : context.releaseFault = none)
    (every : order.Perm (opening.written layout).siblings) :
    ∃ submitted outcome, opening.Yields layout outcome ∧
      opening.Runs layout submitted outcome ∧
      (outcome.result = .error .taskLost ∨
        ∃ tally, outcome.result = .ok tally ∧
          (opening.written layout).Gathers (submitted.any View.isPartitioned)
            order outcome.store) := by
  have foreseen := opening.foreseen_eq layout
  rw [joins, Except.bind, released_eq, released] at foreseen
  have begins := opening.faithful_launched layout
  rw [foreseen] at begins
  obtain ⟨staffed, roomy⟩ := opening.setup_pos
  obtain ⟨actions, last, quiet, follows, faithful, ready⟩ :=
    begins.exists_follow_ready roomy staffed (fun awaits => by cases awaits)
      (fun result ended => by cases ended)
  have store := same_written_of_ready foreseen faithful ready released
  -- Whatever the order, it may be the one in which the siblings come.
  obtain ⟨next, acts⟩ := Option.isSome_iff_exists.1
    (ready.release opening.setup (every.trans store.siblings_perm.symm))
  have reaches : (opening.launched layout).follow opening.setup
      (actions ++ [.release order]) = some next := by
    rw [Pipeline.follow_concat, follows]
    exact acts
  have punctual : .expire ∉ actions ++ [.release order] := by
    intro member
    rcases List.mem_append.1 member with early | late
    · cases quiet _ early
    · cases List.mem_singleton.1 late
  obtain ⟨outcome, ends, result⟩ :=
    exists_outcome_of_release acts released every store
  have runs : opening.Runs layout next.account.views outcome :=
    .interleaved _ next outcome reaches ends
  refine ⟨_, outcome, .interleaved _ next outcome punctual reaches ends, runs,
    result.imp_right ?_⟩
  rintro ⟨tally, succeeds, gathers⟩
  refine ⟨tally, succeeds, ?_⟩
  rw [← (runs.succeeded succeeds).partitioned,
    ← (opening.visitAll_of_foreseen layout foreseen).2,
    noted_of_ready faithful ready released]
  exact gathers

end Succeeded

end Opening
end Job
end GraphSweep
