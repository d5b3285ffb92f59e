import GraphSweep.Proofs.Job.Streams
import GraphSweep.Proofs.Join.Leading
import GraphSweep.Proofs.Pipeline.Success

/-!
# What a job that succeeds has dispatched

A job that succeeds, whatever its schedule and whatever its streams deliver, has
handed its vertices to the workers in ascending order, each of them once, and the
counts of a tally tell what became of every item of the first stream. Only entries of
dispatched vertices have been written before siblings were merged.
-/

namespace GraphSweep

namespace Pipeline

variable
  {σ ρ : Type}
  {pipeline : Pipeline σ ρ}
  {outcome : Outcome σ ρ}
  {tally : Tally}

/-- A job that has come to something has ended with that. -/
theorem phase_of_outcome? (ends : pipeline.outcome? = some outcome) :
    pipeline.phase = .ended outcome.result := by
  unfold outcome? at ends
  split at ends
  · next ended =>
    cases ends
    exact ended
  · cases ends

/-- A job that has come to counts was not bound to end with an error. -/
theorem isDoomed_of_outcome?
    (ends : pipeline.outcome? = some outcome)
    (succeeded : outcome.result = .ok tally) :
    pipeline.phase.isDoomed = false := by
  rw [phase_of_outcome? ends, succeeded]
  rfl

end Pipeline

namespace Job

variable {σ ρ : Type}

/-- What releasing the read context leaves of a job that succeeds. -/
theorem release_of_ok
    [Mergeable σ]
    {context : ReadContext}
    {streams inlined now : Nat}
    {progress : Progress σ ρ}
    {tally : Tally}
    (succeeded : (release context streams progress inlined now).result =
      .ok tally) :
    tally.withoutInlined = Tally.withoutInlined { progress.tally with
        orphans := progress.tally.orphans + progress.leftover } ∧
      (release context streams progress inlined now).visited =
        progress.visited ∧
      ((release context streams progress inlined now).store =
        if progress.tally.sawPartitioned then progress.store.mergeSiblings.2
        else progress.store) ∧
      (progress.tally.sawPartitioned ->
        progress.store.mergeSiblings.1.isSome) := by
  unfold release at succeeded ⊢
  cases fails : context.releaseFault with
  | some fault =>
      rw [fails] at succeeded
      cases succeeded
  | none =>
      rw [fails] at succeeded
      dsimp only at succeeded ⊢
      by_cases partitioned : progress.tally.sawPartitioned
      · rw [if_pos partitioned] at succeeded ⊢
        rw [if_pos partitioned]
        cases merges : progress.store.mergeSiblings with
        | mk count store =>
            cases count with
            | none =>
                rw [merges] at succeeded
                cases succeeded
            | some count =>
                rw [merges] at succeeded
                cases succeeded
                exact ⟨rfl, rfl, rfl, fun _ => rfl⟩
      · rw [if_neg partitioned] at succeeded ⊢
        rw [if_neg partitioned]
        cases succeeded
        exact ⟨rfl, rfl, rfl, fun siblings => absurd siblings partitioned⟩

/-- A job that succeeds has released its read context in the end. -/
theorem conclude_of_ok
    [Mergeable σ]
    {job : Job σ ρ}
    {context : ReadContext}
    {streams : Nat}
    {start : StateStore σ}
    {timeline : Timeline σ ρ}
    {progress : Progress σ ρ}
    {tally : Tally}
    (succeeded : (job.conclude context streams start timeline progress).result =
      .ok tally) :
    ∃ inlined now, job.conclude context streams start timeline progress =
      release context streams progress inlined now := by
  rcases job.conclude_cases context streams start timeline progress with
    ⟨now, component, given⟩ | released
  · rw [given] at succeeded
    cases succeeded
  · exact released

namespace Opening

variable
  {job : Job σ ρ}
  {context : ReadContext}
  {launch : Launch}

/-- The outcomes that the job may have, whether or not one of its waits runs out,
each with the views that the join has handed to the workers by then, in order. -/
inductive Runs
    [Mergeable σ]
    (opening : job.Opening context launch)
    (layout : IdLayout) : List View -> Outcome σ ρ -> Prop
  | clocked :
      Runs opening layout
        ((opening.followed layout).timeline.submitted.map Visited.view)
        (job.execute layout context launch)
  | interleaved
      (actions : List Pipeline.Action)
      (pipeline : Pipeline σ ρ)
      (outcome : Outcome σ ρ)
      (follows : (opening.launched layout).follow opening.setup actions =
        some pipeline)
      (ends : pipeline.outcome? = some outcome) :
      Runs opening layout pipeline.account.views outcome

/-- A job has succeeded with what its join comes to: it has dispatched the vertices
that the join does, and merged the siblings in some order if there were any. -/
structure Succeeded
    [Mergeable σ]
    (opening : job.Opening context launch)
    (layout : IdLayout)
    (submitted : List View)
    (outcome : Outcome σ ρ)
    (tally : Tally) : Prop where
  joins : (opening.joined layout).result = .ok ()
  submits : submitted = (opening.joined layout).progress.account.views
  counts : tally.withoutInlined =
    Tally.withoutInlined { (opening.joined layout).progress.tally with
      orphans := (opening.joined layout).progress.tally.orphans +
        (opening.joined layout).progress.leftover }
  visits : outcome.visited.Perm (opening.joined layout).progress.visited
  merged : (opening.joined layout).progress.tally.sawPartitioned ->
    ∃ order, order.Perm (opening.joined layout).progress.store.siblings ∧
      outcome.store.Same
        ((opening.joined layout).progress.store.mergeInOrder order).2
  plain : (opening.joined layout).progress.tally.sawPartitioned = false ->
    outcome.store.Same (opening.joined layout).progress.store

section Succeeded

variable
  [Mergeable σ]
  {opening : job.Opening context launch}
  {layout : IdLayout}
  {tally : Tally}

/-- A job on the clock that succeeds has joined its streams in time and released its
read context. -/
theorem release_of_execute
    (opening : job.Opening context launch)
    (layout : IdLayout)
    (succeeded : (job.execute layout context launch).result = .ok tally) :
    (opening.followed layout).stalled = none ∧
      (opening.joined layout).result = .ok () ∧
      ∃ inlined now, job.execute layout context launch =
        release context (opening.others.length + 1)
          (opening.joined layout).progress inlined now := by
  cases onTime : (opening.followed layout).stalled with
  | some stream =>
      rw [opening.execute_of_stalled layout onTime] at succeeded
      cases succeeded
  | none =>
      cases joins : (opening.joined layout).result with
      | error error =>
          rw [opening.execute_of_failed layout onTime joins] at succeeded
          cases succeeded
      | ok _ =>
          have concludes := opening.execute_of_joined layout onTime joins
          rw [concludes] at succeeded ⊢
          exact ⟨rfl, rfl, conclude_of_ok succeeded⟩

/-- A job on the clock that succeeds does so with what its join comes to. -/
theorem succeeded_of_execute
    (succeeded : (job.execute layout context launch).result = .ok tally) :
    opening.Succeeded layout
      ((opening.followed layout).timeline.submitted.map Visited.view)
      (job.execute layout context launch) tally := by
  obtain ⟨onTime, joins, inlined, now, released⟩ :=
    opening.release_of_execute layout succeeded
  have submits := Timeline.submitted_follow job.pace _ onTime
  have visits := (opening.ready layout).submitted_run opening.sweep
    opening.probe.ending opening.probe.items
  rw [released] at succeeded ⊢
  obtain ⟨counts, visited, store, -⟩ := release_of_ok succeeded
  refine ⟨joins, ?_, counts, visited ▸ List.Perm.refl _, ?_, ?_⟩
  · rw [followed, submits]
    exact congrArg (List.map Visited.view) visits.symm
  · intro partitioned
    refine ⟨_, List.Perm.refl _, ?_⟩
    rw [store, if_pos partitioned, StateStore.mergeSiblings_eq_mergeInOrder]
  · intro whole
    rw [store, if_neg (by simp [whole])]

/-- An interleaving that ends well has kept to its forecast. -/
theorem concluded_of_follow
    {actions : List Pipeline.Action}
    {pipeline : Pipeline σ ρ}
    {outcome : Outcome σ ρ}
    (follows : (opening.launched layout).follow opening.setup actions =
      some pipeline)
    (ends : pipeline.outcome? = some outcome)
    (succeeded : outcome.result = .ok tally) :
    opening.foreseen = .ok (pipeline.account.drop pipeline.leftover) ∧
      pipeline.Concluded opening.sweep ⟨opening.start layout, 0, []⟩ tally ∧
      outcome.store = pipeline.effects.store ∧
      outcome.visited = pipeline.effects.visited := by
  have sound := Pipeline.isDoomed_of_outcome? ends succeeded
  have faithful := (opening.faithful_launched layout).follow_of_sound follows
    sound
  rcases ends_cases faithful ends with
    ⟨error, -, failed⟩ | ⟨counts, foreseen, concluded, ended, store, visited⟩
  · rw [failed] at succeeded
    cases succeeded
  · rw [ended] at succeeded
    cases succeeded
    exact ⟨foreseen, concluded, store, visited⟩

/-- A job that ends well in an interleaving does so with what its join comes to. -/
theorem succeeded_of_follow
    {actions : List Pipeline.Action}
    {pipeline : Pipeline σ ρ}
    {outcome : Outcome σ ρ}
    (follows : (opening.launched layout).follow opening.setup actions =
      some pipeline)
    (ends : pipeline.outcome? = some outcome)
    (succeeded : outcome.result = .ok tally) :
    opening.Succeeded layout pipeline.account.views outcome tally := by
  obtain ⟨foreseen, concluded, store, visited⟩ :=
    concluded_of_follow follows ends succeeded
  obtain ⟨joins, -, noted⟩ := opening.joined_of_ok layout foreseen
  obtain ⟨effects, seen⟩ := opening.visitAll_of_foreseen layout foreseen
  have runs : Effects.visitAll opening.sweep ⟨opening.start layout, 0, []⟩
      pipeline.account.views =
      (opening.joined layout).progress.effects := effects
  have partitioned : pipeline.account.tally.sawPartitioned =
      (opening.joined layout).progress.tally.sawPartitioned := seen
  have submits := congrArg Account.views noted
  refine ⟨joins, submits, ?_, ?_, ?_, ?_⟩
  · have failed : pipeline.effects.failed =
        (opening.joined layout).progress.tally.failed :=
      concluded.failed.trans (congrArg Effects.failed runs)
    rw [concluded.tally, Pipeline.tally, noted, failed]
    rfl
  · rw [visited]
    exact concluded.visited.trans
      (List.Perm.of_eq (congrArg Effects.visited runs))
  · intro siblings
    obtain ⟨order, perm, merged⟩ :=
      concluded.merged (partitioned.trans siblings)
    rw [runs] at perm merged
    rw [store]
    exact ⟨order, perm, merged⟩
  · intro whole
    have plain := concluded.plain (partitioned.trans whole)
    rw [runs] at plain
    rw [store]
    exact plain

/-- Whatever the schedule, a job that succeeds does so with what its join comes
to. -/
theorem Runs.succeeded
    {submitted : List View}
    {outcome : Outcome σ ρ}
    (runs : opening.Runs layout submitted outcome)
    (succeeded : outcome.result = .ok tally) :
    opening.Succeeded layout submitted outcome tally := by
  cases runs with
  | clocked => exact succeeded_of_execute succeeded
  | interleaved actions pipeline _ follows ends =>
      exact succeeded_of_follow follows ends succeeded

/-- A job that succeeds has released its read context. -/
theorem Runs.released
    {submitted : List View}
    {outcome : Outcome σ ρ}
    (runs : opening.Runs layout submitted outcome)
    (succeeded : outcome.result = .ok tally) :
    context.releaseFault = none := by
  cases runs with
  | clocked =>
      obtain ⟨-, -, inlined, now, released⟩ :=
        opening.release_of_execute layout succeeded
      rw [released, release] at succeeded
      cases fails : context.releaseFault with
      | none => rfl
      | some fault =>
          rw [fails] at succeeded
          cases succeeded
  | interleaved actions pipeline _ follows ends =>
      have foreseen := (concluded_of_follow follows ends succeeded).1
      exact (opening.joined_of_ok layout foreseen).2.1

/-- A job that succeeds has come to note what was foreseen. -/
theorem Runs.foreseen
    {submitted : List View}
    {outcome : Outcome σ ρ}
    (runs : opening.Runs layout submitted outcome)
    (succeeded : outcome.result = .ok tally) :
    opening.foreseen =
      .ok (opening.joined layout).progress.course.close := by
  rw [opening.foreseen_eq layout, (runs.succeeded succeeded).joins, Except.bind,
    released_eq, runs.released succeeded]

end Succeeded

/-- A join that succeeds has come to the end of its course. -/
theorem course_joined
    (opening : job.Opening context launch)
    (layout : IdLayout)
    (joins : (opening.joined layout).result = .ok ()) :
    Course.run job.config.policy opening.probe.ending
        ⟨Account.blank, opening.lanes⟩ opening.primary.delivered =
      .ok (opening.joined layout).progress.course := by
  have follows : (opening.ready layout).Follows opening.sweep
      ⟨opening.start layout, 0, []⟩ := rfl
  have course := (Progress.run_eq_course follows opening.probe.ending
    opening.probe.items).1
  have result : (Progress.run opening.sweep (opening.ready layout)
      opening.probe.ending opening.probe.items).result = .ok () := joins
  have items : opening.probe.items = opening.primary.delivered := by
    rw [probe, KeyStream.feed_eq]
  rw [result] at course
  rw [← items]
  exact course.symm

/-- A join that succeeds has noted all that the first stream delivers. -/
theorem covers_joined
    (opening : job.Opening context launch)
    (layout : IdLayout)
    (joins : (opening.joined layout).result = .ok ()) :
    (opening.joined layout).progress.account.Covers
      opening.primary.delivered :=
  Account.Covers.run Account.Covers.blank (opening.course_joined layout joins)

/-- Vertices are dispatched in ascending order, each at most once. Whatever the
streams deliver and however its parts interleave, a job that succeeds has handled
exactly the items of the first stream whose vertices come after those of all items
before them. It has handed those that exist to the workers, in order, and has counted
the rest of them as deleted and all other items as out of order. Before siblings were
merged, only entries of vertices handed to the workers had been written. -/
theorem dispatches_in_order
    [Mergeable σ]
    (opening : job.Opening context launch)
    (layout : IdLayout)
    (submitted : List View)
    (outcome : Outcome σ ρ)
    (tally : Tally)
    (runs : opening.Runs layout submitted outcome)
    (succeeded : outcome.result = .ok tally) :
    let delivered := opening.primary.delivered
    let handled := Item.leading delivered
    (submitted.map View.id).Pairwise (· < ·) ∧
    (∀ item ∈ handled, item.failures = []) ∧
    submitted.map View.id = (handled.filter Item.isLive).map Item.id ∧
    tally.dispatched = (handled.filter Item.isLive).length ∧
    tally.deleted = (handled.filter fun item => !item.isLive).length ∧
    tally.disordered + handled.length = delivered.length ∧
    tally.dispatched + tally.deleted + tally.disordered = delivered.length ∧
    (outcome.visited.map Visited.view).Perm submitted ∧
    ∃ written : StateStore σ,
      (∀ id ∉ submitted.map View.id,
        written.entry? id = StateStore.entry? (job.startStore layout) id) ∧
      if submitted.any View.isPartitioned then
        ∃ order, order.Perm written.siblings ∧
          outcome.store.Same (written.mergeInOrder order).2
      else outcome.store.Same written := by
  intro delivered handled
  obtain ⟨joins, submits, counts, visits, merged, plain⟩ :=
    runs.succeeded succeeded
  have covers := opening.covers_joined layout joins
  have views : submitted.map View.id =
      (handled.filter Item.isLive).map Item.id :=
    submits ▸ covers.views
  have dispatched : tally.dispatched =
      (handled.filter Item.isLive).length := by
    have counted := congrArg Tally.dispatched counts
    have noted := counted.trans covers.dispatched
    rw [← submits, ← List.length_map, views, List.length_map] at noted
    exact noted
  have deleted : tally.deleted =
      (handled.filter fun item => !item.isLive).length :=
    (congrArg Tally.deleted counts).trans covers.deleted
  have disordered : tally.disordered + handled.length = delivered.length := by
    have counted := congrArg Tally.disordered counts
    have noted := covers.disordered
    exact (congrArg (· + handled.length) counted).trans noted
  have split := List.length_eq_length_filter_add (l := handled) Item.isLive
  refine ⟨?_, covers.readable, views, dispatched, deleted, disordered, ?_, ?_,
    (opening.joined layout).progress.store, ?_, ?_⟩
  · rw [views, List.pairwise_map]
    exact List.Pairwise.filter _ (Item.ascend_leading delivered)
  · omega
  · rw [submits]
    exact visits.map Visited.view
  · intro id apart
    have store := congrArg Effects.store (opening.effects_joined layout)
    rw [submits] at apart
    have kept := Effects.entry?_visitAll_of_not_mem opening.sweep
      ⟨opening.start layout, 0, []⟩ apart
    rw [← store] at kept
    exact kept
  · have partitioned : submitted.any View.isPartitioned =
        (opening.joined layout).progress.tally.sawPartitioned := by
      rw [submits]
      exact covers.partitioned.symm
    rw [partitioned]
    split
    · next siblings => exact merged siblings
    · next whole => exact plain (by simpa using whole)

end Opening
end Job

namespace TwoStreams

/-- The vertices of the first stream out of order, one of them twice. -/
def unordered : List Read :=
  reads
    [ (4, [Relation.markerEntry]), (9, [Relation.markerEntry]),
      (8, [Relation.markerEntry]), (9, [Relation.markerEntry]), (12, [plain]),
      (16, [Relation.markerEntry]) ]

/-- The job over the vertices out of order. -/
def disordered :
    (job .fail).Opening (context unordered other) Launch.ordinary :=
  opening .fail unordered other

theorem two_streams_dispatch_in_order :
    ∃ submitted outcome tally,
      disordered.Runs IdLayout.standard submitted outcome ∧
      outcome.result = .ok tally ∧
      submitted.map View.id = [4, 9, 16] ∧
      tally.deleted = 1 ∧
      tally.disordered = 2 ∧
      (outcome.visited.map Visited.view).Perm submitted := by
  have handled : Item.leading disordered.primary.delivered =
      [⟨4, [Relation.markerEntry]⟩, ⟨9, [Relation.markerEntry]⟩,
        ⟨12, [plain]⟩, ⟨16, [Relation.markerEntry]⟩] := by
    decide +kernel
  have succeeded : ((job .fail).execute IdLayout.standard
      (context unordered other) Launch.ordinary).result =
        .ok ⟨3, 1, 0, 1, 2, 0, true⟩ := by
    decide +kernel
  have runs : disordered.Runs IdLayout.standard _ _ :=
    Job.Opening.Runs.clocked
  obtain ⟨-, -, ids, -, deleted, -, -, once, -⟩ :=
    Job.Opening.dispatches_in_order disordered IdLayout.standard _ _ _ runs
      succeeded
  rw [handled] at ids deleted
  exact ⟨_, _, _, runs, succeeded, ids, rfl, rfl, once⟩

end TwoStreams
end GraphSweep
