import GraphSweep.Proofs.Job.Stored

/-!
# A failing vertex affects no other

A run of the program that fails or crashes takes its state from its own vertex, and
from a partitioned vertex as a whole, whatever it had written before. Everything else
is as in a run of the job in which the program completes for the vertices where it
failed: the same vertices are dispatched with the same views, the counts are the same,
and all vertices of which no sibling failed are answered for alike.
-/

namespace GraphSweep

/-- A program that completes for the vertices where another one fails, and does the
same for all others. -/
structure Program.Mends
    {σ ρ : Type}
    (failing : List VertexId)
    (program mended : Program σ ρ) : Prop where
  completes : ∀ view own, view.id ∈ failing ->
    (mended view own).ending = .completed
  elsewhere : ∀ view own, view.id ∉ failing ->
    mended view own = program view own

/-- No sibling of a vertex has failed, and neither has the vertex itself. -/
def Outcome.Spares
    {σ ρ : Type}
    (outcome : Outcome σ ρ)
    (id : VertexId) : Prop :=
  ∀ failed ∈ Visited.failing outcome.visited, ¬outcome.store.Kin failed id

namespace Job

variable {σ ρ : Type}

/-- The job when it runs another program. -/
def running (job : Job σ ρ) (program : Program σ ρ) : Job σ ρ :=
  { job with program := program }

namespace Opening

variable
  {job : Job σ ρ}
  {context : ReadContext}
  {launch : Launch}

/-- The job gets under way with another program, too. -/
def running
    (opening : job.Opening context launch)
    (program : Program σ ρ) :
    (job.running program).Opening context launch where
  initializer := opening.initializer
  primary := opening.primary
  others := opening.others
  accepted := opening.accepted
  initialized := opening.initialized
  opensProbe := opening.opensProbe
  opensAll := opening.opensAll
  queueFits := opening.queueFits
  workersFit := opening.workersFit
  kept := opening.kept

/-- The program has no say in what a join that succeeds notes. -/
theorem joined_running
    (opening : job.Opening context launch)
    (layout : IdLayout)
    (program : Program σ ρ)
    {final : Account}
    (foreseen : opening.foreseen = .ok final) :
    ((opening.running program).joined layout).result = .ok () ∧
      ((opening.running program).joined layout).progress.course.close =
        (opening.joined layout).progress.course.close := by
  have there : (opening.running program).foreseen = .ok final := foreseen
  obtain ⟨joins, -, noted⟩ :=
    (opening.running program).joined_of_ok layout there
  exact ⟨joins, noted.symm.trans (opening.joined_of_ok layout foreseen).2.2⟩

/-- So the same views are dispatched. -/
theorem views_running
    (opening : job.Opening context launch)
    (layout : IdLayout)
    (program : Program σ ρ)
    {final : Account}
    (foreseen : opening.foreseen = .ok final) :
    ((opening.running program).joined layout).progress.account.views =
      (opening.joined layout).progress.account.views := by
  have there : (opening.running program).foreseen = .ok final := foreseen
  rw [← opening.views_of_foreseen layout foreseen,
    (opening.running program).views_of_foreseen layout there]

section Isolation

variable
  [Mergeable σ]
  {opening : job.Opening context launch}
  {layout : IdLayout}
  {submitted : List View}
  {outcome : Outcome σ ρ}
  {tally : Tally}

/-- A vertex that fails has an entry without a state before siblings are merged. -/
theorem Succeeded.entry?_written_of_failing
    (succeeded : opening.Succeeded layout submitted outcome tally)
    {id : VertexId}
    (fails : id ∈ Visited.failing outcome.visited) :
    StateStore.entry? (opening.written layout) id = some none := by
  obtain ⟨view, member, rfl, missed⟩ := succeeded.mem_failing.1 fails
  rw [opening.entry?_written layout succeeded.joins (succeeded.submits ▸ member),
    Visit.leaves]
  cases ending : (opening.runOf layout view).visit.ending with
  | completed => exact absurd ending missed
  | failed | crashed => rfl

/-- A vertex of which a sibling fails has no state in the end. -/
theorem answers_of_failing
    {order : List VertexId}
    (succeeded : opening.Succeeded layout submitted outcome tally)
    (gathers : (opening.written layout).Gathers
      (submitted.any View.isPartitioned) order outcome.store)
    {id other : VertexId}
    (fails : id ∈ Visited.failing outcome.visited)
    (kin : outcome.store.Kin id other) :
    outcome.store.answers other = (none, true, true) := by
  have lacking := succeeded.entry?_written_of_failing fails
  have merges : VertexId.isPartitioned id = true ->
      submitted.any View.isPartitioned = true := by
    obtain ⟨view, member, rfl, -⟩ := succeeded.mem_failing.1 fails
    exact fun partitioned => List.any_eq_true.2 ⟨view, member, partitioned⟩
  rw [StateStore.Kin, gathers.layout] at kin
  rw [gathers.answers (opening.merged_written layout),
    gathers.gatheredEntry_of_lacking kin merges lacking]
  rfl

/-- What a job that succeeds has noted, its failures apart. -/
theorem Succeeded.counts_close
    (succeeded : opening.Succeeded layout submitted outcome tally) :
    { tally.withoutInlined with failed := 0 } =
      (opening.joined layout).progress.course.close.tally.withoutInlined :=
  congrArg (fun counts : Tally => { counts with failed := 0 })
    succeeded.counts

section Mended

variable
  {program : Program σ ρ}
  {final : Account}
  {submittedOther : List View}
  {outcomeOther : Outcome σ ρ}
  {tallyOther : Tally}

/-- Where the program completes instead of failing, the same views are dispatched. -/
theorem submits_of_mended
    (foreseen : opening.foreseen = .ok final)
    (succeeded : opening.Succeeded layout submitted outcome tally)
    (mended : (opening.running program).Succeeded layout submittedOther
      outcomeOther tallyOther) :
    submittedOther = submitted := by
  rw [succeeded.submits, mended.submits]
  exact opening.views_running layout program foreseen

omit [Mergeable σ] in
/-- A vertex that has not failed is run for as before. -/
theorem runOf_of_mended
    (opening : job.Opening context launch)
    (layout : IdLayout)
    (mends : job.program.Mends (Visited.failing outcome.visited) program)
    {view : View}
    (spared : view.id ∉ Visited.failing outcome.visited) :
    (opening.running program).runOf layout view = opening.runOf layout view := by
  rw [runOf, runOf]
  exact congrArg (Visited.mk view) (mends.elsewhere view _ spared)

/-- Where the program completes instead of failing, no vertex fails. -/
theorem failing_of_mended
    (foreseen : opening.foreseen = .ok final)
    (succeeded : opening.Succeeded layout submitted outcome tally)
    (mended : (opening.running program).Succeeded layout submittedOther
      outcomeOther tallyOther)
    (mends : job.program.Mends (Visited.failing outcome.visited) program) :
    Visited.failing outcomeOther.visited = [] := by
  rw [List.eq_nil_iff_forall_not_mem]
  intro id fails
  obtain ⟨view, member, rfl, missed⟩ := mended.mem_failing.1 fails
  rw [submits_of_mended foreseen succeeded mended] at member
  by_cases failed : view.id ∈ Visited.failing outcome.visited
  · exact missed (mends.completes view _ failed)
  · rw [runOf_of_mended opening layout mends failed] at missed
    exact failed (succeeded.mem_failing.2 ⟨view, member, rfl, missed⟩)

omit [Mergeable σ] in
/-- A vertex that has not failed has the same entry before siblings are merged. -/
theorem entry?_written_of_mended
    (foreseen : opening.foreseen = .ok final)
    (mends : job.program.Mends (Visited.failing outcome.visited) program)
    {id : VertexId}
    (spared : id ∉ Visited.failing outcome.visited) :
    StateStore.entry? ((opening.running program).written layout) id =
      StateStore.entry? (opening.written layout) id := by
  have joins := (opening.joined_of_ok layout foreseen).1
  have joinsOther := (opening.joined_running layout program foreseen).1
  have views := opening.views_running layout program foreseen
  by_cases dispatched :
      id ∈ (opening.joined layout).progress.account.views.map View.id
  · obtain ⟨view, member, rfl⟩ := List.mem_map.1 dispatched
    rw [opening.entry?_written layout joins member,
      (opening.running program).entry?_written layout joinsOther
        (views ▸ member),
      runOf_of_mended opening layout mends spared]
    rfl
  · rw [opening.entry?_written_of_not_mem layout dispatched,
      (opening.running program).entry?_written_of_not_mem layout
        (views ▸ dispatched)]
    rfl

/-- The siblings of a vertex of which none has failed have the same entries. -/
theorem entry?_written_of_spared
    {order : List VertexId}
    (foreseen : opening.foreseen = .ok final)
    (mends : job.program.Mends (Visited.failing outcome.visited) program)
    (gathers : (opening.written layout).Gathers
      (submitted.any View.isPartitioned) order outcome.store)
    {id : VertexId}
    (spared : outcome.Spares id)
    (other : VertexId)
    (kin : (opening.written layout).Kin other id) :
    StateStore.entry? (opening.written layout) other =
      StateStore.entry? ((opening.running program).written layout) other := by
  rw [StateStore.Kin, ← gathers.layout] at kin
  exact (entry?_written_of_mended foreseen mends
    fun fails => spared other fails kin).symm

/-- A program that completes leaves no entry where one that fails leaves none. -/
theorem isSome_written_of_mended
    (foreseen : opening.foreseen = .ok final)
    (succeeded : opening.Succeeded layout submitted outcome tally)
    (mends : job.program.Mends (Visited.failing outcome.visited) program)
    (id : VertexId)
    (held : (StateStore.entry? ((opening.running program).written layout)
      id).isSome) :
    (StateStore.entry? (opening.written layout) id).isSome := by
  by_cases fails : id ∈ Visited.failing outcome.visited
  · rw [succeeded.entry?_written_of_failing fails]
    rfl
  · rwa [entry?_written_of_mended foreseen mends fails] at held

/-- Where the program completes instead of failing, all other counts are the same. -/
theorem counts_of_mended
    (foreseen : opening.foreseen = .ok final)
    (succeeded : opening.Succeeded layout submitted outcome tally)
    (mended : (opening.running program).Succeeded layout submittedOther
      outcomeOther tallyOther)
    (mends : job.program.Mends (Visited.failing outcome.visited) program) :
    tallyOther.withoutInlined = { tally.withoutInlined with failed := 0 } := by
  have noted := (opening.joined_running layout program foreseen).2
  have failed : tallyOther.failed = 0 := by
    rw [mended.failed, failing_of_mended foreseen succeeded mended mends]
    rfl
  calc tallyOther.withoutInlined
      = { tallyOther.withoutInlined with failed := 0 } :=
        congrArg (fun count => { tallyOther.withoutInlined with failed := count })
          failed
    _ = { tally.withoutInlined with failed := 0 } := by
        rw [succeeded.counts_close, mended.counts_close, noted]

omit [Mergeable σ] in
/-- The layout of the store does not depend on the program. -/
theorem layout_written_running
    (opening : job.Opening context launch)
    (layout : IdLayout)
    (program : Program σ ρ) :
    (opening.written layout).layout =
      ((opening.running program).written layout).layout := by
  rw [layout_written, layout_written]
  rfl

/-- A vertex of which no sibling has failed is answered for as before. -/
theorem answers_of_mended
    {order others : List VertexId}
    (foreseen : opening.foreseen = .ok final)
    (mends : job.program.Mends (Visited.failing outcome.visited) program)
    (gathers : (opening.written layout).Gathers
      (submitted.any View.isPartitioned) order outcome.store)
    (gathersOther : ((opening.running program).written layout).Gathers
      (submitted.any View.isPartitioned) others outcomeOther.store)
    {id : VertexId}
    (spared : outcome.Spares id)
    (settled : VertexId.isPartitioned id = false ∨
      outcome.store.OrdersAlike id order others ∨
      ∃ combine : σ -> σ -> σ, Mergeable.Commutes combine) :
    outcomeOther.store.answers id = outcome.store.answers id := by
  have ordered : outcome.store.OrdersAlike id order others ->
      (opening.written layout).OrdersAlike id order others := by
    simp only [StateStore.OrdersAlike, StateStore.Kin, gathers.layout]
    exact fun alike => alike
  rw [gathers.answers (opening.merged_written layout),
    gathersOther.answers ((opening.running program).merged_written layout),
    StateStore.gatheredEntry_congr
      (opening.layout_written_running layout program)
      (entry?_written_of_spared foreseen mends gathers spared) gathers gathersOther
      (settled.imp_right fun either => either.imp_left ordered)]

/-- Where the program completes instead of failing, a job can come to merge its siblings
as they have been merged, those of vertices that failed apart. -/
theorem exists_mended_in_order
    {order : List VertexId}
    (foreseen : opening.foreseen = .ok final)
    (succeeded : opening.Succeeded layout submitted outcome tally)
    (mends : job.program.Mends (Visited.failing outcome.visited) program)
    (gathers : (opening.written layout).Gathers
      (submitted.any View.isPartitioned) order outcome.store) :
    ∃ others submittedOther outcomeOther,
      (∀ id, outcome.Spares id -> outcome.store.OrdersAlike id order others) ∧
      (opening.running program).Yields layout outcomeOther ∧
      (opening.running program).Runs layout submittedOther outcomeOther ∧
      (outcomeOther.result = .error .taskLost ∨
        ∃ tallyOther, outcomeOther.result = .ok tallyOther ∧
          ((opening.running program).written layout).Gathers
            (submitted.any View.isPartitioned) others outcomeOther.store) := by
  obtain ⟨others, every, alike⟩ := StateStore.exists_ordersAlike
    (opening.layout_written_running layout program)
    (isSome_written_of_mended foreseen succeeded mends) gathers.every
  obtain ⟨submittedOther, outcomeOther, yields, runs, ending⟩ :=
    exists_yields_in_order (opening.joined_running layout program foreseen).1
      (opening.joined_of_ok layout foreseen).2.1 every
  refine ⟨others, submittedOther, outcomeOther, fun id spared => ?_, yields, runs,
    ending.imp_right ?_⟩
  · have ordered := alike id
      (entry?_written_of_spared foreseen mends gathers spared)
    simp only [StateStore.OrdersAlike, StateStore.Kin, gathers.layout]
    exact ordered
  · rintro ⟨tallyOther, ends, gathersOther⟩
    rw [submits_of_mended foreseen succeeded (runs.succeeded ends)]
      at gathersOther
    exact ⟨tallyOther, ends, gathersOther⟩

end Mended

end Isolation

/-- What a job in which the program has failed for some vertices shares with one in
which it completes for them. -/
structure Spares
    [Mergeable σ]
    (opening : job.Opening context launch)
    (layout : IdLayout)
    (program : Program σ ρ)
    (submitted submittedOther : List View)
    (outcome outcomeOther : Outcome σ ρ)
    (tally tallyOther : Tally) : Prop where
  /-- The same views are dispatched, in the same order. -/
  dispatched : submittedOther = submitted
  /-- So every run is made for the same view. -/
  viewed : (outcomeOther.visited.map Visited.view).Perm
    (outcome.visited.map Visited.view)
  /-- Every other vertex is run for with the same state and does the same. -/
  ran : ∀ run ∈ outcome.visited,
    run.view.id ∉ Visited.failing outcome.visited -> run ∈ outcomeOther.visited
  counts : tallyOther.withoutInlined =
    { tally.withoutInlined with failed := 0 }
  /-- Siblings have been merged in some order, if at all. -/
  merged : ∃ others, ((opening.running program).written layout).Gathers
    (submitted.any View.isPartitioned) others outcomeOther.store
  /-- A vertex of which no sibling has failed has the same answers. It may depend on
  the order in which its siblings are merged what they are. -/
  answers : ∀ order others,
    (opening.written layout).Gathers (submitted.any View.isPartitioned) order
      outcome.store ->
    ((opening.running program).written layout).Gathers
      (submitted.any View.isPartitioned) others outcomeOther.store ->
    ∀ id, outcome.Spares id ->
      (VertexId.isPartitioned id = false ∨
        outcome.store.OrdersAlike id order others ∨
        ∃ combine : σ -> σ -> σ, Mergeable.Commutes combine) ->
      outcomeOther.store.answers id = outcome.store.answers id

/-- Failures are isolated. In a job that succeeds, whatever its schedule, the vertices
that fail are the dispatched ones for which the program does not complete, and they
are counted once each. A vertex of which a sibling fails, or which fails itself, ends
without a state, whatever has been written for it. Now let the program complete for these
vertices instead. The job can then come to merge its siblings as they have been merged,
those of vertices that failed apart, and if it succeeds, every other vertex ends with
exactly the state that it has. Whenever it succeeds, whatever its schedule, all else is as
before, and the state of a vertex may differ only if its siblings are merged in another
order. -/
theorem failures_are_isolated
    [Mergeable σ]
    (opening : job.Opening context launch)
    (layout : IdLayout)
    (submitted : List View)
    (outcome : Outcome σ ρ)
    (tally : Tally)
    (runs : opening.Runs layout submitted outcome)
    (ends : outcome.result = .ok tally) :
    let failing := Visited.failing outcome.visited
    failing.Nodup ∧
    (∀ id, id ∈ failing ↔ ∃ view ∈ submitted, view.id = id ∧
      (opening.runOf layout view).visit.ending ≠ .completed) ∧
    tally.failed = failing.length ∧
    (tally.hadFailures ↔ failing ≠ []) ∧
    (∀ id ∈ failing, ∀ other, outcome.store.Kin id other ->
      outcome.store.answers other = (none, true, true)) ∧
    (∃ order, (opening.written layout).Gathers
      (submitted.any View.isPartitioned) order outcome.store) ∧
    ∀ program, job.program.Mends failing program ->
      (∀ order, (opening.written layout).Gathers
          (submitted.any View.isPartitioned) order outcome.store ->
        ∃ others submittedOther outcomeOther,
          (∀ id, outcome.Spares id ->
            outcome.store.OrdersAlike id order others) ∧
          (opening.running program).Yields layout outcomeOther ∧
          (opening.running program).Runs layout submittedOther outcomeOther ∧
          (outcomeOther.result = .error .taskLost ∨
            ∃ tallyOther, outcomeOther.result = .ok tallyOther ∧
              ((opening.running program).written layout).Gathers
                (submitted.any View.isPartitioned) others outcomeOther.store ∧
              ∀ id, outcome.Spares id ->
                outcomeOther.store.answers id = outcome.store.answers id)) ∧
      ∀ submittedOther outcomeOther tallyOther,
        (opening.running program).Runs layout submittedOther outcomeOther ->
        outcomeOther.result = .ok tallyOther ->
          opening.Spares layout program submitted submittedOther outcome
            outcomeOther tally tallyOther := by
  intro failing
  have succeeded := runs.succeeded ends
  have foreseen := runs.foreseen ends
  obtain ⟨order, gathers⟩ := runs.exists_gathers ends
  have failed := succeeded.failed
  refine ⟨succeeded.nodup_failing, fun id => succeeded.mem_failing, failed, ?_,
    ?_, ⟨order, gathers⟩, fun program mends => ⟨?_, ?_⟩⟩
  · rw [Tally.hadFailures, decide_eq_true_iff, failed, List.length_pos_iff]
  · intro id fails other kin
    exact answers_of_failing succeeded gathers fails kin
  · intro order gathered
    obtain ⟨others, submittedOther, outcomeOther, ordered, yields, runsOther,
      ending⟩ := exists_mended_in_order foreseen succeeded mends gathered
    refine ⟨others, submittedOther, outcomeOther, ordered, yields, runsOther,
      ending.imp_right ?_⟩
    rintro ⟨tallyOther, endsOther, gathersOther⟩
    exact ⟨tallyOther, endsOther, gathersOther, fun id spared =>
      answers_of_mended foreseen mends gathered gathersOther spared
        (Or.inr (Or.inl (ordered id spared)))⟩
  · intro submittedOther outcomeOther tallyOther runsOther endsOther
    have mended := runsOther.succeeded endsOther
    have same := submits_of_mended foreseen succeeded mended
    obtain ⟨others, gathersOther⟩ := runsOther.exists_gathers endsOther
    rw [same] at gathersOther
    refine ⟨same, ?_, ?_, counts_of_mended foreseen succeeded mended mends,
      ⟨others, gathersOther⟩, ?_⟩
    · exact mended.viewed.trans (same ▸ succeeded.viewed.symm)
    · intro run made spared
      obtain ⟨view, member, rfl⟩ :=
        List.mem_map.1 (succeeded.visited.mem_iff.1 made)
      have outside : view.id ∉ Visited.failing outcome.visited := spared
      rw [← opening.runOf_of_mended layout mends outside]
      exact mended.visited.mem_iff.2 (List.mem_map_of_mem (same ▸ member))
    · intro first second gathered gatheredOther id spared settled
      exact answers_of_mended foreseen mends gathered gatheredOther spared settled

end Opening
end Job

namespace TwoStreams

/-- The usual program, but for a sibling for which it fails after writing a state. -/
def faulty : Program UInt64 Unit := fun view own =>
  if view.id = 9 then { Visit.write 5 with ending := .failed }
  else (job .fail).program view own

/-- The usual program mends the faulty one. -/
theorem mends_faulty : faulty.Mends [9] (job .fail).program := by
  refine ⟨fun view own _ => rfl, fun view own spared => ?_⟩
  have elsewhere : view.id ≠ 9 := by simpa using spared
  exact (if_neg elsewhere).symm

theorem failures_of_two_streams_are_isolated :
    ∃ submitted outcome tally,
      (usual.running faulty).Runs IdLayout.standard submitted outcome ∧
      outcome.result = .ok tally ∧
      Visited.failing outcome.visited = [9] ∧
      tally.failed = 1 ∧
      tally.hadFailures ∧
      outcome.store.answers 1 = (none, true, true) ∧
      ∃ submittedOther outcomeOther tallyOther,
        ((usual.running faulty).running (job .fail).program).Runs
          IdLayout.standard submittedOther outcomeOther ∧
        outcomeOther.result = .ok tallyOther ∧
        outcome.store.answers 4 = outcomeOther.store.answers 4 := by
  have runs : (usual.running faulty).Runs IdLayout.standard _ _ :=
    Job.Opening.Runs.clocked
  have ends : (((job .fail).running faulty).execute IdLayout.standard
      (context primary other) Launch.ordinary).result =
        .ok ⟨2, 1, 1, 1, 0, 0, true⟩ := by
    decide +kernel
  have failing : Visited.failing (((job .fail).running faulty).execute
      IdLayout.standard (context primary other) Launch.ordinary).visited =
        [9] := by
    decide +kernel
  have layout : (((job .fail).running faulty).execute IdLayout.standard
      (context primary other) Launch.ordinary).store.layout =
        IdLayout.standard := by
    decide +kernel
  have runsOther : ((usual.running faulty).running (job .fail).program).Runs
      IdLayout.standard _ _ := Job.Opening.Runs.clocked
  have endsOther : ((((job .fail).running faulty).running
      (job .fail).program).execute IdLayout.standard (context primary other)
        Launch.ordinary).result = .ok ⟨2, 1, 0, 1, 0, 0, true⟩ := by
    decide +kernel
  obtain ⟨-, -, failed, flagged, lacking, ⟨order, gathers⟩, spares⟩ :=
    Job.Opening.failures_are_isolated (usual.running faulty) IdLayout.standard
      _ _ _ runs ends
  rw [failing] at failed flagged lacking spares
  have spared := (spares _ mends_faulty).2 _ _ _ runsOther endsOther
  obtain ⟨others, gathersOther⟩ := spared.merged
  refine ⟨_, _, _, runs, ends, failing, failed,
    flagged.2 (List.cons_ne_nil _ _), ?_, _, _, _, runsOther, endsOther, ?_⟩
  · apply lacking 9 (List.mem_singleton_self 9)
    rw [StateStore.Kin, layout]
    decide +kernel
  · refine (spared.answers order others gathers gathersOther 4 ?_
      (Or.inl (by decide +kernel))).symm
    intro failed member
    rw [failing, List.mem_singleton] at member
    rw [member, StateStore.Kin, layout]
    decide +kernel

end TwoStreams
end GraphSweep
