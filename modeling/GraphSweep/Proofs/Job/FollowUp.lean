import GraphSweep.Proofs.Job.Stored

/-!
# Jobs that go on with the store of an earlier one

A job that begins forgets that siblings have been merged, and only a job that
dispatches a partitioned vertex merges them again. What is untouched by a follow-up
job is therefore still there, under its canonical vertex. But unless the job merges
again it is not found any more through the other siblings.
-/

namespace GraphSweep
namespace StateStore

variable {σ : Type} [Mergeable σ]

/-- A store whose siblings have been merged counts as merged and has none left. -/
theorem collapsed_of_mergeInOrder
    {before after : StateStore σ}
    {order : List VertexId}
    {count : Nat}
    (every : order.Perm before.siblings)
    (merges : before.mergeInOrder order = (some count, after)) :
    after.merged = true ∧ after.siblings = [] := by
  have answered : (before.mergeInOrder order).1.isSome := by
    rw [merges]
    rfl
  have through := isSome_mergeInOrder_iff.1 answered
  rw [mergeInOrder_of_through through] at merges
  obtain rfl := (Prod.mk.inj merges).2
  exact ⟨rfl, siblings_absorbAll every through⟩

omit [Mergeable σ] in
/-- Where no siblings are left, only canonical vertices have entries. -/
theorem entry?_of_collapsed
    {store : StateStore σ}
    {id : VertexId}
    (collapsed : store.siblings = [])
    (apart : store.layout.canonical id ≠ id) :
    store.entry? id = none := by
  have absent : id ∉ store.siblings := by
    rw [collapsed]
    exact List.not_mem_nil
  rw [← Option.not_isSome_iff_eq_none]
  intro present
  exact absent ((store.mem_siblings id).2
    ⟨present, IdLayout.isPartitioned_of_canonical_ne apart, apart⟩)

/-- What becomes of the entries of siblings that were merged before and have not
been touched since. -/
theorem gatheredEntry_of_untouched
    {seed written : StateStore σ}
    {order : List VertexId}
    {id : VertexId}
    (collapsed : seed.siblings = [])
    (layout : written.layout = seed.layout)
    (every : order.Perm written.siblings)
    (untouched : ∀ other, seed.Kin other id ->
      written.entry? other = seed.entry? other)
    (merges : Bool) :
    written.gatheredEntry merges order id =
      seed.entry? (if merges then seed.layout.canonical id else id) := by
  cases merges with
  | false => exact untouched id rfl
  | true =>
      have unclaimed : ∀ sibling ∈ order, ¬written.Kin sibling id := by
        intro sibling member kin
        rw [Kin, layout] at kin
        obtain ⟨present, partitioned, apart⟩ :=
          (written.mem_siblings sibling).1 (every.mem_iff.1 member)
        rw [layout] at apart
        rw [untouched sibling kin, entry?_of_collapsed collapsed apart] at present
        cases present
      rw [gatheredEntry_of_unclaimed unclaimed, layout, if_pos rfl]
      exact untouched _ (seed.layout.canonical_canonical id)

end StateStore

namespace Job
namespace Opening

variable
  {σ ρ : Type}
  {job : Job σ ρ}
  {context : ReadContext}
  {launch : Launch}

/-- A follow-up job keeps what it does not touch, but may lose sight of it. Take a
store whose siblings have been merged and a job that goes on with it and succeeds. A
vertex that is no sibling of a dispatched one is answered for as before if the job
dispatched a partitioned vertex, or if it is its own canonical vertex. Otherwise there
is no answer any more, even if there was one before. -/
theorem follow_up_keeps_canonical_answers
    [Mergeable σ]
    (opening : job.Opening context launch)
    (layout : IdLayout)
    (before seed : StateStore σ)
    (order : List VertexId)
    (count : Nat)
    (every : order.Perm before.siblings)
    (merges : before.mergeInOrder order = (some count, seed))
    (seeded : job.seed = some seed)
    (submitted : List View)
    (outcome : Outcome σ ρ)
    (tally : Tally)
    (runs : opening.Runs layout submitted outcome)
    (ends : outcome.result = .ok tally)
    (id : VertexId)
    (apart : ∀ view ∈ submitted, ¬seed.Kin view.id id) :
    (outcome.store.answers id =
      if submitted.any View.isPartitioned ∨ seed.layout.canonical id = id then
        seed.answers id
      else (none, false, false)) ∧
    (outcome.store.answers id = seed.answers id ↔
      submitted.any View.isPartitioned ∨ seed.layout.canonical id = id ∨
        seed.contains id = false) := by
  obtain ⟨merged, collapsed⟩ :=
    StateStore.collapsed_of_mergeInOrder every merges
  have succeeded := runs.succeeded ends
  obtain ⟨again, gathers⟩ := runs.exists_gathers ends
  have start : job.startStore layout = seed := by
    rw [startStore, seeded]
    rfl
  have sameLayout : (opening.written layout).layout = seed.layout := by
    rw [layout_written, start]
  have untouched : ∀ other, seed.Kin other id ->
      StateStore.entry? (opening.written layout) other = seed.entry? other := by
    intro other kin
    rw [← start]
    apply opening.entry?_written_of_not_mem layout
    rw [← succeeded.submits]
    intro member
    obtain ⟨view, among, rfl⟩ := List.mem_map.1 member
    exact apart view among kin
  have entry := StateStore.gatheredEntry_of_untouched collapsed sameLayout
    gathers.every untouched (submitted.any View.isPartitioned)
  have seen : seed.answers id =
      StateStore.toldBy (seed.entry? (seed.layout.canonical id)) := by
    rw [StateStore.answers_eq, StateStore.resolve, if_pos merged]
  have answer : outcome.store.answers id =
      if submitted.any View.isPartitioned ∨ seed.layout.canonical id = id then
        seed.answers id
      else (none, false, false) := by
    rw [gathers.answers (opening.merged_written layout), entry, seen]
    by_cases partitioned : submitted.any View.isPartitioned
    · rw [if_pos partitioned, if_pos (Or.inl partitioned)]
    · rw [if_neg partitioned]
      by_cases canonical : seed.layout.canonical id = id
      · rw [if_pos (Or.inr canonical), canonical]
      · rw [if_neg (not_or.2 ⟨partitioned, canonical⟩),
          StateStore.entry?_of_collapsed collapsed canonical]
        rfl
  refine ⟨answer, ?_⟩
  have nothing : (none, false, false) = seed.answers id ↔
      seed.contains id = false := by
    rw [eq_comm]
    exact StateStore.toldBy_eq_none_iff _
  rw [answer, ← or_assoc]
  split
  · next kept => exact iff_of_true rfl (Or.inl kept)
  · next lost => rw [nothing, or_iff_right lost]

end Opening
end Job

namespace TwoStreams

/-- The store that the usual job leaves, in which a sibling has been merged. -/
def results : StateStore UInt64 :=
  ((usual.written IdLayout.standard).mergeInOrder [9]).2

/-- A vertex on its own, which is not partitioned. -/
def lone : List Read := reads [(4, [Relation.markerEntry])]

/-- A job over the lone vertex that goes on with the store of the usual one. -/
def followUp :
    ((job .fail).resume results).Opening (context lone other) Launch.ordinary :=
  (opening .fail lone other).resume results

/-- The view of the lone vertex. -/
def loneView : View := ⟨4, [(Slice.ofType Relation.firstFreeType, [plain])]⟩

/-- What the follow-up job comes to on the clock. -/
def followUpOutcome : Outcome UInt64 Unit :=
  ((job .fail).resume results).execute IdLayout.standard (context lone other)
    Launch.ordinary

theorem merges_usual :
    (usual.written IdLayout.standard).mergeInOrder [9] = (some 1, results) :=
  Prod.ext (by decide +kernel) rfl

theorem runs_followUp :
    followUp.Runs IdLayout.standard [loneView] followUpOutcome := by
  have submits : (followUp.followed IdLayout.standard).timeline.submitted.map
      Visited.view = [loneView] := by
    decide +kernel
  rw [← submits]
  exact Job.Opening.Runs.clocked

theorem follow_up_of_two_streams_keeps_canonical_answers :
    [9].Perm (usual.written IdLayout.standard).siblings ∧
    (usual.written IdLayout.standard).mergeInOrder [9] = (some 1, results) ∧
    ((job .fail).resume results).seed = some results ∧
    followUp.Runs IdLayout.standard [loneView] followUpOutcome ∧
    (∃ tally, followUpOutcome.result = .ok tally) ∧
    (∀ view ∈ [loneView],
      ¬results.Kin view.id 1 ∧ ¬results.Kin view.id 9) ∧
    followUpOutcome.store.answers 1 = results.answers 1 ∧
    followUpOutcome.store.answers 9 ≠ results.answers 9 := by
  have every : [9].Perm (usual.written IdLayout.standard).siblings := by
    decide +kernel
  have succeeded : followUpOutcome.result = .ok ⟨1, 0, 0, 0, 0, 0, false⟩ := by
    decide +kernel
  have apart : ∀ view ∈ [loneView],
      ¬results.Kin view.id 1 ∧ ¬results.Kin view.id 9 := by
    decide +kernel
  have canonical := Job.Opening.follow_up_keeps_canonical_answers followUp
    IdLayout.standard _ results [9] 1 every merges_usual rfl _ _ _ runs_followUp
    succeeded 1 fun view member => (apart view member).1
  have sibling := Job.Opening.follow_up_keeps_canonical_answers followUp
    IdLayout.standard _ results [9] 1 every merges_usual rfl _ _ _ runs_followUp
    succeeded 9 fun view member => (apart view member).2
  refine ⟨every, merges_usual, rfl, runs_followUp, ⟨_, succeeded⟩, apart, ?_, ?_⟩
  · exact canonical.2.2 (Or.inr (Or.inl (by decide +kernel)))
  · rw [ne_eq, sibling.2]
    decide +kernel

/-- A follow-up job that dispatches no partitioned vertex loses sight of a sibling
that it does not touch. -/
theorem follow_up_of_two_streams_loses_sibling :
    [9].Perm (usual.written IdLayout.standard).siblings ∧
    (usual.written IdLayout.standard).mergeInOrder [9] = (some 1, results) ∧
    ((job .fail).resume results).seed = some results ∧
    followUp.Runs IdLayout.standard [loneView] followUpOutcome ∧
    followUpOutcome.result = .ok ⟨1, 0, 0, 0, 0, 0, false⟩ ∧
    (∀ view ∈ [loneView], ¬results.Kin view.id 9) ∧
    results.answers 9 = (some 0, true, false) ∧
    followUpOutcome.store.answers 9 = (none, false, false) :=
  ⟨by decide +kernel, merges_usual, rfl, runs_followUp, by decide +kernel,
    by decide +kernel, by decide +kernel, by decide +kernel⟩

end TwoStreams
end GraphSweep
