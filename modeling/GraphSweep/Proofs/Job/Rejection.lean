import GraphSweep.Proofs.Job.FollowUp
import GraphSweep.Proofs.Job.Standing
import GraphSweep.Transaction

/-!
# Jobs that cannot be started

Starting a job fails if the job is refused or if one of its streams does not open. No
entry of the store that it was to go on with changes then. But a job forgets that
siblings have been merged before it opens its streams: if one of these does not open,
merged siblings are not found any more through one another.
-/

namespace GraphSweep
namespace StateStore

variable {σ : Type}

/-- What an entry answers tells the entry. -/
theorem toldBy_injective : Function.Injective (toldBy (σ := σ)) := by
  intro left right same
  rcases left with _ | _ | state <;> rcases right with _ | _ | other <;>
    simp_all [toldBy]

/-- Once it has been forgotten that siblings were merged, each vertex is answered for by
its own entry. -/
theorem answers_reopen (store : StateStore σ) (id : VertexId) :
    store.reopen.answers id = toldBy (store.entry? id) := rfl

/-- Forgetting that siblings were merged makes no difference for a vertex whose own entry
is that of its canonical vertex. -/
theorem answers_reopen_eq_iff (store : StateStore σ) (id : VertexId) :
    store.reopen.answers id = store.answers id ↔
      store.merged = false ∨
        store.entry? id = store.entry? (store.layout.canonical id) := by
  rw [answers_reopen, answers_eq, toldBy_injective.eq_iff, resolve]
  cases merged : store.merged with
  | false => exact iff_of_true rfl (Or.inl rfl)
  | true =>
      rw [if_pos rfl]
      exact (or_iff_right Bool.noConfusion).symm

end StateStore

namespace Job

variable {σ ρ : Type}

/-- What starting a job fails with, if it fails: the job is refused, or one of its
streams does not open. -/
def rejection?
    (job : Job σ ρ)
    (context : ReadContext)
    (launch : Launch) : Option JobError :=
  (job.refusal? launch).or ((job.openFault? context).map .storage)

section Rejected

variable
  [Mergeable σ]
  {job : Job σ ρ}
  {context : ReadContext}
  {launch : Launch}

/-- A job that is refused does nothing. -/
theorem execute_of_refusal
    {error : JobError}
    (layout : IdLayout)
    (refused : job.refusal? launch = some error) :
    job.execute layout context launch =
      unread error (job.startStore layout) [] := by
  unfold execute
  simp only [refused]

/-- A job of which a stream does not open has forgotten that siblings were merged. -/
theorem execute_of_openFault
    {fault : StorageError}
    (layout : IdLayout)
    (accepted : job.refusal? launch = none)
    (fails : job.openFault? context = some fault) :
    ∃ events, job.execute layout context launch =
      unread (.storage fault) (job.startStore layout).reopen events := by
  obtain ⟨initializer, initialized⟩ := exists_initializer accepted
  unfold execute
  simp only [accepted, initialized]
  cases probed : context.openStream Slice.probe with
  | error error =>
      rw [openFault?, probed] at fails
      cases fails
      exact ⟨_, rfl⟩
  | ok primary =>
      cases opened : context.openAll (registerQueries job.queries) with
      | mk others stopped =>
          rw [openFault?, probed] at fails
          dsimp only at fails
          rw [opened] at fails
          cases fails
          exact ⟨_, rfl⟩

/-- What is left of the store that a job was to go on with when the job cannot be
started. No entry has changed. If the job was refused, every vertex is answered for as
before. If a stream did not open, every vertex is answered for by its own entry, which
makes a difference exactly where siblings had been merged and the canonical vertex has
another entry. -/
theorem rejected_job_keeps_entries
    (layout : IdLayout)
    (seed : StateStore σ)
    (error : JobError)
    (seeded : job.seed = some seed)
    (rejected : job.rejection? context launch = some error) :
    let outcome := job.execute layout context launch
    outcome.result = .error error ∧
    outcome.visited = [] ∧
    outcome.store.size = seed.size ∧
    outcome.store.entries = seed.entries ∧
    ∀ id,
      (outcome.store.answers id =
        if (job.refusal? launch).isSome then seed.answers id
        else StateStore.toldBy (seed.entry? id)) ∧
      (outcome.store.answers id = seed.answers id ↔
        (job.refusal? launch).isSome ∨ seed.merged = false ∨
          seed.entry? id = seed.entry? (seed.layout.canonical id)) := by
  intro outcome
  have start : job.startStore layout = seed := by
    rw [startStore, seeded]
    rfl
  cases refused : job.refusal? launch with
  | some refusal =>
      have ends : outcome = unread refusal seed [] :=
        start ▸ execute_of_refusal layout refused
      have same : refusal = error := by
        rw [rejection?, refused] at rejected
        exact Option.some.inj rejected
      rw [ends, same]
      exact ⟨rfl, rfl, rfl, rfl, fun id =>
        ⟨rfl, iff_of_true rfl (Or.inl rfl)⟩⟩
  | none =>
      rw [rejection?, refused, Option.none_or] at rejected
      obtain ⟨fault, fails, rfl⟩ := Option.map_eq_some_iff.1 rejected
      obtain ⟨events, ends⟩ := execute_of_openFault layout refused fails
      have ends : outcome = unread (.storage fault) seed.reopen events :=
        start ▸ ends
      rw [ends]
      refine ⟨rfl, rfl, rfl, rfl, fun id => ⟨seed.answers_reopen id, ?_⟩⟩
      rw [Option.isSome_none, or_iff_right Bool.noConfusion]
      exact seed.answers_reopen_eq_iff id

end Rejected

end Job

namespace TwoStreams

/-- A transaction that has been released before. -/
def released : ReadContext :=
  (Transaction.begin (GraphStore.empty IdLayout.standard)).rollback.context

/-- The job that goes on with the merged results, over the released transaction. -/
def rejectedOutcome (launch : Launch) : Outcome UInt64 Unit :=
  ((job .fail).resume results).execute IdLayout.standard released launch

theorem rejected_jobs_keep_entries_of_results :
    ((job .fail).resume results).seed = some results ∧
    ((job .fail).resume results).rejection? released ⟨false, false⟩ =
      some (.refused .noRuntime) ∧
    ((job .fail).resume results).rejection? released Launch.ordinary =
      some (.storage (.closed .transaction)) ∧
    (rejectedOutcome ⟨false, false⟩).store.answers 9 = results.answers 9 ∧
    (rejectedOutcome Launch.ordinary).store.entries = results.entries ∧
    (rejectedOutcome Launch.ordinary).store.answers 1 = results.answers 1 ∧
    (rejectedOutcome Launch.ordinary).store.answers 9 ≠ results.answers 9 := by
  have refused : ((job .fail).resume results).rejection? released
      ⟨false, false⟩ = some (.refused .noRuntime) := rfl
  have unopened : ((job .fail).resume results).rejection? released
      Launch.ordinary = some (.storage (.closed .transaction)) := rfl
  obtain ⟨-, -, -, -, outside⟩ := Job.rejected_job_keeps_entries
    IdLayout.standard results _ rfl refused
  obtain ⟨-, -, -, entries, answers⟩ := Job.rejected_job_keeps_entries
    IdLayout.standard results _ rfl unopened
  refine ⟨rfl, refused, unopened, (outside 9).1, entries, ?_, ?_⟩
  · exact (answers 1).2.2 (Or.inr (Or.inr (by decide +kernel)))
  · rw [ne_eq]
    intro same
    exact absurd ((answers 9).2.1 same) (by decide +kernel)

/-- A job of which a stream does not open loses sight of a sibling in the store that it
was to go on with. -/
theorem unopened_job_loses_sibling :
    ((job .fail).resume results).seed = some results ∧
    ((job .fail).resume results).rejection? released Launch.ordinary =
      some (.storage (.closed .transaction)) ∧
    (rejectedOutcome Launch.ordinary).result =
      .error (.storage (.closed .transaction)) ∧
    results.answers 9 = (some 0, true, false) ∧
    (rejectedOutcome Launch.ordinary).store.answers 9 = (none, false, false) :=
  ⟨rfl, rfl, rfl, by decide +kernel, by decide +kernel⟩

end TwoStreams
end GraphSweep
