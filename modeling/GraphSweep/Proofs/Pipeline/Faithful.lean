import GraphSweep.Proofs.Pipeline.Forecast
import GraphSweep.Proofs.Pipeline.Pool

/-!
# Jobs under way keep to their forecast

The parts of the job put together: what the join comes to note stays foreseen, the
workers are about to run the program for what has been dispatched, and once the
job has ended well its counts and its store are those of the vertices run one
after another.
-/

namespace GraphSweep
namespace Pipeline

variable {σ ρ : Type} [Mergeable σ]

/-- A job that has ended well: its runs have come to what the dispatched vertices
come to one after another, with the siblings merged in some order where partitioned
vertices were seen. -/
structure Concluded
    (sweep : Sweep σ ρ)
    (start : Effects σ ρ)
    (pipeline : Pipeline σ ρ)
    (tally : Tally) : Prop where
  tally : tally = pipeline.tally
  drained : pipeline.queue = []
  idle : pipeline.running = []
  failed : pipeline.effects.failed =
    (start.visitAll sweep pipeline.account.views).failed
  visited : pipeline.effects.visited.Perm
    (start.visitAll sweep pipeline.account.views).visited
  merged : pipeline.account.tally.sawPartitioned ->
    ∃ order, order.Perm
        (start.visitAll sweep pipeline.account.views).store.siblings ∧
      pipeline.effects.store.Same
        (StateStore.mergeInOrder
          (start.visitAll sweep pipeline.account.views).store order).2
  gathered : pipeline.account.tally.sawPartitioned ->
    pipeline.effects.store.merged = true
  plain : pipeline.account.tally.sawPartitioned = false ->
    pipeline.effects.store.Same
      (start.visitAll sweep pipeline.account.views).store

/-- A job under way that keeps to its forecast. -/
structure Faithful
    (setup : Setup σ ρ)
    (start : Effects σ ρ)
    (foreseen : Except JobError Account)
    (pipeline : Pipeline σ ρ) : Prop where
  heeded : pipeline.Heeded setup.sweep.policy
  foretold : pipeline.forecast setup = foreseen
  ordered : pipeline.Ordered
  pooled : pipeline.phase.isUnderway -> pipeline.Pooled setup.sweep start
  idle : pipeline.phase = .stopping ->
    pipeline.queue = [] ∧ pipeline.running = []
  concluded : ∀ tally, pipeline.phase = .ended (.ok tally) ->
    pipeline.Concluded setup.sweep start tally

section Steps

variable
  {setup : Setup σ ρ}
  {start : Effects σ ρ}
  {foreseen : Except JobError Account}
  {pipeline next : Pipeline σ ρ}

theorem Faithful.reads
    (faithful : pipeline.Faithful setup start foreseen)
    (reads : pipeline.Reads setup next) :
    next.Faithful setup start foreseen := by
  have heeded := faithful.heeded.reads reads
  have foretold := (forecast_reads faithful.heeded reads).trans
    faithful.foretold
  cases reads with
  | primary reader events advances =>
      refine ⟨heeded, foretold, ⟨faithful.ordered.ascends,
        faithful.ordered.faces⟩, ?_, faithful.idle, ?_⟩
      · intro underway
        exact (faithful.pooled underway).of_eq rfl rfl rfl rfl
      · intro tally ended
        obtain ⟨counts, drained, idle, failed, visited, merged, gathered,
          plain⟩ := faithful.concluded tally ended
        exact ⟨counts, drained, idle, failed, visited, merged, gathered, plain⟩
  | channel position channel reader events found advances =>
      refine ⟨heeded, foretold, ⟨faithful.ordered.ascends,
        faithful.ordered.faces⟩, ?_, faithful.idle, ?_⟩
      · intro underway
        exact (faithful.pooled underway).of_eq rfl rfl rfl rfl
      · intro tally ended
        obtain ⟨counts, drained, idle, failed, visited, merged, gathered,
          plain⟩ := faithful.concluded tally ended
        have slots : (pipeline.channels.set position
            { channel with reader := reader }).map Channel.slot =
            pipeline.channels.map Channel.slot := map_set_of_eq found rfl
        refine ⟨counts.trans ?_, drained, idle, failed, visited, merged, gathered,
          plain⟩
        symm
        exact tally_congr rfl slots rfl rfl

theorem Faithful.joins
    (faithful : pipeline.Faithful setup start foreseen)
    (joins : pipeline.Joins setup next) :
    next.Faithful setup start foreseen := by
  have heeded := faithful.heeded.joins joins
  have foretold := (forecast_joins faithful.heeded joins).trans
    faithful.foretold
  have ordered := faithful.ordered.joins joins
  have pooled := Pooled.joins faithful.ordered faithful.pooled joins
  refine ⟨heeded, foretold, ordered, pooled, ?_, ?_⟩
  · intro stopping
    cases joins with
    | stops phase drained idle => exact ⟨drained, idle⟩
    | skips item rest phase
    | moves id live fetched position channel moved dropped phase =>
        rw [phase] at stopping
        cases stopping
    | meets | chokes | drains | breaks | passes | fails | completes | deletes
    | queues | inlines | resumes | abandons | ends => cases stopping
  · intro tally ended
    cases joins with
    | skips item rest phase
    | moves id live fetched position channel moved dropped phase =>
        rw [phase] at ended
        cases ended
    | meets | chokes | drains | breaks | passes | fails | completes | deletes
    | queues | inlines | resumes | stops | abandons | ends => cases ended

/-- Picking a vertex keeps to the forecast. -/
theorem Faithful.pick
    (faithful : pipeline.Faithful setup start foreseen)
    (acts : pipeline.pick setup = some next) :
    next.Faithful setup start foreseen := by
  have pooled := fun underway => (faithful.pooled underway).pick acts
  obtain ⟨view, rest, queue, rfl⟩ := pick_eq_some acts
  refine ⟨faithful.heeded, ?_, ⟨faithful.ordered.ascends,
    faithful.ordered.faces⟩, pooled, ?_, ?_⟩
  · exact (forecast_congr rfl rfl rfl fun _ => ⟨rfl, rfl⟩).trans
      faithful.foretold
  · intro stopping
    have drained := (faithful.idle stopping).1
    rw [queue] at drained
    cases drained
  · intro tally ended
    have drained := (faithful.concluded tally ended).drained
    rw [queue] at drained
    cases drained

/-- A step of a run keeps to the forecast. -/
theorem Faithful.works
    {position : Nat}
    (faithful : pipeline.Faithful setup start foreseen)
    (works : pipeline.Works position next) :
    next.Faithful setup start foreseen := by
  have pooled := fun underway => (faithful.pooled underway).works works
  have busy {run : Running σ ρ}
      (found : pipeline.running[position]? = some run) :
      pipeline.running ≠ [] := by
    intro idle
    rw [idle] at found
    cases found
  cases works with
  | writes run state due found following | finishes run found spent =>
      refine ⟨faithful.heeded, ?_, ⟨faithful.ordered.ascends,
        faithful.ordered.faces⟩, pooled, ?_, ?_⟩
      · exact (forecast_congr rfl rfl rfl fun _ => ⟨rfl, rfl⟩).trans
          faithful.foretold
      · intro stopping
        exact absurd (faithful.idle stopping).2 (busy found)
      · intro tally ended
        exact absurd (faithful.concluded tally ended).idle (busy found)

/-- Breaking off a run of a job that has been given up keeps to the forecast. -/
theorem Faithful.breakOff
    {position : Nat}
    (faithful : pipeline.Faithful setup start foreseen)
    (acts : pipeline.breakOff position = some next) :
    next.Faithful setup start foreseen := by
  obtain ⟨⟨error, spent⟩, -, rfl⟩ := breakOff_eq_some acts
  refine ⟨faithful.heeded, ?_, ⟨faithful.ordered.ascends,
    faithful.ordered.faces⟩, ?_, ?_, ?_⟩
  · exact (forecast_congr rfl rfl rfl fun _ => ⟨rfl, rfl⟩).trans
      faithful.foretold
  · intro underway
    rcases spent with phase | phase <;>
      simp [phase, JoinPhase.isUnderway] at underway
  · intro stopping
    rcases spent with phase | phase <;> simp [phase] at stopping
  · intro tally ended
    rcases spent with phase | phase <;> simp [phase] at ended

/-- A job that has failed or ended has little left to keep to. -/
theorem Faithful.of_over
    (spent : pipeline.phase.isUnderway = false)
    (foretold : pipeline.forecast setup = foreseen)
    (ascends : pipeline.account.Ascends)
    (concluded : ∀ tally, pipeline.phase = .ended (.ok tally) ->
      pipeline.Concluded setup.sweep start tally) :
    pipeline.Faithful setup start foreseen := by
  refine ⟨?_, foretold, ⟨ascends, ?_⟩, ?_, ?_, concluded⟩
  · intro receives
    cases phase : pipeline.phase <;>
      simp [phase, JoinPhase.isUnderway, JoinPhase.receives] at spent receives
  · intro id current
    cases phase : pipeline.phase <;>
      simp [phase, JoinPhase.isUnderway, JoinPhase.vertex?] at spent current
  · intro underway
    rw [spent] at underway
    cases underway
  · intro stopping
    rw [stopping] at spent
    cases spent

/-- What merges freely in the end has an answer in whatever order it is merged. -/
theorem Faithful.isSome_mergeInOrder
    {order : List VertexId}
    (free : ∀ account, foreseen = .ok account -> account.tally.sawPartitioned ->
      (start.visitAll setup.sweep account.views).store.MergesFreely)
    (faithful : pipeline.Faithful setup start foreseen)
    (stopping : pipeline.phase = .stopping)
    (released : setup.releaseFault = none)
    (perm : order.Perm pipeline.effects.store.siblings)
    (partitioned : pipeline.account.tally.sawPartitioned) :
    (pipeline.effects.store.mergeInOrder order).1.isSome := by
  obtain ⟨drained, idle⟩ := faithful.idle stopping
  have pooled := faithful.pooled (by rw [stopping]; rfl)
  have same := pooled.effects_of_idle drained idle
  have foretold := faithful.foretold
  simp only [forecast, stopping, Setup.released, released] at foretold
  have merges := free (pipeline.account.drop pipeline.leftover) foretold.symm
    partitioned
  exact same.store.isSome_mergeInOrder merges perm

/-- Merging the siblings ends the job as foreseen, if it has an answer. -/
theorem Faithful.releases
    {order : List VertexId}
    (through : setup.releaseFault = none ->
      order.Perm pipeline.effects.store.siblings ->
      pipeline.account.tally.sawPartitioned ->
      (pipeline.effects.store.mergeInOrder order).1.isSome)
    (faithful : pipeline.Faithful setup start foreseen)
    (releases : pipeline.Releases setup order next) :
    next.Faithful setup start foreseen := by
  have stopping : pipeline.phase = .stopping := by
    cases releases with
    | refused fault phase | merged phase | plain phase => exact phase
  obtain ⟨drained, idle⟩ := faithful.idle stopping
  have pooled := faithful.pooled (by rw [stopping]; rfl)
  have same := pooled.effects_of_idle drained idle
  cases releases with
  | refused fault phase fails =>
      refine Faithful.of_over rfl ?_ faithful.ordered.ascends ?_
      · rw [← faithful.foretold]
        simp only [forecast, stopping, Setup.released, fails]
      · intro tally ended
        cases ended
  | merged phase released perm partitioned =>
      have everything := perm.trans same.store.siblings_perm
      have gathered := (same.store.mergeInOrder order).2
      have isSome := through released perm partitioned
      refine Faithful.of_over rfl ?_ faithful.ordered.ascends ?_
      · rw [← faithful.foretold]
        simp only [forecast, stopping, Setup.released, released, isSome, if_true]
        rfl
      · intro tally ended
        simp only [isSome, if_true] at ended
        cases ended
        refine ⟨rfl, drained, idle, same.failed, same.visited,
          fun _ => ⟨order, everything, gathered⟩, fun _ => ?_,
          fun whole => ?_⟩
        · exact StateStore.merged_mergeInOrder isSome
        · rw [partitioned] at whole
          cases whole
  | plain phase released whole =>
      refine Faithful.of_over rfl ?_ faithful.ordered.ascends ?_
      · rw [← faithful.foretold]
        simp only [forecast, stopping, Setup.released, released]
        rfl
      · intro tally ended
        cases ended
        refine ⟨rfl, drained, idle, same.failed, same.visited,
          fun partitioned => ?_, fun partitioned => ?_, fun _ => same.store⟩ <;>
        · rw [whole] at partitioned
          cases partitioned

/-- A job is lost because its siblings cannot be merged in the order in which they
come. -/
structure Loses
    (setup : Setup σ ρ)
    (pipeline next : Pipeline σ ρ) : Prop where
  stopping : pipeline.phase = .stopping
  released : setup.releaseFault = none
  partitioned : pipeline.account.tally.sawPartitioned
  stuck : ∃ order, order.Perm pipeline.effects.store.siblings ∧
    (pipeline.effects.store.mergeInOrder order).1 = none ∧
    pipeline.Releases setup order next
  lost : next.phase = .ended (.error .taskLost)

/-- Siblings that cannot be merged lose the job. -/
theorem loses_of_releases
    {order : List VertexId}
    (releases : pipeline.Releases setup order next)
    (released : setup.releaseFault = none)
    (partitioned : pipeline.account.tally.sawPartitioned)
    (stuck : (pipeline.effects.store.mergeInOrder order).1 = none) :
    pipeline.Loses setup next := by
  have again := releases
  cases releases with
  | refused fault phase fails =>
      rw [released] at fails
      cases fails
  | plain phase _ whole =>
      rw [whole] at partitioned
      cases partitioned
  | merged phase _ perm _ =>
      refine ⟨phase, released, partitioned, ⟨order, perm, stuck, again⟩, ?_⟩
      simp [stuck]

/-- Whatever happens before the read context is released, a job keeps to its forecast as
long as no wait runs out. -/
theorem Faithful.act_of_quiet
    {action : Action}
    (faithful : pipeline.Faithful setup start foreseen)
    (quiet : action.isQuiet)
    (acts : pipeline.act setup action = some next) :
    next.Faithful setup start foreseen := by
  cases action with
  | read stream => exact faithful.reads (reads_of_read acts)
  | join => exact faithful.joins (joins_of_join acts)
  | pick => exact faithful.pick acts
  | work position => exact faithful.works (works_of_work acts)
  | breakOff position => exact faithful.breakOff acts
  | release | expire => cases quiet

/-- Whatever happens without a wait running out, a job keeps to its forecast or is
lost. -/
theorem Faithful.act_or_loses
    {action : Action}
    (faithful : pipeline.Faithful setup start foreseen)
    (punctual : action ≠ .expire)
    (acts : pipeline.act setup action = some next) :
    next.Faithful setup start foreseen ∨ pipeline.Loses setup next := by
  cases action with
  | release order =>
      have releases := releases_of_release acts
      by_cases through : setup.releaseFault = none ->
          order.Perm pipeline.effects.store.siblings ->
          pipeline.account.tally.sawPartitioned ->
          (pipeline.effects.store.mergeInOrder order).1.isSome
      · exact Or.inl (faithful.releases through releases)
      · simp only [Classical.not_imp, Option.not_isSome_iff_eq_none] at through
        obtain ⟨released, -, partitioned, stuck⟩ := through
        exact Or.inr (loses_of_releases releases released partitioned stuck)
  | expire => exact absurd rfl punctual
  | read | join | pick | work | breakOff =>
      exact Or.inl (faithful.act_of_quiet rfl acts)

/-- Whatever happens without a wait running out, a job keeps to its forecast. -/
theorem Faithful.act
    {action : Action}
    (free : ∀ account, foreseen = .ok account -> account.tally.sawPartitioned ->
      (start.visitAll setup.sweep account.views).store.MergesFreely)
    (faithful : pipeline.Faithful setup start foreseen)
    (punctual : action ≠ .expire)
    (acts : pipeline.act setup action = some next) :
    next.Faithful setup start foreseen := by
  rcases faithful.act_or_loses punctual acts with kept | loses
  · exact kept
  · obtain ⟨order, perm, stuck, -⟩ := loses.stuck
    have merges := faithful.isSome_mergeInOrder free loses.stopping
      loses.released perm loses.partitioned
    rw [stuck] at merges
    cases merges

/-- Whatever happens in whatever order without a wait running out, a job keeps to
its forecast. -/
theorem Faithful.follow
    {actions : List Action}
    (free : ∀ account, foreseen = .ok account -> account.tally.sawPartitioned ->
      (start.visitAll setup.sweep account.views).store.MergesFreely)
    (faithful : pipeline.Faithful setup start foreseen)
    (punctual : .expire ∉ actions)
    (follows : pipeline.follow setup actions = some next) :
    next.Faithful setup start foreseen := by
  induction actions generalizing pipeline with
  | nil =>
      cases follows
      exact faithful
  | cons action actions hypothesis =>
      rw [List.mem_cons, not_or] at punctual
      rw [follow_cons] at follows
      obtain ⟨middle, acts, follows⟩ := Option.bind_eq_some_iff.1 follows
      have kept := faithful.act free (Ne.symm punctual.1) acts
      exact hypothesis kept punctual.2 follows

end Steps
end Pipeline
end GraphSweep
