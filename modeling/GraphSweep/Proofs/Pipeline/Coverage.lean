import GraphSweep.Proofs.Pipeline.Success

/-!
# The runs of a job

Where the join is bound to dispatch certain views, the workers make no runs but those of
the program for these, each once and with the state that its vertex had in the beginning,
whatever happens and even if a wait runs out. As long as no wait runs out they make all of
them, also if the siblings cannot be merged in the end.
-/

namespace GraphSweep

namespace Effects

variable {σ ρ : Type}

/-- Runs of the program are made in addition to those made before. -/
theorem visited_prefix_visitAll
    (sweep : Sweep σ ρ)
    (effects : Effects σ ρ)
    (views : List View) :
    effects.visited <+: (effects.visitAll sweep views).visited := by
  induction views generalizing effects with
  | nil => exact List.prefix_rfl
  | cons view views hypothesis =>
      exact (List.prefix_append _ _).trans (hypothesis (effects.visit sweep view))

/-- The runs for the first vertices are the first runs. -/
theorem visited_visitAll_prefix
    (sweep : Sweep σ ρ)
    (effects : Effects σ ρ)
    {views more : List View}
    (first : views <+: more) :
    (effects.visitAll sweep views).visited <+:
      (effects.visitAll sweep more).visited := by
  obtain ⟨later, rfl⟩ := first
  rw [visitAll_append]
  exact visited_prefix_visitAll sweep _ later

/-- Letting runs go to their ends makes no further runs. -/
theorem visited_completeAll
    (effects : Effects σ ρ)
    (runs : List (Running σ ρ)) :
    (effects.completeAll runs).visited = effects.visited := by
  induction runs generalizing effects with
  | nil => rfl
  | cons run runs hypothesis =>
      rw [completeAll_cons, hypothesis, visited_complete]

/-- Writing a state for a vertex leaves the runs for others as they are. -/
theorem visitOf_write
    (sweep : Sweep σ ρ)
    (effects : Effects σ ρ)
    {id : VertexId}
    (state : σ)
    {view : View}
    (different : view.id ≠ id) :
    (effects.write id state).visitOf sweep view = effects.visitOf sweep view := by
  have entry : StateStore.entry? (effects.write id state).store view.id =
      effects.store.entry? view.id :=
    (StateStore.entry?_put _ _ _ _).trans (if_neg different)
  rw [visitOf, visitOf, StateStore.own, StateStore.own, StateStore.own?,
    StateStore.own?, entry]

/-- The end of a run leaves the runs for other vertices as they are. -/
theorem visitOf_finish
    (sweep : Sweep σ ρ)
    (effects : Effects σ ρ)
    (visited : Visited σ ρ)
    {view : View}
    (different : view.id ≠ visited.view.id) :
    (effects.finish visited).visitOf sweep view = effects.visitOf sweep view := by
  rw [finish]
  split
  · rfl
  · have entry : StateStore.entry?
        (effects.store.invalidate visited.view.id) view.id =
        effects.store.entry? view.id :=
      (StateStore.entry?_put _ _ _ _).trans (if_neg different)
    rw [visitOf, visitOf, StateStore.own, StateStore.own, StateStore.own?,
      StateStore.own?, entry]

end Effects

namespace Course

/-- Views that have been dispatched stay so. -/
theorem views_step
    {policy : FailurePolicy}
    {course next : Course}
    {item : Item}
    (made : course.step policy item = .ok next) :
    course.account.views <+: next.account.views := by
  unfold step at made
  split at made
  · cases made
    exact List.prefix_rfl
  · obtain ⟨live, -, made⟩ := exists_of_bind_eq_ok made
    obtain ⟨sought, -, made⟩ := exists_of_bind_eq_ok made
    cases made
    cases live with
    | true => exact List.prefix_append _ _
    | false => exact List.prefix_rfl

theorem views_run_prefix
    {policy : FailurePolicy}
    {ending : FeedEnd}
    {course last : Course}
    {items : List Item}
    (runs : course.run policy ending items = .ok last) :
    course.account.views <+: last.account.views := by
  induction items generalizing course with
  | nil =>
      obtain ⟨_, -, ended⟩ := exists_of_bind_eq_ok runs
      cases ended
      exact List.prefix_rfl
  | cons item rest hypothesis =>
      obtain ⟨next, made, runs⟩ := exists_of_bind_eq_ok runs
      exact (views_step made).trans (hypothesis runs)

end Course

namespace Pipeline

variable
  {σ ρ : Type}
  {setup : Setup σ ρ}
  {pipeline next : Pipeline σ ρ}
  {final : Account}

/-- What is noted in the end is that something has been noted before, and more. -/
theorem views_foresee
    {course : Course}
    {feed : Feed}
    (foreseen : setup.foresee course feed = .ok final) :
    course.account.views <+: final.views := by
  obtain ⟨last, runs, released⟩ := exists_of_bind_eq_ok foreseen
  have more := Course.views_run_prefix runs
  unfold Setup.released at released
  split at released
  · cases released
  · cases released
    exact more

/-- The views dispatched so far are the first of those that are foreseen. -/
theorem views_forecast (foreseen : pipeline.forecast setup = .ok final) :
    pipeline.account.views <+: final.views := by
  unfold forecast at foreseen
  cases phase : pipeline.phase with
  | probing | inlining =>
      rw [phase] at foreseen
      exact views_foresee foreseen
  | seeking id live fetched position =>
      rw [phase] at foreseen
      obtain ⟨sought, -, later⟩ := exists_of_bind_eq_ok foreseen
      have more := views_foresee later
      cases live with
      | true => exact (List.prefix_append _ _).trans more
      | false => exact more
  | submitting view =>
      rw [phase] at foreseen
      exact (List.prefix_append _ _).trans (views_foresee foreseen)
  | draining | stopping =>
      simp only [phase, Setup.released] at foreseen
      split at foreseen
      · cases foreseen
      · cases foreseen
        exact List.prefix_rfl
  | failing error | abandoning error =>
      rw [phase] at foreseen
      cases foreseen
  | ended result =>
      rw [phase] at foreseen
      cases result with
      | error error => cases foreseen
      | ok tally =>
          cases foreseen
          exact List.prefix_rfl

/-- The runs that have been made, and those of the program for the vertices that wait for
a worker, each with the state that its vertex has. -/
def runs (sweep : Sweep σ ρ) (pipeline : Pipeline σ ρ) : List (Visited σ ρ) :=
  pipeline.effects.visited ++
    pipeline.queue.map fun view => ⟨view, pipeline.effects.visitOf sweep view⟩

section Faithful

variable {sweep : Sweep σ ρ} {start : Effects σ ρ}

/-- The runs made and to be made are those for the vertices dispatched so far, one after
another. -/
theorem Pooled.runs (pooled : pipeline.Pooled sweep start) :
    (pipeline.runs sweep).Perm
      (start.visitAll sweep pipeline.account.views).visited := by
  obtain ⟨-, distinct, apart⟩ := List.nodup_append'.1 pooled.distinct
  have waiting : ∀ view ∈ pipeline.queue,
      (pipeline.effects.completeAll pipeline.running).visitOf sweep view =
        pipeline.effects.visitOf sweep view :=
    fun view member => Effects.visitOf_completeAll sweep _
      fun running => apart running (List.mem_map_of_mem member)
  have made : pipeline.runs sweep = (pipeline.flushed sweep).visited := by
    rw [Pipeline.runs, flushed, Effects.visited_visitAll sweep _ distinct,
      Effects.visited_completeAll]
    refine congrArg _ (List.map_congr_left fun view member => ?_)
    rw [waiting view member]
  exact made ▸ pooled.flushes.visited

/-- With nothing waiting for the workers, there are no runs but those made. -/
theorem runs_of_drained (drained : pipeline.queue = []) :
    pipeline.runs sweep = pipeline.effects.visited := by
  rw [runs, drained]
  exact List.append_nil _

/-- A job that keeps to its forecast and is not bound to fail makes no runs but those for
the vertices that are foreseen, and none of the vertices in hand is there twice. -/
theorem Faithful.runs
    [Mergeable σ]
    (faithful : pipeline.Faithful setup start (.ok final))
    (sound : pipeline.phase.isDoomed = false) :
    (pipeline.runs setup.sweep).Subperm
        (start.visitAll setup.sweep final.views).visited ∧
      pipeline.inHand.Nodup := by
  have first := Effects.visited_visitAll_prefix setup.sweep start
    (views_forecast faithful.foretold)
  have given : (pipeline.runs setup.sweep).Perm
        (start.visitAll setup.sweep pipeline.account.views).visited ∧
      pipeline.inHand.Nodup := by
    cases phase : pipeline.phase with
    | probing | seeking | submitting | inlining | draining | stopping =>
        have pooled := faithful.pooled (by rw [phase]; rfl)
        exact ⟨pooled.runs, pooled.distinct⟩
    | failing | abandoning =>
        rw [phase] at sound
        cases sound
    | ended result =>
        cases result with
        | error error =>
            rw [phase] at sound
            cases sound
        | ok tally =>
            have concluded := faithful.concluded tally phase
            rw [runs_of_drained concluded.drained, inHand, concluded.drained,
              concluded.idle]
            exact ⟨concluded.visited, List.nodup_nil⟩
  exact ⟨given.1.subperm.trans first.sublist.subperm, given.2⟩

end Faithful

/-! ## Whatever happens -/

section Doomed

/-- In a step of the join after which the job is bound to end with an error, nothing more
is to be run. -/
theorem runs_of_joins
    (doomed : next.phase.isDoomed = true)
    (joins : pipeline.Joins setup next) :
    (next.runs setup.sweep).Subperm (pipeline.runs setup.sweep) ∧
      next.inHand.Sublist pipeline.inHand := by
  cases joins with
  | skips | chokes | breaks | moves | fails | ends =>
      exact ⟨List.Subperm.refl _, List.Sublist.refl _⟩
  | abandons =>
      constructor
      · rw [runs_of_drained rfl]
        exact (List.prefix_append _ _).sublist.subperm
      · exact (List.nil_sublist _).append_left _
  | meets | drains | passes | completes | deletes | queues | inlines | resumes
  | stops => cases doomed

/-- A step of a run leaves the runs to be made as they are. -/
theorem runs_of_works
    {position : Nat}
    (distinct : pipeline.inHand.Nodup)
    (works : pipeline.Works position next) :
    next.runs setup.sweep = pipeline.runs setup.sweep := by
  have different {run : Running σ ρ}
      (found : pipeline.running[position]? = some run)
      (view : View)
      (waits : view ∈ pipeline.queue) : view.id ≠ run.id := by
    intro same
    exact (List.nodup_append'.1 distinct).2.2
      (List.mem_map_of_mem (List.mem_of_getElem? found))
      (same ▸ List.mem_map_of_mem waits)
  cases works with
  | writes run state due found =>
      refine congrArg (pipeline.effects.visited ++ ·)
        (List.map_congr_left fun view waits => ?_)
      rw [Effects.visitOf_write setup.sweep _ state (different found view waits)]
  | finishes run found =>
      have made : (pipeline.effects.finish run.visited).visited =
          pipeline.effects.visited := by
        unfold Effects.finish
        split <;> rfl
      rw [runs, runs, made]
      refine congrArg (pipeline.effects.visited ++ ·)
        (List.map_congr_left fun view waits => ?_)
      rw [Effects.visitOf_finish setup.sweep _ _ (different found view waits)]

variable [Mergeable σ]

/-- In a step after which the job is bound to end with an error, nothing more is to be
run. -/
theorem runs_act
    {action : Action}
    (doomed : next.phase.isDoomed = true)
    (distinct : pipeline.inHand.Nodup)
    (drained : pipeline.phase = .stopping -> pipeline.queue = [])
    (acts : pipeline.act setup action = some next) :
    (next.runs setup.sweep).Subperm (pipeline.runs setup.sweep) ∧
      next.inHand.Sublist pipeline.inHand := by
  cases action with
  | read stream =>
      cases reads_of_read acts with
      | primary | channel => exact ⟨List.Subperm.refl _, List.Sublist.refl _⟩
  | join => exact runs_of_joins doomed (joins_of_join acts)
  | release order =>
      cases releases_of_release acts with
      | refused | plain => exact ⟨List.Subperm.refl _, List.Sublist.refl _⟩
      | merged phase =>
          have empty := drained phase
          refine ⟨?_, List.Sublist.refl _⟩
          rw [runs_of_drained empty, runs_of_drained]
          exact empty
  | pick =>
      obtain ⟨view, rest, queue, rfl⟩ := pick_eq_some acts
      have moved : runs setup.sweep
          (launch setup { pipeline with queue := rest } view false) =
          pipeline.runs setup.sweep := by
        rw [runs, runs, queue, List.map_cons, List.append_cons]
        rfl
      rw [moved, inHand_pick queue]
      exact ⟨List.Subperm.refl _, List.Sublist.refl _⟩
  | work position =>
      have works := works_of_work acts
      rw [runs_of_works distinct works]
      exact ⟨List.Subperm.refl _, inHand_works works⟩
  | breakOff position =>
      obtain ⟨-, -, rfl⟩ := breakOff_eq_some acts
      exact ⟨List.Subperm.refl _,
        ((List.eraseIdx_sublist _ _).map Running.id).append_right _⟩
  | expire =>
      obtain ⟨phase, rfl, -, -⟩ := expire_eq_some acts
      exact ⟨List.Subperm.refl _, List.Sublist.refl _⟩

variable {start : Effects σ ρ}

/-- A job that makes no runs but those for the vertices that are foreseen, and keeps to its
forecast as long as it is not bound to end with an error. -/
structure Confined
    (setup : Setup σ ρ)
    (start : Effects σ ρ)
    (final : Account)
    (pipeline : Pipeline σ ρ) : Prop where
  faithful : pipeline.phase.isDoomed = false ->
    pipeline.Faithful setup start (.ok final)
  bounded : (pipeline.runs setup.sweep).Subperm
    (start.visitAll setup.sweep final.views).visited
  distinct : pipeline.inHand.Nodup

theorem Confined.act
    {action : Action}
    (confined : pipeline.Confined setup start final)
    (acts : pipeline.act setup action = some next) :
    next.Confined setup start final := by
  cases doomed : next.phase.isDoomed with
  | true =>
      have drained : pipeline.phase = .stopping -> pipeline.queue = [] :=
        fun stopping => ((confined.faithful (by rw [stopping]; rfl)).idle
          stopping).1
      obtain ⟨fewer, inHand⟩ := runs_act doomed confined.distinct drained acts
      refine ⟨fun sound => ?_, fewer.trans confined.bounded,
        inHand.nodup confined.distinct⟩
      rw [doomed] at sound
      cases sound
  | false =>
      have sound : pipeline.phase.isDoomed = false := by
        rw [Bool.eq_false_iff]
        intro before
        rw [isDoomed_act before acts] at doomed
        cases doomed
      have faithful := (confined.faithful sound).act_of_sound acts doomed
      obtain ⟨bounded, distinct⟩ := faithful.runs doomed
      exact ⟨fun _ => faithful, bounded, distinct⟩

theorem Confined.follow
    {actions : List Action}
    (confined : pipeline.Confined setup start final)
    (follows : pipeline.follow setup actions = some next) :
    next.Confined setup start final := by
  induction actions generalizing pipeline with
  | nil =>
      cases follows
      exact confined
  | cons action actions hypothesis =>
      rw [follow_cons] at follows
      obtain ⟨middle, acts, follows⟩ := Option.bind_eq_some_iff.1 follows
      exact hypothesis (confined.act acts) follows

/-! ## As long as no wait runs out -/

/-- A job that has ended with a run for each view foreseen. -/
structure Exhausted
    (sweep : Sweep σ ρ)
    (start : Effects σ ρ)
    (final : Account)
    (pipeline : Pipeline σ ρ) : Prop where
  ended : ∃ result, pipeline.phase = .ended result
  drained : pipeline.queue = []
  idle : pipeline.running = []
  visited : pipeline.effects.visited.Perm
    (start.visitAll sweep final.views).visited

/-- Nothing more is run in a job that has ended with all runs made. -/
theorem Exhausted.act
    {action : Action}
    (exhausted : pipeline.Exhausted setup.sweep start final)
    (acts : pipeline.act setup action = some next) :
    next.Exhausted setup.sweep start final := by
  obtain ⟨⟨result, ended⟩, drained, idle, visited⟩ := exhausted
  cases action with
  | read stream =>
      cases reads_of_read acts with
      | primary | channel => exact ⟨⟨result, ended⟩, drained, idle, visited⟩
  | join =>
      rw [Pipeline.act, join, ended] at acts
      cases acts
  | release order =>
      rw [Pipeline.act, release, ended] at acts
      cases acts
  | pick =>
      obtain ⟨view, rest, queue, rfl⟩ := pick_eq_some acts
      rw [drained] at queue
      cases queue
  | work position =>
      rw [Pipeline.act, work, idle] at acts
      cases acts
  | breakOff position =>
      obtain ⟨-, within, -⟩ := breakOff_eq_some acts
      rw [idle] at within
      cases within
  | expire =>
      rw [Pipeline.act, expire, ended] at acts
      cases acts

/-- Merging that has no answer ends the job with all runs made. -/
theorem Faithful.exhausted_of_stopping
    (faithful : pipeline.Faithful setup start (.ok final))
    (stopping : pipeline.phase = .stopping) :
    pipeline.queue = [] ∧ pipeline.running = [] ∧
      pipeline.effects.visited.Perm
        (start.visitAll setup.sweep final.views).visited := by
  obtain ⟨drained, idle⟩ := faithful.idle stopping
  have runs := (faithful.pooled (by rw [stopping]; rfl)).runs
  rw [runs_of_drained drained] at runs
  have foretold := faithful.foretold
  simp only [forecast, stopping, Setup.released] at foretold
  refine ⟨drained, idle, ?_⟩
  split at foretold
  · cases foretold
  · cases foretold
    exact runs

/-- As long as no wait runs out, a job keeps to its forecast or has ended with all runs
made. -/
theorem Faithful.act_or_exhausted
    {action : Action}
    (faithful : pipeline.Faithful setup start (.ok final))
    (punctual : action ≠ .expire)
    (acts : pipeline.act setup action = some next) :
    next.Faithful setup start (.ok final) ∨
      next.Exhausted setup.sweep start final := by
  rcases faithful.act_or_loses punctual acts with kept | loses
  · exact Or.inl kept
  · obtain ⟨drained, idle, visited⟩ :=
      faithful.exhausted_of_stopping loses.stopping
    obtain ⟨order, -, -, releases⟩ := loses.stuck
    right
    cases releases with
    | refused fault _ fails =>
        rw [loses.released] at fails
        cases fails
    | merged | plain => exact ⟨⟨_, rfl⟩, drained, idle, visited⟩

theorem Faithful.follow_or_exhausted
    {actions : List Action}
    (before : pipeline.Faithful setup start (.ok final) ∨
      pipeline.Exhausted setup.sweep start final)
    (punctual : .expire ∉ actions)
    (follows : pipeline.follow setup actions = some next) :
    next.Faithful setup start (.ok final) ∨
      next.Exhausted setup.sweep start final := by
  induction actions generalizing pipeline with
  | nil =>
      cases follows
      exact before
  | cons action actions hypothesis =>
      rw [List.mem_cons, not_or] at punctual
      rw [follow_cons] at follows
      obtain ⟨middle, acts, follows⟩ := Option.bind_eq_some_iff.1 follows
      refine hypothesis ?_ punctual.2 follows
      rcases before with faithful | exhausted
      · exact faithful.act_or_exhausted (Ne.symm punctual.1) acts
      · exact Or.inr (exhausted.act acts)

end Doomed
end Pipeline
end GraphSweep
