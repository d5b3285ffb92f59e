import GraphSweep.Proofs.Pipeline.Steps

/-!
# The workers of a job under way

Several runs of the program are under way at a time, each somewhere between its
writes, and other vertices wait in the queue. Letting the runs go to their ends
and then running the program for the vertices that wait, one after another, comes
to the same at any time: to what the program comes to when it is run for all
vertices dispatched so far, in order. No two runs are for the same vertex, and so
they do not meet.
-/

namespace GraphSweep

namespace Running

variable {σ ρ : Type}

/-- The entry that the rest of a run leaves for its vertex, given the one it has
now. -/
def leaves (run : Running σ ρ) (held : Option (Option σ)) :
    Option (Option σ) :=
  if run.visited.visit.ending = .completed then
    match run.due.getLast? with
    | some state => some (some state)
    | none => held
  else some none

end Running

namespace Effects

variable {σ ρ : Type}

/-- Write some states for a vertex, in order. -/
def writeAll
    (effects : Effects σ ρ)
    (id : VertexId)
    (states : List σ) : Effects σ ρ :=
  states.foldl (fun current state => current.write id state) effects

/-- Let a run go to its end. -/
def complete (effects : Effects σ ρ) (run : Running σ ρ) : Effects σ ρ :=
  (effects.writeAll run.id run.due).finish run.visited

/-- Let some runs go to their ends, one after another. -/
def completeAll
    (effects : Effects σ ρ)
    (runs : List (Running σ ρ)) : Effects σ ρ :=
  runs.foldl complete effects

/-! ## One run -/

theorem entry?_writeAll
    (effects : Effects σ ρ)
    (id other : VertexId)
    (states : List σ) :
    StateStore.entry? (effects.writeAll id states).store other =
      match states.getLast? with
      | some state =>
          if other = id then some (some state)
          else effects.store.entry? other
      | none => effects.store.entry? other := by
  induction states generalizing effects with
  | nil => rfl
  | cons state states hypothesis =>
      have first : StateStore.entry? (effects.write id state).store other =
          if other = id then some (some state)
          else effects.store.entry? other :=
        StateStore.entry?_put _ _ _ _
      have later : effects.writeAll id (state :: states) =
          (effects.write id state).writeAll id states := rfl
      rw [later, hypothesis, first]
      cases states with
      | nil => rfl
      | cons next others =>
          rw [List.getLast?_cons_cons]
          cases last : (next :: others).getLast? with
          | none => simp at last
          | some state =>
              dsimp only
              split <;> rfl

/-- Writing states changes nothing but the store. -/
theorem writeAll_frame
    (effects : Effects σ ρ)
    (id : VertexId)
    (states : List σ) :
    (effects.writeAll id states).store.layout = effects.store.layout ∧
      (effects.writeAll id states).store.merged = effects.store.merged ∧
      (effects.writeAll id states).failed = effects.failed ∧
      (effects.writeAll id states).visited = effects.visited := by
  induction states generalizing effects with
  | nil => exact ⟨rfl, rfl, rfl, rfl⟩
  | cons state states hypothesis => exact hypothesis (effects.write id state)

/-- What letting a run go to its end does to the entries. -/
theorem entry?_complete
    (effects : Effects σ ρ)
    (run : Running σ ρ)
    (other : VertexId) :
    StateStore.entry? (effects.complete run).store other =
      if other = run.id then run.leaves (effects.store.entry? run.id)
      else effects.store.entry? other := by
  have wrote := entry?_writeAll effects run.id other run.due
  rw [complete, finish, Running.leaves]
  by_cases completed : run.visited.visit.ending = .completed
  · rw [if_pos completed, if_pos completed, wrote]
    cases run.due.getLast? with
    | none =>
        dsimp only
        split
        · next same => rw [same]
        · rfl
    | some state => rfl
  · rw [if_neg completed, if_neg completed]
    have invalidated : StateStore.entry?
        ((effects.writeAll run.id run.due).store.invalidate run.id) other =
      if other = run.id then some none
      else StateStore.entry? (effects.writeAll run.id run.due).store other :=
      StateStore.entry?_put _ _ _ _
    apply invalidated.trans
    by_cases same : other = run.id
    · rw [if_pos same, if_pos same]
    · rw [if_neg same, if_neg same, wrote]
      cases run.due.getLast? with
      | none => rfl
      | some state => exact if_neg same

@[simp] theorem layout_complete
    (effects : Effects σ ρ)
    (run : Running σ ρ) :
    (effects.complete run).store.layout = effects.store.layout := by
  have frame := (writeAll_frame effects run.id run.due).1
  rw [complete, finish]
  split <;> exact frame

@[simp] theorem merged_complete
    (effects : Effects σ ρ)
    (run : Running σ ρ) :
    (effects.complete run).store.merged = effects.store.merged := by
  have frame := (writeAll_frame effects run.id run.due).2.1
  rw [complete, finish]
  split <;> exact frame

@[simp] theorem failed_complete
    (effects : Effects σ ρ)
    (run : Running σ ρ) :
    (effects.complete run).failed =
      effects.failed + run.visited.visit.missed := by
  have frame := (writeAll_frame effects run.id run.due).2.2.1
  rw [complete, finish, Visit.missed]
  split
  · exact frame
  · exact congrArg (· + 1) frame

@[simp] theorem visited_complete
    (effects : Effects σ ρ)
    (run : Running σ ρ) :
    (effects.complete run).visited = effects.visited := by
  have frame := (writeAll_frame effects run.id run.due).2.2.2
  rw [complete, finish]
  split <;> exact frame

theorem Same.complete
    {left right : Effects σ ρ}
    (same : Same left right)
    (run : Running σ ρ) :
    Same (left.complete run) (right.complete run) := by
  refine ⟨⟨?_, ?_, fun id => ?_⟩, ?_, ?_⟩
  · rw [layout_complete, layout_complete, same.store.layout]
  · rw [merged_complete, merged_complete, same.store.merged]
  · rw [entry?_complete, entry?_complete, same.store.entry, same.store.entry]
  · rw [failed_complete, failed_complete, same.failed]
  · rw [visited_complete, visited_complete]
    exact same.visited

/-- Two runs for different vertices do not meet. -/
theorem complete_comm
    (effects : Effects σ ρ)
    {first second : Running σ ρ}
    (different : first.id ≠ second.id) :
    Same ((effects.complete first).complete second)
      ((effects.complete second).complete first) := by
  refine ⟨⟨by simp, by simp, fun id => ?_⟩, ?_, by simp⟩
  · rw [entry?_complete, entry?_complete, entry?_complete, entry?_complete,
      entry?_complete, entry?_complete]
    by_cases one : id = first.id
    · rw [if_neg (one ▸ different), if_pos one, if_pos one,
        if_neg different]
    · by_cases two : id = second.id
      · rw [if_pos two, if_neg one, if_pos two, if_neg different.symm]
      · rw [if_neg two, if_neg one, if_neg one, if_neg two]
  · rw [failed_complete, failed_complete, failed_complete, failed_complete]
    omega

/-- A run that goes from its start to its end is a visit. -/
theorem complete_start
    (sweep : Sweep σ ρ)
    (effects : Effects σ ρ)
    (view : View)
    (inlined : Bool) :
    Same
      ((effects.note ⟨view, effects.visitOf sweep view⟩).complete
        (Running.start ⟨view, effects.visitOf sweep view⟩ inlined))
      (effects.visit sweep view) := by
  refine ⟨⟨?_, ?_, fun id => ?_⟩, ?_, ?_⟩
  · rw [layout_complete, store_visit, StateStore.layout_settle]
    rfl
  · rw [merged_complete, store_visit, StateStore.merged_settle]
    rfl
  · rw [entry?_complete, store_visit, StateStore.entry?_settle]
    have leaves (held : Option (Option σ)) :
        Running.leaves
          (Running.start ⟨view, effects.visitOf sweep view⟩ inlined) held =
        (effects.visitOf sweep view).leaves held := by
      rw [Running.leaves, Visit.leaves, Visit.written]
      simp only [Running.start, List.getLast?_reverse, List.head?_map]
      cases (effects.visitOf sweep view).ending <;>
        cases (effects.visitOf sweep view).writes.head? <;> rfl
    rw [leaves]
    rfl
  · rw [failed_complete]
    rfl
  · rw [visited_complete]
    exact List.Perm.refl _

/-- A run leaves the runs for other vertices as they are. -/
theorem visitOf_complete
    (sweep : Sweep σ ρ)
    (effects : Effects σ ρ)
    {run : Running σ ρ}
    {view : View}
    (different : view.id ≠ run.id) :
    (effects.complete run).visitOf sweep view = effects.visitOf sweep view := by
  rw [visitOf, visitOf, StateStore.own, StateStore.own, StateStore.own?,
    StateStore.own?, entry?_complete, if_neg different]

/-- Noting one run more does not affect another. -/
theorem complete_note
    (effects : Effects σ ρ)
    (visited : Visited σ ρ)
    (run : Running σ ρ) :
    (effects.note visited).complete run =
      (effects.complete run).note visited := by
  have wrote : (effects.note visited).writeAll run.id run.due =
      (effects.writeAll run.id run.due).note visited := by
    generalize run.due = states
    induction states generalizing effects with
    | nil => rfl
    | cons state states hypothesis => exact hypothesis (effects.write run.id state)
  rw [complete, complete, wrote, finish, finish]
  split <;> rfl

/-! ## All runs -/

@[simp] theorem completeAll_cons
    (effects : Effects σ ρ)
    (run : Running σ ρ)
    (runs : List (Running σ ρ)) :
    effects.completeAll (run :: runs) =
      (effects.complete run).completeAll runs := rfl

theorem completeAll_append
    (effects : Effects σ ρ)
    (first second : List (Running σ ρ)) :
    effects.completeAll (first ++ second) =
      (effects.completeAll first).completeAll second :=
  List.foldl_append

theorem Same.completeAll
    {left right : Effects σ ρ}
    (same : Same left right)
    (runs : List (Running σ ρ)) :
    Same (left.completeAll runs) (right.completeAll runs) := by
  induction runs generalizing left right with
  | nil => exact same
  | cons run runs hypothesis => exact hypothesis (same.complete run)

/-- Runs for different vertices may come to their ends in any order. -/
theorem completeAll_perm
    (effects : Effects σ ρ)
    {runs others : List (Running σ ρ)}
    (distinct : (runs.map Running.id).Nodup)
    (perm : runs.Perm others) :
    Same (effects.completeAll runs) (effects.completeAll others) := by
  induction perm generalizing effects with
  | nil => exact Same.refl _
  | cons run _ hypothesis =>
      rw [List.map_cons, List.nodup_cons] at distinct
      exact hypothesis (effects.complete run) distinct.2
  | swap first second runs =>
      rw [List.map_cons, List.map_cons, List.nodup_cons] at distinct
      have different : second.id ≠ first.id := by
        intro same
        exact distinct.1 (same ▸ List.mem_cons_self)
      exact (complete_comm effects different).completeAll runs
  | trans before _ earlier later =>
      have middle := (before.map Running.id).nodup_iff.1 distinct
      exact (earlier effects distinct).trans (later effects middle)

/-- Noting one run more does not affect the others. -/
theorem completeAll_note
    (effects : Effects σ ρ)
    (visited : Visited σ ρ)
    (runs : List (Running σ ρ)) :
    (effects.note visited).completeAll runs =
      (effects.completeAll runs).note visited := by
  induction runs generalizing effects with
  | nil => rfl
  | cons run runs hypothesis =>
      rw [completeAll_cons, complete_note, hypothesis, completeAll_cons]

/-- Runs leave the runs for other vertices as they are. -/
theorem visitOf_completeAll
    (sweep : Sweep σ ρ)
    (effects : Effects σ ρ)
    {runs : List (Running σ ρ)}
    {view : View}
    (apart : view.id ∉ runs.map Running.id) :
    (effects.completeAll runs).visitOf sweep view =
      effects.visitOf sweep view := by
  induction runs generalizing effects with
  | nil => rfl
  | cons run runs hypothesis =>
      rw [List.map_cons, List.mem_cons, not_or] at apart
      rw [completeAll_cons, hypothesis _ apart.2,
        visitOf_complete sweep effects apart.1]

/-- Starting a run beside others comes to visiting its vertex after them. -/
theorem completeAll_launch
    (sweep : Sweep σ ρ)
    (effects : Effects σ ρ)
    {runs : List (Running σ ρ)}
    {view : View}
    (inlined : Bool)
    (apart : view.id ∉ runs.map Running.id) :
    Same
      ((effects.note ⟨view, effects.visitOf sweep view⟩).completeAll
        (runs ++
          [Running.start ⟨view, effects.visitOf sweep view⟩ inlined]))
      ((effects.completeAll runs).visit sweep view) := by
  have visit := visitOf_completeAll sweep effects apart
  have launched := complete_start sweep (effects.completeAll runs) view inlined
  rw [visit] at launched
  rw [completeAll_append, completeAll_note]
  exact launched

/-- One step of a run among others. -/
theorem completeAll_step
    (effects after : Effects σ ρ)
    {runs rest next : List (Running σ ρ)}
    {position : Nat}
    {run : Running σ ρ}
    (distinct : (runs.map Running.id).Nodup)
    (found : runs[position]? = some run)
    (step : Same (effects.complete run) (after.completeAll rest))
    (distinctNext : (next.map Running.id).Nodup)
    (perm : next.Perm (rest ++ runs.eraseIdx position)) :
    Same (after.completeAll next) (effects.completeAll runs) := by
  obtain ⟨within, rfl⟩ := List.getElem?_eq_some_iff.1 found
  have moved := completeAll_perm after distinctNext perm
  have front := completeAll_perm effects distinct
    (List.getElem_cons_eraseIdx_perm within).symm
  rw [completeAll_append] at moved
  rw [completeAll_cons] at front
  exact moved.trans ((step.completeAll _).symm.trans front.symm)

end Effects

namespace JoinPhase

/-- Whether the job has neither ended nor been given up. -/
def isUnderway : JoinPhase -> Bool
  | probing | seeking _ _ _ _ | submitting _ | inlining | draining | stopping =>
      true
  | failing _ | abandoning _ | ended _ => false

/-- The vertex that the join is handling. -/
def vertex? : JoinPhase -> Option VertexId
  | seeking id _ _ _ => some id
  | submitting view => some view.id
  | probing | inlining | draining | stopping | failing _ | abandoning _
  | ended _ => none

end JoinPhase

namespace Pipeline

variable {σ ρ : Type}

/-- What the runs come to that are being made or are still to be made. -/
def flushed (sweep : Sweep σ ρ) (pipeline : Pipeline σ ρ) : Effects σ ρ :=
  (pipeline.effects.completeAll pipeline.running).visitAll sweep pipeline.queue

/-- The vertices in the hands of the workers. -/
def inHand (pipeline : Pipeline σ ρ) : List VertexId :=
  pipeline.running.map Running.id ++ pipeline.queue.map View.id

/-- The workers are about to come to what the program comes to when it is run for
all vertices dispatched so far. -/
structure Pooled
    (sweep : Sweep σ ρ)
    (start : Effects σ ρ)
    (pipeline : Pipeline σ ρ) : Prop where
  flushes : Effects.Same (pipeline.flushed sweep)
    (start.visitAll sweep pipeline.account.views)
  distinct : pipeline.inHand.Nodup
  dispatched : ∀ id ∈ pipeline.inHand, id ∈ pipeline.account.views.map View.id

/-- The vertex that the join is handling keeps to what the first stream names in
order, and so do the vertices dispatched before. -/
structure Ordered (pipeline : Pipeline σ ρ) : Prop where
  ascends : pipeline.account.Ascends
  faces : ∀ id, pipeline.phase.vertex? = some id -> pipeline.account.Faces id

section Steps

variable {setup : Setup σ ρ} {pipeline next : Pipeline σ ρ}

/-- The join handles the vertices in order. -/
theorem Ordered.joins
    (ordered : pipeline.Ordered)
    (joins : pipeline.Joins setup next) :
    next.Ordered := by
  have handled : ∀ {id : VertexId}, pipeline.phase.vertex? = some id ->
      pipeline.account.Faces id := ordered.faces _
  cases joins with
  | skips item rest phase queue past =>
      refine ⟨ordered.ascends.skip, ?_⟩
      intro id current
      simp only [phase, JoinPhase.vertex?] at current
      cases current
  | meets item rest live phase queue fresh exist =>
      have faces := ordered.ascends.meet fresh
      refine ⟨faces.ascends, ?_⟩
      intro id current
      cases current
      exact faces
  | chokes item rest error phase queue fresh exist =>
      refine ⟨(ordered.ascends.meet fresh).ascends, ?_⟩
      intro id current
      cases current
  | moves id live fetched position channel moved dropped phase found glance =>
      refine ⟨ordered.ascends.drop dropped, ?_⟩
      intro other current
      exact (ordered.faces other current).drop dropped
  | passes id live fetched position channel passed entries phase found glance =>
      refine ⟨ordered.ascends, ?_⟩
      intro other current
      cases current
      exact handled (by rw [phase]; rfl)
  | completes id fetched position phase spent =>
      refine ⟨ordered.ascends, ?_⟩
      intro other current
      cases current
      exact handled (by rw [phase]; rfl)
  | deletes id fetched position phase spent =>
      refine ⟨ordered.ascends.delete, ?_⟩
      intro other current
      cases current
  | queues view phase room =>
      have faces : pipeline.account.Faces view.id :=
        handled (by rw [phase]; rfl)
      refine ⟨faces.dispatch, ?_⟩
      intro other current
      cases current
  | inlines view phase full =>
      have faces : pipeline.account.Faces view.id :=
        handled (by rw [phase]; rfl)
      refine ⟨faces.dispatch, ?_⟩
      intro other current
      cases current
  | drains | breaks | fails | resumes | stops | abandons | ends =>
      refine ⟨ordered.ascends, ?_⟩
      intro other current
      cases current

/-- What the workers are about rests on little. -/
theorem Pooled.of_eq
    {sweep : Sweep σ ρ}
    {start : Effects σ ρ}
    (pooled : pipeline.Pooled sweep start)
    (effects : next.effects = pipeline.effects)
    (running : next.running = pipeline.running)
    (queue : next.queue = pipeline.queue)
    (views : next.account.views = pipeline.account.views) :
    next.Pooled sweep start := by
  have inHand : next.inHand = pipeline.inHand := by
    rw [Pipeline.inHand, Pipeline.inHand, running, queue]
  refine ⟨?_, ?_, ?_⟩
  · rw [flushed, effects, running, queue, views]
    exact pooled.flushes
  · rw [inHand]
    exact pooled.distinct
  · rw [inHand, views]
    exact pooled.dispatched

/-- A run that has just been started comes before the vertices that wait. -/
theorem flushed_launch
    (setup : Setup σ ρ)
    (pipeline : Pipeline σ ρ)
    {view : View}
    (inlined : Bool)
    (apart : view.id ∉ pipeline.running.map Running.id) :
    Effects.Same ((launch setup pipeline view inlined).flushed setup.sweep)
      (((pipeline.effects.completeAll pipeline.running).visit setup.sweep
        view).visitAll setup.sweep pipeline.queue) :=
  (Effects.completeAll_launch setup.sweep pipeline.effects inlined apart).visitAll
    setup.sweep pipeline.queue

/-- A run that has just been started is in hand. -/
theorem inHand_launch
    (setup : Setup σ ρ)
    (pipeline : Pipeline σ ρ)
    (view : View)
    (inlined : Bool) :
    (launch setup pipeline view inlined).inHand =
      pipeline.running.map Running.id ++ [view.id] ++
        pipeline.queue.map View.id := by
  rw [inHand, launch, List.map_append]
  rfl

/-- A vertex that is dispatched is in nobody's hands yet. -/
theorem not_mem_inHand
    {sweep : Sweep σ ρ}
    {start : Effects σ ρ}
    {view : View}
    (pooled : pipeline.Pooled sweep start)
    (faces : pipeline.account.Faces view.id) :
    view.id ∉ pipeline.inHand := by
  intro member
  obtain ⟨other, dispatched, same⟩ :=
    List.mem_map.1 (pooled.dispatched _ member)
  have earlier := faces.earlier other dispatched
  rw [same] at earlier
  exact Int64.lt_irrefl earlier

/-- A vertex is dispatched by taking it in hand to be run after all others. -/
theorem Pooled.dispatch
    {sweep : Sweep σ ρ}
    {start : Effects σ ρ}
    {view : View}
    (pooled : pipeline.Pooled sweep start)
    (faces : pipeline.account.Faces view.id)
    (views : next.account.views = pipeline.account.views ++ [view])
    (perm : next.inHand.Perm (view.id :: pipeline.inHand))
    (last : Effects.Same (next.flushed sweep)
      ((pipeline.flushed sweep).visit sweep view)) :
    next.Pooled sweep start := by
  have apart := not_mem_inHand pooled faces
  refine ⟨?_, ?_, fun id member => ?_⟩
  · rw [views, Effects.visitAll_append]
    exact last.trans (pooled.flushes.visit sweep view)
  · exact perm.nodup_iff.2 (List.nodup_cons.2 ⟨apart, pooled.distinct⟩)
  · rw [views, List.map_append]
    rcases List.mem_cons.1 (perm.mem_iff.1 member) with here | before
    · exact List.mem_append_right _ (here ▸ List.mem_singleton_self _)
    · exact List.mem_append_left _ (pooled.dispatched id before)

/-- The join hands vertices over to be run after all others. -/
theorem Pooled.joins
    {start : Effects σ ρ}
    (ordered : pipeline.Ordered)
    (pooled : pipeline.phase.isUnderway ->
      pipeline.Pooled setup.sweep start)
    (joins : pipeline.Joins setup next)
    (underway : next.phase.isUnderway) :
    next.Pooled setup.sweep start := by
  cases joins with
  | skips item rest phase | meets item rest live phase | drains phase
  | moves id live fetched position channel moved dropped phase
  | passes id live fetched position channel passed entries phase
  | completes id fetched position phase | deletes id fetched position phase
  | resumes phase | stops phase =>
      have before := pooled (by rw [phase]; rfl)
      exact before.of_eq rfl rfl rfl rfl
  | queues view phase room =>
      have before := pooled (by rw [phase]; rfl)
      have faces := ordered.faces view.id (by rw [phase]; rfl)
      apply before.dispatch faces rfl
      · rw [inHand, List.map_append, ← List.append_assoc]
        exact List.perm_append_singleton _ _
      · rw [flushed, Effects.visitAll_append]
        exact Effects.Same.refl _
  | inlines view phase full =>
      have before := pooled (by rw [phase]; rfl)
      have faces := ordered.faces view.id (by rw [phase]; rfl)
      have apart := not_mem_inHand before faces
      rw [inHand, List.mem_append, not_or] at apart
      apply before.dispatch faces rfl
      · have moved := List.perm_append_singleton view.id
          (pipeline.running.map Running.id)
        have launched := inHand_launch setup pipeline view true
        exact (launched ▸ moved.append_right _ :)
      · have waiting : ∀ other ∈ pipeline.queue, view.id ≠ other.id := by
          intro other member same
          exact apart.2 (same ▸ List.mem_map_of_mem member)
        exact (flushed_launch setup pipeline true apart.1).trans
          (Effects.visit_visitAll setup.sweep _ waiting)
  | chokes | breaks | fails | abandons | ends => cases underway

/-- Picking a vertex leaves the vertices in hand as they are. -/
theorem inHand_pick
    {view : View}
    {rest : List View}
    (waits : pipeline.queue = view :: rest) :
    inHand (launch setup { pipeline with queue := rest } view false) =
      pipeline.inHand := by
  rw [inHand_launch, Pipeline.inHand, waits, List.append_assoc]
  rfl

/-- Picking a vertex leaves what is to be run as it is. -/
theorem Pooled.pick
    {start : Effects σ ρ}
    (pooled : pipeline.Pooled setup.sweep start)
    (acts : pipeline.pick setup = some next) :
    next.Pooled setup.sweep start := by
  obtain ⟨view, rest, queue, rfl⟩ := pick_eq_some acts
  have inHand : inHand (launch setup { pipeline with queue := rest } view false) =
      pipeline.inHand := inHand_pick queue
  have apart : view.id ∉ pipeline.running.map Running.id := by
    have distinct := pooled.distinct
    rw [Pipeline.inHand, queue, List.map_cons] at distinct
    intro member
    exact (List.nodup_append'.1 distinct).2.2 member List.mem_cons_self
  have launched := flushed_launch setup { pipeline with queue := rest } false
    apart
  have before : pipeline.flushed setup.sweep =
      ((pipeline.effects.completeAll pipeline.running).visit setup.sweep
        view).visitAll setup.sweep rest := by
    rw [flushed, queue, Effects.visitAll_cons]
  refine ⟨?_, ?_, ?_⟩
  · exact launched.trans (before ▸ pooled.flushes)
  · exact inHand ▸ pooled.distinct
  · exact inHand ▸ pooled.dispatched

/-- A step of a run takes no vertex in hand. -/
theorem inHand_works
    {position : Nat}
    (works : pipeline.Works position next) :
    next.inHand.Sublist pipeline.inHand := by
  cases works with
  | writes run state due found =>
      have ids : (pipeline.running.set position { run with due := due }).map
          Running.id = pipeline.running.map Running.id :=
        map_set_of_eq found rfl
      rw [inHand, inHand, ids]
  | finishes run found spent =>
      have fewer : (pipeline.running.eraseIdx position).Sublist
          pipeline.running := List.eraseIdx_sublist _ _
      exact (fewer.map Running.id).append_right _

/-- A step of a run leaves what the runs come to as it is. -/
theorem Pooled.works
    {sweep : Sweep σ ρ}
    {start : Effects σ ρ}
    {position : Nat}
    (pooled : pipeline.Pooled sweep start)
    (works : pipeline.Works position next) :
    next.Pooled sweep start := by
  have inHand := inHand_works works
  have distinct : (pipeline.running.map Running.id).Nodup :=
    (List.nodup_append'.1 pooled.distinct).1
  have distinctNext : (next.running.map Running.id).Nodup :=
    (List.nodup_append'.1 (inHand.nodup pooled.distinct)).1
  have dispatched : ∀ id ∈ next.inHand,
      id ∈ pipeline.account.views.map View.id :=
    fun id member => pooled.dispatched id (inHand.subset member)
  cases works with
  | writes run state due found next =>
      have within := (List.getElem?_eq_some_iff.1 found).1
      have wrote : pipeline.effects.complete run =
          (pipeline.effects.write run.id state).completeAll
            [{ run with due := due }] := by
        rw [Effects.complete, next]
        rfl
      have same := Effects.completeAll_step pipeline.effects
        (pipeline.effects.write run.id state) distinct found
        (by rw [wrote]) distinctNext
        (List.set_perm_cons_eraseIdx within { run with due := due })
      exact ⟨(same.visitAll sweep pipeline.queue).trans pooled.flushes,
        inHand.nodup pooled.distinct, dispatched⟩
  | finishes run found spent =>
      have finished : pipeline.effects.complete run =
          (pipeline.effects.finish run.visited).completeAll [] := by
        rw [Effects.complete, spent]
        rfl
      have same := Effects.completeAll_step pipeline.effects
        (pipeline.effects.finish run.visited) distinct found
        (by rw [finished]) distinctNext (List.Perm.refl _)
      exact ⟨(same.visitAll sweep pipeline.queue).trans pooled.flushes,
        inHand.nodup pooled.distinct, dispatched⟩

/-- With the workers idle, the runs have come to what the dispatched vertices come
to one after another. -/
theorem Pooled.effects_of_idle
    {sweep : Sweep σ ρ}
    {start : Effects σ ρ}
    (pooled : pipeline.Pooled sweep start)
    (drained : pipeline.queue = [])
    (idle : pipeline.running = []) :
    pipeline.effects.Same (start.visitAll sweep pipeline.account.views) := by
  have flushes := pooled.flushes
  rw [flushed, drained, idle] at flushes
  exact flushes

end Steps
end Pipeline
end GraphSweep
