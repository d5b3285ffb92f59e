import GraphSweep.Pipeline.Account
import GraphSweep.Proofs.Join.Effects

/-!
# The course of a join

The program of a job has no say in the join: which vertices are met, dispatched
and skipped is settled by the streams alone. The course of a join is what is left
of it when the program and the states are forgotten, and the join is its course
together with the runs of the program for the dispatched vertices.
-/

namespace GraphSweep

/-- Steps that succeed one after another succeed each. -/
theorem exists_of_bind_eq_ok
    {ε α β : Type}
    {first : Except ε α}
    {rest : α -> Except ε β}
    {result : β}
    (succeeds : first >>= rest = .ok result) :
    ∃ value, first = .ok value ∧ rest value = .ok result := by
  cases first with
  | error error => cases succeeds
  | ok value => exact ⟨value, rfl, succeeds⟩

namespace Account

@[simp] theorem drop_zero (account : Account) : account.drop 0 = account := rfl

@[simp] theorem drop_drop (account : Account) (first second : Nat) :
    (account.drop first).drop second = account.drop (first + second) := by
  simp [drop, Nat.add_assoc]

/-- The dispatched vertices ascend, up to the last vertex named. -/
structure Ascends (account : Account) : Prop where
  sorted : account.views.Pairwise fun view other => view.id < other.id
  named : ∀ view ∈ account.views,
    ∃ last, account.last = some last ∧ view.id ≤ last

/-- The vertex named last comes after all dispatched vertices. -/
structure Faces (account : Account) (id : VertexId) : Prop where
  met : account.last = some id
  sorted : account.views.Pairwise fun view other => view.id < other.id
  earlier : ∀ view ∈ account.views, view.id < id

theorem Ascends.blank : blank.Ascends := by
  refine ⟨List.Pairwise.nil, ?_⟩
  intro view member
  cases member

section Order

variable {account : Account} {id : VertexId}

theorem Faces.ascends (faces : account.Faces id) : account.Ascends := by
  refine ⟨faces.sorted, fun view member => ⟨id, faces.met, ?_⟩⟩
  exact Int64.le_of_lt (faces.earlier view member)

theorem Ascends.skip (ascends : account.Ascends) : account.skip.Ascends :=
  ⟨ascends.sorted, ascends.named⟩

theorem Ascends.drop (ascends : account.Ascends) (count : Nat) :
    (account.drop count).Ascends :=
  ⟨ascends.sorted, ascends.named⟩

theorem Ascends.delete (ascends : account.Ascends) : account.delete.Ascends :=
  ⟨ascends.sorted, ascends.named⟩

theorem Faces.drop (faces : account.Faces id) (count : Nat) :
    (account.drop count).Faces id :=
  ⟨faces.met, faces.sorted, faces.earlier⟩

/-- A vertex that is not past comes after all dispatched vertices. -/
theorem Ascends.meet
    (ascends : account.Ascends)
    (fresh : account.isPast id = false) :
    (account.meet id).Faces id := by
  refine ⟨rfl, ascends.sorted, ?_⟩
  intro view member
  obtain ⟨last, named, bounded⟩ := ascends.named view member
  have later : ¬id ≤ last := by
    simpa [isPast, named] using fresh
  exact Int64.lt_of_le_of_lt bounded (Int64.not_le.1 later)

/-- The vertex named last may be dispatched. -/
theorem Faces.dispatch
    {view : View}
    (faces : account.Faces view.id) :
    (account.dispatch view).Ascends := by
  refine ⟨?_, fun other member => ⟨view.id, faces.met, ?_⟩⟩
  · rw [Account.dispatch, List.pairwise_append]
    refine ⟨faces.sorted, List.pairwise_singleton _ _, ?_⟩
    intro other earlier same here
    rw [List.mem_singleton.1 here]
    exact faces.earlier other earlier
  · rcases List.mem_append.1 member with earlier | here
    · exact Int64.le_of_lt (faces.earlier other earlier)
    · rw [List.mem_singleton.1 here]
      exact Int64.le_refl _

end Order

end Account

/-- A join between two vertices, the program apart. -/
structure Course where
  account : Account
  lanes : List Lane

namespace Course

/-- Handle one item of the first stream. -/
def step
    (policy : FailurePolicy)
    (course : Course)
    (item : Item) : Except JobError Course :=
  if course.account.isPast item.id then
    .ok { course with account := course.account.skip }
  else do
    let live <- item.exists?
    let sought <- Lane.seekAll policy item.id course.lanes
    let noted := (course.account.meet item.id).drop
      (Sought.totalDropped sought)
    return ⟨noted.settle live ⟨item.id, Sought.fetched sought⟩,
      sought.map Sought.lane⟩

/-- Handle the items of the first stream and then its end. -/
def run
    (policy : FailurePolicy)
    (ending : FeedEnd)
    (course : Course) : List Item -> Except JobError Course
  | [] => do
      policy.atEnd 0 ending
      return course
  | item :: rest => do
      let next <- course.step policy item
      next.run policy ending rest

/-- What is noted in the end: items held by the lanes go unclaimed. -/
def close (course : Course) : Account :=
  course.account.drop
    (course.lanes.filter fun lane => lane.held.isSome).length

@[simp] theorem run_nil
    (policy : FailurePolicy)
    (ending : FeedEnd)
    (course : Course) :
    course.run policy ending [] =
      (policy.atEnd 0 ending).map fun _ => course := by
  unfold run
  cases policy.atEnd 0 ending <;> rfl

@[simp] theorem run_cons
    (policy : FailurePolicy)
    (ending : FeedEnd)
    (course : Course)
    (item : Item)
    (rest : List Item) :
    course.run policy ending (item :: rest) =
      (course.step policy item).bind fun next =>
        next.run policy ending rest := rfl

end Course

namespace Progress

variable {σ ρ : Type}

/-- What has been noted in a join, the program apart. -/
def account (progress : Progress σ ρ) : Account where
  last := progress.last
  tally := { progress.tally with failed := 0 }
  views := progress.visited.map Visited.view

/-- The course of a join. -/
def course (progress : Progress σ ρ) : Course :=
  ⟨progress.account, progress.lanes⟩

/-- What the runs of a join have come to. -/
def effects (progress : Progress σ ρ) : Effects σ ρ :=
  ⟨progress.store, progress.tally.failed, progress.visited⟩

/-- Running the program for a vertex is noted as a dispatch. -/
theorem account_dispatch
    (sweep : Sweep σ ρ)
    (progress : Progress σ ρ)
    (view : View) :
    (progress.dispatch sweep view).account =
      progress.account.dispatch view := by
  simp [account, dispatch, Account.dispatch]

/-- Running the program for a vertex is one more run. -/
theorem effects_dispatch
    (sweep : Sweep σ ρ)
    (progress : Progress σ ρ)
    (view : View) :
    (progress.dispatch sweep view).effects =
      progress.effects.visit sweep view := rfl

/-- One step of a join is one step of its course. -/
theorem map_course_step
    (sweep : Sweep σ ρ)
    (progress : Progress σ ρ)
    (item : Item) :
    (progress.step sweep item).map course =
      progress.course.step sweep.policy item := by
  unfold Progress.step Course.step
  have isPast : progress.course.account.isPast item.id =
      progress.isPast item.id := rfl
  rw [isPast]
  by_cases past : progress.isPast item.id
  · rw [if_pos past, if_pos past]
    rfl
  · rw [if_neg past, if_neg past]
    cases item.exists? with
    | error error => rfl
    | ok live =>
        simp only [course]
        cases Lane.seekAll sweep.policy item.id progress.lanes with
        | error error => rfl
        | ok sought =>
            cases live
            · rfl
            · exact congrArg (fun noted => Except.ok
                (⟨noted, sought.map Sought.lane⟩ : Course))
                (account_dispatch sweep (progress.settleLanes item.id sought)
                  ⟨item.id, Sought.fetched sought⟩)

/-- What the runs of a join have come to is settled by the dispatched views. -/
def Follows
    (sweep : Sweep σ ρ)
    (start : Effects σ ρ)
    (progress : Progress σ ρ) : Prop :=
  progress.effects = start.visitAll sweep progress.account.views

/-- All that a step of a join can do. -/
theorem step_cases
    {sweep : Sweep σ ρ}
    {progress next : Progress σ ρ}
    {item : Item}
    (made : progress.step sweep item = .ok next) :
    (progress.isPast item.id ∧ next = progress.skipOutOfOrder) ∨
      ∃ sought,
        Lane.seekAll sweep.policy item.id progress.lanes = .ok sought ∧
        ((item.exists? = .ok true ∧
            next = (progress.settleLanes item.id sought).dispatch sweep
              ⟨item.id, Sought.fetched sought⟩) ∨
          (item.exists? = .ok false ∧
            next = (progress.settleLanes item.id sought).skipDeleted)) := by
  unfold Progress.step at made
  by_cases past : progress.isPast item.id
  · rw [if_pos past] at made
    exact Or.inl ⟨past, (Except.ok.inj made).symm⟩
  · rw [if_neg past] at made
    right
    obtain ⟨live, probe, made⟩ := exists_of_bind_eq_ok made
    obtain ⟨sought, seek, made⟩ := exists_of_bind_eq_ok made
    refine ⟨sought, seek, ?_⟩
    cases live with
    | false => exact Or.inr ⟨probe, (Except.ok.inj made).symm⟩
    | true => exact Or.inl ⟨probe, (Except.ok.inj made).symm⟩

/-- A step of a join makes the runs for the views that it dispatches. -/
theorem Follows.step
    {sweep : Sweep σ ρ}
    {start : Effects σ ρ}
    {progress next : Progress σ ρ}
    {item : Item}
    (follows : Follows sweep start progress)
    (made : progress.step sweep item = .ok next) :
    Follows sweep start next := by
  rcases step_cases made with
    ⟨_, rfl⟩ | ⟨sought, _, ⟨_, rfl⟩ | ⟨_, rfl⟩⟩
  · exact follows
  · have kept : (progress.settleLanes item.id sought).effects =
        start.visitAll sweep progress.account.views := follows
    unfold Follows
    rw [account_dispatch, effects_dispatch, kept, Account.dispatch,
      Effects.visitAll_append]
    rfl
  · exact follows

/-- A join is its course together with the runs for the dispatched views. -/
theorem run_eq_course
    {sweep : Sweep σ ρ}
    {start : Effects σ ρ}
    {progress : Progress σ ρ}
    (follows : Follows sweep start progress)
    (ending : FeedEnd)
    (items : List Item) :
    (progress.run sweep ending items).result.map (fun _ =>
        (progress.run sweep ending items).progress.course) =
      progress.course.run sweep.policy ending items ∧
    Follows sweep start (progress.run sweep ending items).progress := by
  induction items generalizing progress with
  | nil =>
      rw [Course.run_nil]
      exact ⟨rfl, follows⟩
  | cons item rest hypothesis =>
      rw [Course.run_cons, ← map_course_step]
      unfold Progress.run
      cases made : progress.step sweep item with
      | error error => exact ⟨rfl, follows⟩
      | ok next => exact hypothesis (follows.step made)

end Progress
end GraphSweep
