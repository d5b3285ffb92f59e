import GraphSweep.Pipeline.Account
import GraphSweep.Proofs.StateStore.Entries
import Mathlib.Data.List.Induction
import Mathlib.Data.List.Perm.Basic

/-!
# What runs of a program come to

A program changes the state of its own vertex only. So runs for different vertices
may change places: the store reads alike afterwards, and the same runs were made.
-/

namespace GraphSweep

/-- A run has not completed. -/
def Visit.missed {σ ρ : Type} (visit : Visit σ ρ) : Nat :=
  if visit.ending = .completed then 0 else 1

/-- The vertices whose runs have not completed. -/
def Visited.failing {σ ρ : Type} (visited : List (Visited σ ρ)) :
    List VertexId :=
  (visited.filter fun run => run.visit.ending ≠ .completed).map fun run =>
    run.view.id

namespace Effects

variable {σ ρ : Type}

/-- Run the program for a vertex. -/
def visit
    (sweep : Sweep σ ρ)
    (effects : Effects σ ρ)
    (view : View) : Effects σ ρ where
  store := effects.store.settle view.id (effects.visitOf sweep view)
  failed := effects.failed + (effects.visitOf sweep view).missed
  visited := effects.visited ++ [⟨view, effects.visitOf sweep view⟩]

@[simp] theorem store_visit
    (sweep : Sweep σ ρ)
    (effects : Effects σ ρ)
    (view : View) :
    (effects.visit sweep view).store =
      effects.store.settle view.id (effects.visitOf sweep view) := rfl

@[simp] theorem failed_visit
    (sweep : Sweep σ ρ)
    (effects : Effects σ ρ)
    (view : View) :
    (effects.visit sweep view).failed =
      effects.failed + (effects.visitOf sweep view).missed := rfl

@[simp] theorem visited_visit
    (sweep : Sweep σ ρ)
    (effects : Effects σ ρ)
    (view : View) :
    (effects.visit sweep view).visited =
      effects.visited ++ [⟨view, effects.visitOf sweep view⟩] := rfl

/-- Run the program for some vertices, one after another. -/
def visitAll
    (sweep : Sweep σ ρ)
    (effects : Effects σ ρ)
    (views : List View) : Effects σ ρ :=
  views.foldl (visit sweep) effects

@[simp] theorem visitAll_cons
    (sweep : Sweep σ ρ)
    (effects : Effects σ ρ)
    (view : View)
    (views : List View) :
    effects.visitAll sweep (view :: views) =
      (effects.visit sweep view).visitAll sweep views := rfl

theorem visitAll_append
    (sweep : Sweep σ ρ)
    (effects : Effects σ ρ)
    (first second : List View) :
    effects.visitAll sweep (first ++ second) =
      (effects.visitAll sweep first).visitAll sweep second :=
  List.foldl_append

/-- Effects that cannot be told apart: the stores read alike, and the same runs
were made. -/
structure Same (left right : Effects σ ρ) : Prop where
  store : left.store.Same right.store
  failed : left.failed = right.failed
  visited : left.visited.Perm right.visited

namespace Same

variable {left middle right : Effects σ ρ}

@[refl] theorem refl (effects : Effects σ ρ) : Same effects effects :=
  ⟨StateStore.Same.refl _, rfl, List.Perm.refl _⟩

theorem symm (same : Same left right) : Same right left :=
  ⟨same.store.symm, same.failed.symm, same.visited.symm⟩

theorem trans (first : Same left middle) (second : Same middle right) :
    Same left right :=
  ⟨first.store.trans second.store, first.failed.trans second.failed,
    first.visited.trans second.visited⟩

theorem visitOf
    (same : Same left right)
    (sweep : Sweep σ ρ)
    (view : View) :
    left.visitOf sweep view = right.visitOf sweep view := by
  rw [Effects.visitOf, Effects.visitOf, same.store.own]

theorem visit
    (same : Same left right)
    (sweep : Sweep σ ρ)
    (view : View) :
    Same (left.visit sweep view) (right.visit sweep view) := by
  have equal := same.visitOf sweep view
  refine ⟨?_, ?_, ?_⟩
  · rw [store_visit, store_visit, equal]
    exact same.store.settle _ _
  · rw [failed_visit, failed_visit, equal, same.failed]
  · rw [visited_visit, visited_visit, equal]
    exact same.visited.append_right _

theorem visitAll
    (same : Same left right)
    (sweep : Sweep σ ρ)
    (views : List View) :
    Same (left.visitAll sweep views) (right.visitAll sweep views) := by
  induction views generalizing left right with
  | nil => exact same
  | cons view views hypothesis => exact hypothesis (same.visit sweep view)

end Same

/-- A run for one vertex leaves the runs for others as they are. -/
theorem visitOf_visit_of_ne
    (sweep : Sweep σ ρ)
    (effects : Effects σ ρ)
    {view other : View}
    (different : other.id ≠ view.id) :
    (effects.visit sweep view).visitOf sweep other =
      effects.visitOf sweep other := by
  rw [visitOf, visitOf, store_visit,
    StateStore.own_settle_of_ne _ _ _ different]

/-- Runs for two different vertices may change places. -/
theorem visit_comm
    (sweep : Sweep σ ρ)
    (effects : Effects σ ρ)
    {first second : View}
    (different : first.id ≠ second.id) :
    Same ((effects.visit sweep first).visit sweep second)
      ((effects.visit sweep second).visit sweep first) := by
  have later := visitOf_visit_of_ne sweep effects different.symm
  have earlier := visitOf_visit_of_ne sweep effects different
  refine ⟨⟨?_, ?_, fun id => ?_⟩, ?_, ?_⟩
  · simp
  · simp
  · simp only [store_visit, later, earlier, StateStore.entry?_settle]
    by_cases one : id = first.id
    · subst one
      simp [different]
    · by_cases two : id = second.id
      · subst two
        simp [different.symm]
      · simp [one, two]
  · simp only [failed_visit, later, earlier]
    omega
  · simp only [visited_visit, later, earlier, List.append_assoc]
    exact (List.Perm.swap _ _ []).append_left _

/-- A run for a vertex may be made after those for other vertices. -/
theorem visit_visitAll
    (sweep : Sweep σ ρ)
    (effects : Effects σ ρ)
    {view : View}
    {views : List View}
    (different : ∀ other ∈ views, view.id ≠ other.id) :
    Same ((effects.visit sweep view).visitAll sweep views)
      ((effects.visitAll sweep views).visit sweep view) := by
  induction views generalizing effects with
  | nil => exact Same.refl _
  | cons other views hypothesis =>
      have apart := different other List.mem_cons_self
      have swapped := (visit_comm sweep effects apart).visitAll sweep views
      exact swapped.trans (hypothesis (effects.visit sweep other)
        fun one member => different one (List.mem_cons_of_mem _ member))

/-- Runs for some vertices leave the entries of all others alone. -/
theorem entry?_visitAll_of_not_mem
    (sweep : Sweep σ ρ)
    (effects : Effects σ ρ)
    {views : List View}
    {id : VertexId}
    (apart : id ∉ views.map View.id) :
    StateStore.entry? (effects.visitAll sweep views).store id =
      effects.store.entry? id := by
  induction views generalizing effects with
  | nil => rfl
  | cons view views hypothesis =>
      rw [List.map_cons, List.mem_cons, not_or] at apart
      rw [visitAll_cons, hypothesis (effects.visit sweep view) apart.2,
        store_visit, StateStore.entry?_settle, if_neg apart.1]

/-- Runs for some vertices leave the runs for others as they are. -/
theorem visitOf_visitAll_of_not_mem
    (sweep : Sweep σ ρ)
    (effects : Effects σ ρ)
    {views : List View}
    {view : View}
    (apart : view.id ∉ views.map View.id) :
    (effects.visitAll sweep views).visitOf sweep view =
      effects.visitOf sweep view := by
  simp only [visitOf, StateStore.own, StateStore.own?,
    entry?_visitAll_of_not_mem sweep effects apart]

/-- The run for a vertex leaves what it does given the entry found in the
beginning. -/
theorem entry?_visitAll
    (sweep : Sweep σ ρ)
    (effects : Effects σ ρ)
    {views : List View}
    (distinct : (views.map View.id).Nodup)
    {view : View}
    (member : view ∈ views) :
    StateStore.entry? (effects.visitAll sweep views).store view.id =
      (effects.visitOf sweep view).leaves (effects.store.entry? view.id) := by
  induction views generalizing effects with
  | nil => cases member
  | cons first rest hypothesis =>
      obtain ⟨fresh, distinctRest⟩ := List.nodup_cons.1 distinct
      rw [visitAll_cons]
      rcases List.mem_cons.1 member with rfl | later
      · rw [entry?_visitAll_of_not_mem sweep _ fresh, store_visit,
          StateStore.entry?_settle, if_pos rfl]
      · have different : view.id ≠ first.id := fun same =>
          fresh (same ▸ List.mem_map_of_mem later)
        rw [hypothesis (effects.visit sweep first) distinctRest later,
          visitOf_visit_of_ne sweep effects different, store_visit,
          StateStore.entry?_settle, if_neg different]

/-- Runs that write a state for each vertex leave these states. -/
theorem entry?_visitAll_of_mem
    (sweep : Sweep σ ρ)
    (effects : Effects σ ρ)
    {views : List View}
    {state : View -> σ}
    (distinct : (views.map View.id).Nodup)
    (writes : ∀ view ∈ views, ∀ own,
      sweep.program view own = Visit.write (state view))
    {view : View}
    (member : view ∈ views) :
    StateStore.entry? (effects.visitAll sweep views).store view.id =
      some (some (state view)) := by
  rw [entry?_visitAll sweep effects distinct member, visitOf,
    writes view member]
  rfl

/-- The runs made are those for the vertices asked for, each with the state that its
vertex had in the beginning. -/
theorem visited_visitAll
    (sweep : Sweep σ ρ)
    (effects : Effects σ ρ)
    {views : List View}
    (distinct : (views.map View.id).Nodup) :
    (effects.visitAll sweep views).visited =
      effects.visited ++
        views.map fun view => ⟨view, effects.visitOf sweep view⟩ := by
  induction views using List.reverseRecOn with
  | nil => exact (List.append_nil _).symm
  | append_singleton earlier view hypothesis =>
      rw [List.map_append] at distinct
      obtain ⟨distinctBefore, -, apart⟩ := List.nodup_append.1 distinct
      have fresh : view.id ∉ earlier.map View.id := fun member =>
        apart _ member _ (List.mem_singleton_self _) rfl
      have last := visitOf_visitAll_of_not_mem sweep effects fresh
      rw [visitAll_append, visitAll_cons, List.map_append,
        ← List.append_assoc, ← hypothesis distinctBefore, List.map_singleton,
        ← last]
      rfl

/-- Every run is one of the program. -/
theorem runs_visitAll
    (sweep : Sweep σ ρ)
    (effects : Effects σ ρ)
    (views : List View)
    {visited : Visited σ ρ}
    (member : visited ∈ (effects.visitAll sweep views).visited) :
    visited ∈ effects.visited ∨
      ∃ own, visited.visit = sweep.program visited.view own := by
  induction views generalizing effects with
  | nil => exact Or.inl member
  | cons view views hypothesis =>
      rcases hypothesis (effects.visit sweep view) member with before | made
      · rcases List.mem_append.1 before with earlier | here
        · exact Or.inl earlier
        · rw [List.mem_singleton.1 here]
          exact Or.inr ⟨_, rfl⟩
      · exact Or.inr made

/-- As many runs are counted as failed as have not completed. -/
def Counted (effects : Effects σ ρ) : Prop :=
  effects.failed = (Visited.failing effects.visited).length

theorem Counted.visitAll
    {effects : Effects σ ρ}
    (counted : effects.Counted)
    (sweep : Sweep σ ρ)
    (views : List View) :
    Counted (effects.visitAll sweep views) := by
  induction views generalizing effects with
  | nil => exact counted
  | cons view views hypothesis =>
      apply hypothesis
      rw [Counted] at counted ⊢
      rw [failed_visit, visited_visit, Visited.failing, List.filter_append,
        List.map_append, List.length_append, counted, Visit.missed]
      by_cases completed : (effects.visitOf sweep view).ending = .completed <;>
        simp [completed, Visited.failing]

/-- Runs of a program leave the layout of the store alone. -/
theorem layout_visitAll
    (sweep : Sweep σ ρ)
    (effects : Effects σ ρ)
    (views : List View) :
    StateStore.layout (effects.visitAll sweep views).store =
      effects.store.layout := by
  induction views generalizing effects with
  | nil => rfl
  | cons view views hypothesis =>
      rw [visitAll_cons, hypothesis, store_visit, StateStore.layout_settle]

/-- Runs of a program leave it open whether siblings have been merged. -/
theorem merged_visitAll
    (sweep : Sweep σ ρ)
    (effects : Effects σ ρ)
    (views : List View) :
    StateStore.merged (effects.visitAll sweep views).store =
      effects.store.merged := by
  induction views generalizing effects with
  | nil => rfl
  | cons view views hypothesis =>
      rw [visitAll_cons, hypothesis, store_visit, StateStore.merged_settle]

end Effects
end GraphSweep
