import GraphSweep.Proofs.StateStore.Answers

/-!
# Reading what has been written

Writes go to the entry of the vertex that they name. Reads do so too until siblings have
been merged, and go to the entry of the canonical vertex from then on. So a vertex reads
what is written to it as long as no merge has come to its end, and afterwards only if it
is its own canonical vertex. What is written to another sibling then changes no answer.
-/

namespace GraphSweep
namespace StateStore

variable {σ : Type}

/-- The stores that come of an empty one by writing states and merging siblings, each
with whether a merge has come to its end on the way. -/
inductive Reached
    [Mergeable σ]
    (layout : IdLayout) : Bool -> StateStore σ -> Prop
  | empty : Reached layout false (StateStore.empty layout)
  | set
      {merged : Bool}
      {store : StateStore σ}
      (id : VertexId)
      (state : σ)
      (reached : Reached layout merged store) :
      Reached layout merged (store.set id state)
  | update
      {merged : Bool}
      {store : StateStore σ}
      (id : VertexId)
      (initial : σ)
      (change : σ -> Option σ)
      (reached : Reached layout merged store) :
      Reached layout merged (store.update id initial change).2
  | ensure
      {merged : Bool}
      {store : StateStore σ}
      (id : VertexId)
      (initial : σ)
      (reached : Reached layout merged store) :
      Reached layout merged (store.ensure id initial).2
  | invalidate
      {merged : Bool}
      {store : StateStore σ}
      (id : VertexId)
      (reached : Reached layout merged store) :
      Reached layout merged (store.invalidate id)
  /-- Siblings are merged in whatever order, perhaps up to one without a merge. -/
  | merge
      {merged : Bool}
      {store : StateStore σ}
      (order : List VertexId)
      (every : order.Perm store.siblings)
      (reached : Reached layout merged store) :
      Reached layout (merged || (store.mergeInOrder order).1.isSome)
        (store.mergeInOrder order).2

/-- Reads of the vertex go to its own entry. -/
def ReadsItself (store : StateStore σ) (id : VertexId) : Prop :=
  store.merged = false ∨ store.layout.canonical id = id

theorem resolve_eq_self_iff {store : StateStore σ} {id : VertexId} :
    store.resolve id = id ↔ store.ReadsItself id := by
  rw [resolve, ReadsItself]
  cases store.merged <;> simp

/-! ## Writing as putting an entry -/

section Write

variable
  {store : StateStore σ}
  {id : VertexId}
  {initial : σ}

theorem ensure_eq (store : StateStore σ) (id : VertexId) (initial : σ) :
    store.ensure id initial =
      ((store.own? id).getD initial,
        store.put id (some ((store.own? id).getD initial))) := rfl

/-- Putting another entry for a vertex leaves nothing of the one put before. -/
theorem put_put
    (store : StateStore σ)
    (id : VertexId)
    (state other : Option σ) :
    (store.put id state).put id other = store.put id other := by
  have entries (held : List (VertexId × Option σ)) :
      putEntry id other (putEntry id state held) = putEntry id other held := by
    induction held with
    | nil => simp [putEntry]
    | cons head rest hypothesis =>
        obtain ⟨first, found⟩ := head
        by_cases same : first = id
        · simp [putEntry, same]
        · simp [putEntry, same, hypothesis]
  simp only [put, entries]

/-- Putting the entry that a vertex has changes nothing. -/
theorem put_of_entry
    {state : Option σ}
    (held : store.entry? id = some state) :
    store.put id state = store := by
  have entries (all : List (VertexId × Option σ))
      (found : findEntry id all = some state) : putEntry id state all = all := by
    induction all with
    | nil => cases found
    | cons head rest hypothesis =>
        obtain ⟨first, state'⟩ := head
        by_cases same : first = id
        · subst same
          rw [findEntry, if_pos rfl] at found
          rw [putEntry, if_pos rfl, Option.some.inj found]
        · rw [findEntry, if_neg same] at found
          rw [putEntry, if_neg same, hypothesis found]
  simp only [put, entries store.entries held]

/-- A change is made to the state that the vertex has or gets. -/
theorem update_eq
    (store : StateStore σ)
    (id : VertexId)
    (initial : σ)
    (change : σ -> Option σ) :
    store.update id initial change =
      (change ((store.own? id).getD initial),
        store.put id (some ((change ((store.own? id).getD initial)).getD
          ((store.own? id).getD initial)))) := by
  rw [update, ensure_eq]
  cases changed : change ((store.own? id).getD initial) with
  | none => simp [changed]
  | some state => simp [changed, set, put_put]

/-! ## Reading after writing -/

/-- A vertex whose reads go to its own entry reads the entry put for it. -/
theorem answers_put_self
    (reads : store.ReadsItself id)
    (state : Option σ) :
    (store.put id state).answers id = toldBy (some state) := by
  have own : (store.put id state).resolve id = id := resolve_eq_self_iff.2 reads
  rw [answers_eq, own, entry?_put, if_pos rfl]

/-- No read goes to the entry of a vertex whose own reads go elsewhere. -/
theorem answers_put_of_redirected
    (redirected : ¬store.ReadsItself id)
    (state : Option σ)
    (other : VertexId) :
    (store.put id state).answers other = store.answers other := by
  rw [ReadsItself, not_or, Bool.not_eq_false] at redirected
  obtain ⟨merged, apart⟩ := redirected
  have resolves : store.resolve other = store.layout.canonical other := by
    rw [resolve, if_pos merged]
  have elsewhere : store.resolve other ≠ id := by
    intro same
    rw [resolves] at same
    apply apart
    rw [← same, IdLayout.canonical_canonical]
  have kept : (store.put id state).resolve other = store.resolve other := rfl
  rw [answers_eq, answers_eq, kept, entry?_put, if_neg elsewhere]

/-- The own state of a vertex is what it reads, where its reads go to its own entry. -/
theorem own?_of_readsItself (reads : store.ReadsItself id) :
    store.own? id = store.get id := by
  rw [get, resolve_eq_self_iff.2 reads]
  rfl

theorem get_put_self
    (reads : store.ReadsItself id)
    (state : Option σ) :
    (store.put id state).get id = state := by
  have told := congrArg Prod.fst (answers_put_self reads state)
  exact told

/-- A vertex with a state is not given another one when it is ensured to have one. -/
theorem ensure_of_get
    {state : σ}
    (reads : store.ReadsItself id)
    (initial : σ)
    (held : store.get id = some state) :
    store.ensure id initial = (state, store) := by
  have own := own?_of_readsItself reads
  rw [held] at own
  rw [ensure_eq, own, Option.getD_some, put_of_entry (Option.join_eq_some_iff.1 own)]

end Write

/-! ## Reached stores -/

section Reached

variable
  [Mergeable σ]
  {layout : IdLayout}
  {merged : Bool}
  {store : StateStore σ}

/-- A store counts as merged exactly when a merge has come to its end. -/
theorem Reached.frame (reached : Reached layout merged store) :
    store.layout = layout ∧ store.merged = merged := by
  induction reached with
  | empty => exact ⟨rfl, rfl⟩
  | set id state _ hypothesis => exact hypothesis
  | update id initial change _ hypothesis =>
      rw [update_eq]
      exact hypothesis
  | ensure id initial _ hypothesis => exact hypothesis
  | invalidate id _ hypothesis => exact hypothesis
  | merge order every _ hypothesis =>
      rw [layout_mergeInOrder, merged_mergeInOrder_eq, hypothesis.2]
      exact ⟨hypothesis.1, rfl⟩

/-- Reads see writes where they go to the entry written to. Before a merge has come to
its end, and for canonical vertices ever after, a vertex reads the state that it was
given, has none once it was taken, keeps the one it has when it is ensured to have one,
and reads what a change makes of its state or of the initial one. For any other sibling
none of these changes an answer, and a state that it is ensured to have or that is changed
is not the one it reads but one of its own. -/
theorem writes_are_read_until_merged
    (reached : Reached layout merged store)
    (id : VertexId) :
    (merged = false ∨ layout.canonical id = id ->
      (∀ state, (store.set id state).get id = some state) ∧
      (store.invalidate id).lacksState id = true ∧
      (store.invalidate id).get id = none ∧
      (∀ state initial, store.get id = some state ->
        store.ensure id initial = (state, store)) ∧
      ∀ initial change,
        (store.update id initial change).1 =
            change ((store.get id).getD initial) ∧
          (store.update id initial change).2.get id =
            some ((change ((store.get id).getD initial)).getD
              ((store.get id).getD initial))) ∧
    (merged = true -> layout.canonical id ≠ id ->
      (∀ state other,
        (store.set id state).answers other = store.answers other) ∧
      (∀ other, (store.invalidate id).answers other = store.answers other) ∧
      (∀ initial,
        (store.ensure id initial).1 = (store.own? id).getD initial ∧
        ∀ other,
          (store.ensure id initial).2.answers other = store.answers other) ∧
      ∀ initial change,
        (store.update id initial change).1 =
            change ((store.own? id).getD initial) ∧
          ∀ other, (store.update id initial change).2.answers other =
            store.answers other) := by
  obtain ⟨rfl, rfl⟩ := reached.frame
  constructor
  · intro reads
    have own := own?_of_readsItself reads
    refine ⟨fun state => get_put_self reads (some state), ?_,
      get_put_self reads none, fun state initial held =>
        ensure_of_get reads initial held, ?_⟩
    · exact congrArg (fun told => told.2.2) (answers_put_self reads none)
    · intro initial change
      rw [update_eq, own]
      exact ⟨rfl, get_put_self reads _⟩
  · intro done apart
    have redirected : ¬store.ReadsItself id := by
      rw [ReadsItself, done]
      exact not_or.2 ⟨Bool.noConfusion, apart⟩
    refine ⟨fun state => answers_put_of_redirected redirected (some state),
      answers_put_of_redirected redirected none, fun initial => ?_,
      fun initial change => ?_⟩
    · rw [ensure_eq]
      exact ⟨rfl, answers_put_of_redirected redirected _⟩
    · rw [update_eq]
      exact ⟨rfl, answers_put_of_redirected redirected _⟩

end Reached

/-! ## Two siblings -/

/-- The states of two siblings. -/
def twoSiblings : StateStore UInt64 :=
  ((StateStore.empty IdLayout.standard).set 9 5).set 1 7

/-- The states of two siblings merged. -/
def oneSibling : StateStore UInt64 := (twoSiblings.mergeInOrder [9]).2

theorem reached_twoSiblings :
    Reached IdLayout.standard false twoSiblings :=
  .set 1 7 (.set 9 5 .empty)

theorem reached_oneSibling : Reached IdLayout.standard true oneSibling := by
  have every : [9].Perm twoSiblings.siblings := by
    decide +kernel
  have answered : (twoSiblings.mergeInOrder [9]).1.isSome = true := by
    decide +kernel
  have reached := Reached.merge [9] every reached_twoSiblings
  rw [answered] at reached
  exact reached

theorem writes_to_siblings_are_read_until_merged :
    Reached IdLayout.standard false twoSiblings ∧
    Reached IdLayout.standard true oneSibling ∧
    (twoSiblings.set 9 6).get 9 = some 6 ∧
    (oneSibling.set 1 6).get 1 = some 6 ∧
    (oneSibling.update 1 0 fun state => some (state + 1)).2.get 1 = some 13 ∧
    (oneSibling.set 9 6).answers 9 = (some 12, true, false) := by
  have early := writes_are_read_until_merged reached_twoSiblings 9
  have canonical := writes_are_read_until_merged reached_oneSibling 1
  have sibling := writes_are_read_until_merged reached_oneSibling 9
  have itself : IdLayout.standard.canonical 1 = 1 := by
    decide +kernel
  have apart : IdLayout.standard.canonical 9 ≠ 9 := by
    decide +kernel
  obtain ⟨sets, -, -, -, updates⟩ := canonical.1 (Or.inr itself)
  have combined : oneSibling.get 1 = some 12 := by
    decide +kernel
  refine ⟨reached_twoSiblings, reached_oneSibling,
    (early.1 (Or.inl rfl)).1 6, sets 6, ?_, ?_⟩
  · rw [(updates 0 _).2, combined]
    rfl
  · rw [(sibling.2 rfl apart).1 6 9]
    decide +kernel

/-- A sibling of merged states reads neither what it is given nor what a change makes of
its state, and is ensured to have another state than it reads. -/
theorem writes_to_merged_sibling_are_not_read :
    Reached IdLayout.standard true oneSibling ∧
    oneSibling.get 9 = some 12 ∧
    (oneSibling.set 9 5).get 9 = some 12 ∧
    (oneSibling.invalidate 9).lacksState 9 = false ∧
    (oneSibling.ensure 9 0).1 = 0 ∧
    (oneSibling.update 9 0 fun state => some (state + 1)).2.get 9 = some 12 :=
  ⟨reached_oneSibling, by decide +kernel, by decide +kernel, by decide +kernel,
    by decide +kernel, by decide +kernel⟩

end StateStore
end GraphSweep
