import GraphSweep.Proofs.StateStore.Absorb

/-!
# Merging siblings in any order

Siblings are merged one after another, in an order that nobody promises. Where the
merging of states is commutative and associative as far as it has answers, two
orders that both get through leave the same store.
-/

namespace GraphSweep

/-- The answers of merging are those of a commutative and associative
operation. -/
structure Mergeable.Commutes
    {σ : Type}
    [Mergeable σ]
    (combine : σ -> σ -> σ) : Prop where
  answers : ∀ {left right sum : σ},
    Mergeable.merge left right = some sum -> sum = combine left right
  comm : ∀ left right, combine left right = combine right left
  assoc : ∀ first second third,
    combine (combine first second) third =
      combine first (combine second third)

/-- Merging integers is commutative and associative. -/
theorem Mergeable.commutes_uint64 :
    Mergeable.Commutes fun left right : UInt64 => left + right := by
  refine ⟨fun {left right sum} merges => ?_, UInt64.add_comm, UInt64.add_assoc⟩
  simp only [Mergeable.merge, Option.ite_none_right_eq_some] at merges
  exact (Option.some.inj merges.2).symm

namespace StateStore

variable {σ : Type}

/-- Two entries as one, where states always combine. An entry without a state
takes the state from the other. -/
def combineEntries (combine : σ -> σ -> σ) :
    Option (Option σ) -> Option (Option σ) -> Option (Option σ)
  | none, entry => entry
  | entry, none => entry
  | some none, some _ => some none
  | some (some _), some none => some none
  | some (some left), some (some right) => some (some (combine left right))

theorem combineEntries_right_comm
    [Mergeable σ]
    {combine : σ -> σ -> σ}
    (lawful : Mergeable.Commutes combine)
    (first second third : Option (Option σ)) :
    combineEntries combine (combineEntries combine first second) third =
      combineEntries combine (combineEntries combine first third) second := by
  rcases first with _ | _ | first <;> rcases second with _ | _ | second <;>
    rcases third with _ | _ | third <;> simp only [combineEntries]
  · rw [lawful.comm]
  · rw [lawful.assoc, lawful.comm second, lawful.assoc]

/-- A merged entry is the combined one. -/
theorem mergeEntry_eq_combineEntries
    [Mergeable σ]
    {combine : σ -> σ -> σ}
    (lawful : Mergeable.Commutes combine)
    {held : Option (Option σ)}
    {state entry : Option σ}
    (merges : mergeEntry held state = some entry) :
    some entry = combineEntries combine held (some state) := by
  rcases held with _ | _ | held <;> rcases state with _ | state <;>
    simp only [mergeEntry, Option.some.injEq, Option.map_eq_some_iff]
      at merges
  case some.some.some =>
    obtain ⟨sum, answer, rfl⟩ := merges
    rw [combineEntries, lawful.answers answer]
  all_goals
    subst merges
    rfl

section AbsorbAll

variable [Mergeable σ]

/-- What absorbing siblings that states always combine for leaves as the entry of
a vertex: nothing of a sibling, and all of the siblings of a canonical vertex. -/
def gathered
    (combine : σ -> σ -> σ)
    (store : StateStore σ)
    (ids : List VertexId)
    (id : VertexId) : Option (Option σ) :=
  if id ∈ ids then none
  else
    (ids.filter fun sibling => store.layout.canonical sibling = id).foldl
      (fun entry sibling =>
        combineEntries combine entry (store.entry? sibling))
      (store.entry? id)

/-- The order of the siblings does not matter for what they come to. -/
theorem gathered_perm
    {combine : σ -> σ -> σ}
    (lawful : Mergeable.Commutes combine)
    (store : StateStore σ)
    {ids others : List VertexId}
    (perm : ids.Perm others)
    (id : VertexId) :
    store.gathered combine ids id = store.gathered combine others id := by
  have fold := (perm.filter fun sibling =>
    decide (store.layout.canonical sibling = id)).foldl_eq'
      (f := fun entry sibling =>
        combineEntries combine entry (store.entry? sibling))
      (fun _ _ _ _ entry => combineEntries_right_comm lawful entry _ _)
      (store.entry? id)
  simp only [gathered, perm.mem_iff, fold]

/-- Merged entries are the combined ones. -/
theorem mergeEntries_eq_foldl
    {combine : σ -> σ -> σ}
    (lawful : Mergeable.Commutes combine)
    {held merged : Option (Option σ)}
    {states : List (Option σ)}
    (merges : mergeEntries held states = some merged) :
    merged = states.foldl (fun entry state =>
      combineEntries combine entry (some state)) held := by
  induction states generalizing held with
  | nil => exact (Option.some.inj merges).symm
  | cons state states hypothesis =>
      obtain ⟨entry, first, later⟩ := Option.bind_eq_some_iff.1 merges
      rw [List.foldl_cons, ← mergeEntry_eq_combineEntries lawful first]
      exact hypothesis later

/-- What the siblings of a vertex come to is what they are gathered to. -/
theorem siblingFold_join_eq_gathered
    {combine : σ -> σ -> σ}
    (lawful : Mergeable.Commutes combine)
    {store : StateStore σ}
    {ids : List VertexId}
    {id : VertexId}
    (merges : (store.siblingFold ids id).isSome) :
    (if id ∈ ids then none else (store.siblingFold ids id).join) =
      store.gathered combine ids id := by
  obtain ⟨merged, answer⟩ := Option.isSome_iff_exists.1 merges
  have folded := mergeEntries_eq_foldl lawful answer
  have absent (entry : Option (Option σ)) :
      combineEntries combine entry none = entry := by
    rcases entry with _ | _ | state <;> rfl
  rw [siblingEntries, List.foldl_filterMap] at folded
  rw [gathered, answer, Option.join_some, folded]
  congr 2
  funext entry sibling
  cases store.entry? sibling with
  | none => exact (absent entry).symm
  | some state => rfl

/-- Merging the siblings gets through in whatever order they come. -/
def MergesFreely (store : StateStore σ) : Prop :=
  ∀ ids : List VertexId,
    ids.Perm store.siblings -> (store.absorbAll ids).2 = true

/-- A single sibling can only be merged first. -/
theorem mergesFreely_of_single
    {store : StateStore σ}
    {id : VertexId}
    (single : store.siblings = [id])
    (through : (store.absorbAll [id]).2 = true) :
    store.MergesFreely := by
  intro ids perm
  rw [single] at perm
  rw [List.perm_singleton.1 perm]
  exact through

theorem Same.mergesFreely
    {left right : StateStore σ}
    (same : Same left right)
    (free : left.MergesFreely) :
    right.MergesFreely := by
  intro ids perm
  rw [← (same.absorbAll ids).2]
  exact free ids (perm.trans same.siblings_perm.symm)

/-- Merging the siblings of stores that read alike in one order leaves stores that
read alike. -/
theorem Same.mergeInOrder
    {left right : StateStore σ}
    (same : Same left right)
    (ids : List VertexId) :
    (left.mergeInOrder ids).1 = (right.mergeInOrder ids).1 ∧
      Same (left.mergeInOrder ids).2 (right.mergeInOrder ids).2 := by
  obtain ⟨absorbed, through⟩ := same.absorbAll ids
  rw [mergeInOrder_eq, mergeInOrder_eq, ← through]
  by_cases here : (left.absorbAll ids).2
  · rw [if_pos here, if_pos here]
    exact ⟨rfl, absorbed.layout, rfl, absorbed.entry⟩
  · rw [if_neg here, if_neg here]
    exact ⟨rfl, absorbed⟩

/-- Merging gets through for a store that reads like one where it does. -/
theorem Same.isSome_mergeInOrder
    {left right : StateStore σ}
    {ids : List VertexId}
    (same : Same left right)
    (free : right.MergesFreely)
    (perm : ids.Perm left.siblings) :
    (left.mergeInOrder ids).1.isSome := by
  have through := same.symm.mergesFreely free ids perm
  rw [mergeInOrder_of_through through]
  rfl

/-- The order in which the siblings are merged makes no difference. -/
theorem mergeInOrder_same_mergeSiblings
    {combine : σ -> σ -> σ}
    {store : StateStore σ}
    {ids : List VertexId}
    (lawful : Mergeable.Commutes combine)
    (free : store.MergesFreely)
    (perm : ids.Perm store.siblings) :
    Same (store.mergeInOrder ids).2 store.mergeSiblings.2 := by
  have through := free ids perm
  have throughAll := free store.siblings (List.Perm.refl _)
  have gather {others : List VertexId} (every : others.Perm store.siblings)
      (id : VertexId) :
      entry? (store.absorbAll others).1 id =
        store.gathered combine others id := by
    have absorbable := absorbable_of_perm every
    have merges := (absorbAll_snd_iff absorbable).1 (free others every)
    rw [entry?_absorbAll absorbable (free others every),
      siblingFold_join_eq_gathered lawful (merges id)]
  rw [mergeSiblings_eq_mergeInOrder, mergeInOrder_of_through through,
    mergeInOrder_of_through throughAll]
  refine ⟨?_, rfl, fun id => ?_⟩
  · calc (store.absorbAll ids).1.layout
        = store.layout := layout_absorbAll store ids
      _ = (store.absorbAll store.siblings).1.layout :=
          (layout_absorbAll store store.siblings).symm
  · calc entry? (store.absorbAll ids).1 id
        = store.gathered combine ids id := gather perm id
      _ = store.gathered combine store.siblings id :=
          gathered_perm lawful store perm id
      _ = entry? (store.absorbAll store.siblings).1 id :=
          (gather (List.Perm.refl _) id).symm

end AbsorbAll
end StateStore
end GraphSweep
