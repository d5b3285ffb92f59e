import GraphSweep.Proofs.StateStore.MergeLaw
import GraphSweep.Proofs.StateStore.Siblings

/-!
# What a store answers

All answers about a vertex come from one entry: that of the vertex itself before
siblings are merged, and that of its canonical vertex afterwards. So what a job
answers in the end is settled by the entries it has written for the siblings of a
vertex and by whether it merges siblings at all.
-/

namespace GraphSweep
namespace StateStore

variable {σ : Type}

/-- What an entry answers: the state, whether the entry is there, and whether it is
there without a state. -/
def toldBy (entry : Option (Option σ)) : Option σ × Bool × Bool :=
  (entry.join, entry.isSome, match entry with | some none => true | _ => false)

/-- Everything that a store answers about a vertex. -/
def answers (store : StateStore σ) (id : VertexId) : Option σ × Bool × Bool :=
  (store.get id, store.contains id, store.lacksState id)

theorem answers_eq (store : StateStore σ) (id : VertexId) :
    store.answers id = toldBy (store.entry? (store.resolve id)) := rfl

/-- Stores that read alike give the same answers. -/
theorem Same.answers
    {left right : StateStore σ}
    (same : Same left right)
    (id : VertexId) :
    left.answers id = right.answers id := by
  rw [answers_eq, answers_eq, same.entry, resolve, resolve, same.layout,
    same.merged]

/-- A store answers that it has nothing where there is no entry. -/
theorem toldBy_eq_none_iff (entry : Option (Option σ)) :
    toldBy entry = (none, false, false) ↔ entry.isSome = false := by
  rcases entry with _ | _ | state <;> simp [toldBy]

/-- The vertices that are read through the same canonical vertex. -/
def Kin (store : StateStore σ) (id other : VertexId) : Prop :=
  store.layout.canonical id = store.layout.canonical other

instance (store : StateStore σ) (id other : VertexId) :
    Decidable (store.Kin id other) :=
  inferInstanceAs (Decidable (_ = _))

section Gathers

variable [Mergeable σ]

/-- What a store becomes when its siblings are merged in an order, if they are to be
merged at all. -/
structure Gathers
    (store : StateStore σ)
    (merges : Bool)
    (order : List VertexId)
    (after : StateStore σ) : Prop where
  every : order.Perm store.siblings
  through : merges -> (store.absorbAll order).2 = true
  same : after.Same
    (if merges then { (store.absorbAll order).1 with merged := true } else store)

/-- A store that counts as merged afterwards has got through with merging. -/
theorem gathers_of_merged
    {store after : StateStore σ}
    {order : List VertexId}
    (fresh : store.merged = false)
    (every : order.Perm store.siblings)
    (same : after.Same (store.mergeInOrder order).2)
    (merged : after.merged = true) :
    store.Gathers true order after := by
  have through : (store.absorbAll order).2 = true := by
    by_contra stops
    rw [mergeInOrder_eq, if_neg stops] at same
    rw [same.merged, merged_absorbAll, fresh] at merged
    cases merged
  rw [mergeInOrder_of_through through] at same
  exact ⟨every, fun _ => through, same⟩

/-- The entry that the siblings of a vertex come to. -/
def gatheredEntry
    (store : StateStore σ)
    (merges : Bool)
    (order : List VertexId)
    (id : VertexId) : Option (Option σ) :=
  if merges then (store.siblingFold order (store.layout.canonical id)).join
  else store.entry? id

/-- A canonical vertex that no sibling is merged into keeps its entry. -/
theorem gatheredEntry_of_unclaimed
    {store : StateStore σ}
    {order : List VertexId}
    {id : VertexId}
    (unclaimed : ∀ sibling ∈ order, ¬store.Kin sibling id) :
    store.gatheredEntry true order id =
      store.entry? (store.layout.canonical id) := by
  rw [gatheredEntry, if_pos rfl, siblingFold_of_unclaimed unclaimed,
    Option.join_some]

namespace Gathers

variable
  {store after : StateStore σ}
  {merges : Bool}
  {order : List VertexId}

theorem layout (gathers : store.Gathers merges order after) :
    after.layout = store.layout := by
  rw [gathers.same.layout]
  cases merges with
  | false => rfl
  | true => exact store.layout_absorbAll order

theorem merged
    (gathers : store.Gathers merges order after)
    (fresh : store.merged = false) :
    after.merged = merges := by
  rw [gathers.same.merged]
  cases merges with
  | false => exact fresh
  | true => rfl

/-- What is left as the entry of a vertex: nothing of a sibling, and what its siblings
come to of any other. -/
theorem entry?
    (gathers : store.Gathers merges order after)
    (alone : merges = false -> store.siblings = [])
    (id : VertexId) :
    after.entry? id =
      if id ∈ order then none else (store.siblingFold order id).join := by
  rw [gathers.same.entry]
  cases merges with
  | false =>
      have nothing : order = [] := by
        have every := gathers.every
        rw [alone rfl] at every
        exact every.eq_nil
      rw [nothing]
      rfl
  | true =>
      exact entry?_absorbAll (absorbable_of_perm gathers.every)
        (gathers.through rfl) id

/-- All answers come from what the siblings of a vertex come to. -/
theorem answers
    (gathers : store.Gathers merges order after)
    (fresh : store.merged = false)
    (id : VertexId) :
    after.answers id = toldBy (store.gatheredEntry merges order id) := by
  rw [answers_eq, resolve, gathers.merged fresh, gathers.layout,
    gathers.same.entry, gatheredEntry]
  cases merges with
  | false => rfl
  | true =>
      have apart : store.layout.canonical id ∉ order := fun member =>
        canonical_ne_of_mem_siblings (gathers.every.mem_iff.1 member) rfl
      have entry := entry?_absorbAll (absorbable_of_perm gathers.every)
        (gathers.through rfl) (store.layout.canonical id)
      rw [if_neg apart] at entry
      simp only [if_true]
      exact congrArg toldBy entry

/-- The siblings of a vertex come to something when they are merged. -/
theorem exists_fold
    (gathers : store.Gathers true order after)
    (id : VertexId) :
    ∃ entry, store.siblingFold order id = some entry :=
  Option.isSome_iff_exists.1
    ((absorbAll_snd_iff (absorbable_of_perm gathers.every)).1
      (gathers.through rfl) id)

/-- A vertex with an entry is its own canonical vertex, or its entry is merged. -/
theorem mem_entries_of_held
    (gathers : store.Gathers merges order after)
    {id : VertexId}
    {state : Option σ}
    (held : store.entry? id = some state) :
    state ∈ (store.entry? (store.layout.canonical id)).toList ++
      store.siblingEntries order (store.layout.canonical id) := by
  by_cases canonical : store.layout.canonical id = id
  · rw [canonical, held]
    exact List.mem_append_left _ List.mem_cons_self
  · have sibling : id ∈ store.siblings :=
      (store.mem_siblings id).2 ⟨Option.isSome_of_eq_some held,
        IdLayout.isPartitioned_of_canonical_ne canonical, canonical⟩
    refine List.mem_append_right _ (List.mem_filterMap.2 ⟨id, ?_, held⟩)
    exact List.mem_filter.2
      ⟨gathers.every.mem_iff.2 sibling, decide_eq_true rfl⟩

/-- An entry without a state takes the states of all siblings, if these are to be
merged wherever there are any. -/
theorem gatheredEntry_of_lacking
    (gathers : store.Gathers merges order after)
    {id other : VertexId}
    (kin : store.Kin id other)
    (merged : VertexId.isPartitioned id = true -> merges = true)
    (lacking : store.entry? id = some none) :
    store.gatheredEntry merges order other = some none := by
  cases merges with
  | false =>
      have whole : VertexId.isPartitioned id = false := by
        rw [Bool.eq_false_iff]
        intro partitioned
        cases merged partitioned
      have canonical : store.layout.canonical id = id :=
        if_neg (by simp [whole])
      have same : id = other := by
        rw [Kin, canonical] at kin
        rw [kin, IdLayout.isPartitioned_canonical] at whole
        rw [kin]
        exact if_neg (by simp [whole])
      exact same ▸ lacking
  | true =>
      obtain ⟨entry, folds⟩ := gathers.exists_fold (store.layout.canonical id)
      have among := gathers.mem_entries_of_held lacking
      rw [gatheredEntry, if_pos rfl, ← kin, folds,
        mergeEntries_of_lacking folds among]
      rfl

end Gathers

/-! ## Stores that differ elsewhere -/

/-- Two orders have the siblings of a vertex in the same order. -/
def OrdersAlike
    (store : StateStore σ)
    (id : VertexId)
    (order others : List VertexId) : Prop :=
  order.filter (fun sibling => store.Kin sibling id) =
    others.filter fun sibling => store.Kin sibling id

section Alike

variable
  {left right leftAfter rightAfter : StateStore σ}
  {merges : Bool}
  {order others : List VertexId}
  {id : VertexId}

omit [Mergeable σ] in
/-- Stores that agree on the siblings of a vertex have the same ones to merge. -/
theorem filter_kin_perm
    (layout : left.layout = right.layout)
    (alike : ∀ other, left.Kin other id ->
      left.entry? other = right.entry? other)
    (every : order.Perm left.siblings)
    (everyOther : others.Perm right.siblings) :
    (order.filter fun sibling => left.Kin sibling id).Perm
      (others.filter fun sibling => left.Kin sibling id) := by
  have distinct : order.Nodup := every.nodup_iff.2 left.nodup_siblings
  have distinctOther : others.Nodup :=
    everyOther.nodup_iff.2 right.nodup_siblings
  rw [List.perm_ext_iff_of_nodup (distinct.filter _) (distinctOther.filter _)]
  intro sibling
  rw [List.mem_filter, List.mem_filter, every.mem_iff, everyOther.mem_iff,
    mem_siblings, mem_siblings, layout]
  apply and_congr_left
  intro kin
  rw [alike sibling (of_decide_eq_true kin)]

omit [Mergeable σ] in
/-- A store that has siblings to merge only where another one has can have them merged in
such an order that wherever both agree on the siblings of a vertex these come in the same
order. -/
theorem exists_ordersAlike
    (layout : left.layout = right.layout)
    (fewer : ∀ id, (right.entry? id).isSome -> (left.entry? id).isSome)
    (every : order.Perm left.siblings) :
    ∃ others : List VertexId, others.Perm right.siblings ∧
      ∀ id, (∀ other, left.Kin other id ->
          left.entry? other = right.entry? other) ->
        left.OrdersAlike id order others := by
  have distinct : order.Nodup := every.nodup_iff.2 left.nodup_siblings
  refine ⟨order.filter (· ∈ right.siblings), ?_, fun id alike => ?_⟩
  · rw [List.perm_ext_iff_of_nodup (distinct.filter _) right.nodup_siblings]
    intro sibling
    rw [List.mem_filter, decide_eq_true_iff, and_iff_right_iff_imp,
      every.mem_iff, mem_siblings, mem_siblings, layout]
    exact And.imp_left (fewer sibling)
  · rw [OrdersAlike, List.filter_filter]
    apply List.filter_congr
    intro sibling member
    by_cases kin : left.Kin sibling id
    · have among := every.mem_iff.1 member
      rw [mem_siblings, alike sibling kin, layout, ← mem_siblings] at among
      simp [among]
    · simp [kin]

omit [Mergeable σ] in
/-- A vertex that is not partitioned has no siblings to merge, in whatever order. -/
theorem ordersAlike_of_whole
    (whole : VertexId.isPartitioned id = false)
    (layout : left.layout = right.layout)
    (every : order.Perm left.siblings)
    (everyOther : others.Perm right.siblings) :
    left.OrdersAlike id order others := by
  have canonical : left.layout.canonical id = id := by
    rw [IdLayout.canonical, if_neg (by simp [whole])]
  have alone {store : StateStore σ} {ids : List VertexId}
      (layout : left.layout = store.layout) (all : ids.Perm store.siblings) :
      ids.filter (fun sibling => left.Kin sibling id) = [] := by
    rw [List.filter_eq_nil_iff]
    intro sibling member kin
    have partitioned := ((store.mem_siblings sibling).1 (all.mem_iff.1 member)).2.1
    have same : left.layout.canonical sibling = id :=
      (of_decide_eq_true kin).trans canonical
    rw [← left.layout.isPartitioned_canonical, same, whole] at partitioned
    cases partitioned
  rw [OrdersAlike, alone rfl every, alone layout everyOther]

/-- Stores that agree on the siblings of a vertex come to the same for it where these
are merged in the same order. -/
theorem gatheredEntry_of_ordersAlike
    (layout : left.layout = right.layout)
    (alike : ∀ other, left.Kin other id ->
      left.entry? other = right.entry? other)
    (ordered : left.OrdersAlike id order others) :
    left.gatheredEntry merges order id =
      right.gatheredEntry merges others id := by
  cases merges with
  | false => exact alike id rfl
  | true =>
      have canonical := alike (left.layout.canonical id)
        (left.layout.canonical_canonical id)
      have entries : left.siblingEntries order (left.layout.canonical id) =
          right.siblingEntries others (left.layout.canonical id) := by
        calc left.siblingEntries order (left.layout.canonical id)
            = (others.filter fun sibling =>
                left.Kin sibling id).filterMap left.entry? :=
              congrArg (List.filterMap left.entry?) ordered
          _ = (others.filter fun sibling =>
                left.Kin sibling id).filterMap right.entry? := by
              apply List.filterMap_congr
              intro sibling member
              exact alike sibling
                (of_decide_eq_true (List.mem_filter.1 member).2)
          _ = right.siblingEntries others (left.layout.canonical id) := by
              rw [siblingEntries, ← layout]
              rfl
      rw [gatheredEntry, gatheredEntry, if_pos rfl, if_pos rfl, ← layout,
        siblingFold, siblingFold, entries, canonical]

/-- Where merging is commutative and associative, the siblings of a vertex come to
their entries combined. -/
theorem gatheredEntry_eq_foldl
    {combine : σ -> σ -> σ}
    (lawful : Mergeable.Commutes combine)
    (gathers : left.Gathers true order leftAfter)
    (id : VertexId) :
    left.gatheredEntry true order id =
      (order.filter fun sibling => left.Kin sibling id).foldl
        (fun entry sibling => combineEntries combine entry (left.entry? sibling))
        (left.entry? (left.layout.canonical id)) := by
  have apart : left.layout.canonical id ∉ order := fun member =>
    canonical_ne_of_mem_siblings (gathers.every.mem_iff.1 member) rfl
  obtain ⟨entry, folds⟩ := gathers.exists_fold (left.layout.canonical id)
  have gathered := siblingFold_join_eq_gathered lawful
    (Option.isSome_iff_exists.2 ⟨entry, folds⟩)
  rw [if_neg apart, StateStore.gathered, if_neg apart] at gathered
  exact gathered

/-- Where merging is commutative and associative, stores that agree on the siblings of
a vertex come to the same for it in whatever order they are merged. -/
theorem gatheredEntry_of_commutes
    {combine : σ -> σ -> σ}
    (lawful : Mergeable.Commutes combine)
    (layout : left.layout = right.layout)
    (alike : ∀ other, left.Kin other id ->
      left.entry? other = right.entry? other)
    (gathers : left.Gathers merges order leftAfter)
    (gathersOther : right.Gathers merges others rightAfter) :
    left.gatheredEntry merges order id =
      right.gatheredEntry merges others id := by
  cases merges with
  | false => exact alike id rfl
  | true =>
      have canonical := alike (left.layout.canonical id)
        (left.layout.canonical_canonical id)
      have perm := filter_kin_perm layout alike gathers.every gathersOther.every
      have kin : (fun sibling => decide (right.Kin sibling id)) =
          fun sibling => decide (left.Kin sibling id) := by
        funext sibling
        rw [decide_eq_decide, Kin, Kin, layout]
      rw [gatheredEntry_eq_foldl lawful gathers,
        gatheredEntry_eq_foldl lawful gathersOther, kin, ← layout, ← canonical,
        perm.foldl_eq' fun _ _ _ _ entry =>
          combineEntries_right_comm lawful entry _ _]
      apply List.foldl_ext
      intro entry sibling member
      rw [alike sibling (of_decide_eq_true (List.mem_filter.1 member).2)]

/-- What the siblings of a vertex come to is settled by their entries. -/
theorem gatheredEntry_congr
    (layout : left.layout = right.layout)
    (alike : ∀ other, left.Kin other id ->
      left.entry? other = right.entry? other)
    (gathers : left.Gathers merges order leftAfter)
    (gathersOther : right.Gathers merges others rightAfter)
    (settled : VertexId.isPartitioned id = false ∨
      left.OrdersAlike id order others ∨
      ∃ combine : σ -> σ -> σ, Mergeable.Commutes combine) :
    left.gatheredEntry merges order id =
      right.gatheredEntry merges others id := by
  rcases settled with whole | ordered | ⟨combine, lawful⟩
  · exact gatheredEntry_of_ordersAlike layout alike
      (ordersAlike_of_whole whole layout gathers.every gathersOther.every)
  · exact gatheredEntry_of_ordersAlike layout alike ordered
  · exact gatheredEntry_of_commutes lawful layout alike gathers gathersOther

end Alike

end Gathers

end StateStore
end GraphSweep
