import GraphSweep.Proofs.StateStore.Absorb
import Mathlib.Data.Set.List

/-!
# What merging the siblings leaves

Merging takes away the entries of siblings and leaves one entry for each canonical
vertex that had a sibling. It holds the states of the siblings merged from left to
right, or none if one of them had none. All other entries stay, and merging once more
finds nothing to do.
-/

namespace GraphSweep
namespace StateStore

variable {σ : Type}

/-- A vertex with an entry has it once. -/
theorem filter_entries_of_held
    {store : StateStore σ}
    {id : VertexId}
    {state : Option σ}
    (held : store.entry? id = some state) :
    store.entries.filter (fun entry => entry.1 = id) = [(id, state)] := by
  obtain ⟨layout, entries, merged, distinct⟩ := store
  simp only [ entry?] at held ⊢
  induction entries with
  | nil => cases held
  | cons head rest hypothesis =>
      obtain ⟨first, found⟩ := head
      obtain ⟨fresh, distinctRest⟩ := List.nodup_cons.1 distinct
      by_cases same : first = id
      · subst same
        simp only [findEntry, if_true, Option.some.injEq] at held
        have others : rest.filter (fun entry => entry.1 = first) = [] := by
          rw [List.filter_eq_nil_iff]
          intro entry member
          have apart : entry.1 ≠ first := fun equal =>
            fresh (List.mem_map.2 ⟨entry, member, equal⟩)
          simpa using apart
        rw [List.filter_cons_of_pos (by simp), others, held]
      · rw [findEntry, if_neg same] at held
        rw [List.filter_cons_of_neg (by simpa using same)]
        exact hypothesis distinctRest held

/-- The entries of a store are those that it is read by. -/
theorem mem_entries
    {store : StateStore σ}
    {id : VertexId}
    {state : Option σ} :
    (id, state) ∈ store.entries ↔ store.entry? id = some state := by
  constructor
  · intro member
    have listed := List.mem_map_of_mem (f := Prod.fst) member
    obtain ⟨held, found⟩ := Option.isSome_iff_exists.1
      ((store.entry?_isSome_iff id).2 listed)
    have kept : (id, state) ∈
        store.entries.filter fun entry => entry.1 = id :=
      List.mem_filter.2 ⟨member, decide_eq_true rfl⟩
    rw [filter_entries_of_held found, List.mem_singleton] at kept
    rw [found, (Prod.mk.inj kept).2]
  · intro held
    have kept : (id, state) ∈
        store.entries.filter fun entry => entry.1 = id := by
      rw [filter_entries_of_held held]
      exact List.mem_singleton_self _
    exact (List.mem_filter.1 kept).1

/-- The siblings are those vertices with entries that are partitioned and not
canonical. -/
theorem length_siblings (store : StateStore σ) :
    store.siblings.length =
      (store.entries.filter fun entry => VertexId.isPartitioned entry.1 &&
        store.layout.canonical entry.1 != entry.1).length := by
  rw [siblings, List.filter_map, List.length_map]
  rfl

section Merge

variable [Mergeable σ]

/-! ## Merged entries -/

/-- An entry without a state takes all states. -/
theorem mergeEntries_of_lacking
    {held merged : Option (Option σ)}
    {states : List (Option σ)}
    (merges : mergeEntries held states = some merged)
    (lacking : none ∈ held.toList ++ states) :
    merged = some none := by
  induction states generalizing held with
  | nil =>
      rw [List.append_nil, Option.mem_toList] at lacking
      exact (Option.some.inj merges).symm.trans lacking
  | cons state states hypothesis =>
      obtain ⟨entry, first, later⟩ := Option.bind_eq_some_iff.1 merges
      apply hypothesis later
      rcases List.mem_append.1 lacking with here | there
      · rw [Option.mem_toList] at here
        subst here
        cases first
        exact List.mem_cons_self
      · rcases List.mem_cons.1 there with rfl | behind
        · rcases held with _ | _ | held <;>
          · cases first
            exact List.mem_cons_self
        · exact List.mem_append_right _ behind

/-- Where no entry lacks a state, the states are merged from left to right. -/
theorem mergeEntries_of_states
    {held : Option (Option σ)}
    {states : List (Option σ)}
    {first : σ}
    {rest : List σ}
    (all : held.toList ++ states = (first :: rest).map some) :
    mergeEntries held states =
      (mergeAll first rest).map fun sum => some (some sum) := by
  have going (first : σ) (rest : List σ) :
      mergeEntries (some (some first)) (rest.map some) =
        (mergeAll first rest).map fun sum => some (some sum) := by
    induction rest generalizing first with
    | nil => rfl
    | cons next rest hypothesis =>
        rw [List.map_cons, mergeEntries, mergeAll, mergeEntry]
        cases Mergeable.merge first next with
        | none => rfl
        | some sum => exact hypothesis sum
  cases held with
  | none =>
      rw [Option.toList_none, List.nil_append] at all
      rw [all]
      exact going first rest
  | some entry =>
      rw [Option.toList_some, List.singleton_append, List.map_cons,
        List.cons.injEq] at all
      rw [all.1, all.2]
      exact going first rest

omit [Mergeable σ] in
/-- Entries of which none lacks a state are states. -/
theorem exists_states
    {states : List (Option σ)}
    (filled : states ≠ [])
    (stated : none ∉ states) :
    ∃ first rest, states = (first :: rest).map some := by
  have range : states ∈ Set.range (List.map (some : σ -> Option σ)) := by
    rw [Set.range_list_map]
    intro entry member
    cases entry with
    | none => exact absurd member stated
    | some value => exact ⟨value, rfl⟩
  obtain ⟨values, rfl⟩ := range
  cases values with
  | nil => exact absurd rfl filled
  | cons first rest => exact ⟨first, rest, rfl⟩

/-! ## The merged store -/

/-- A store is what another one becomes when its siblings are merged in an order. -/
structure MergedFrom
    (store : StateStore σ)
    (order : List VertexId)
    (after : StateStore σ) : Prop where
  /-- The entries of siblings are gone. -/
  removed : ∀ id, VertexId.isPartitioned id = true ->
    store.layout.canonical id ≠ id -> after.entry? id = none
  /-- The entries of vertices that are not partitioned stay. -/
  whole : ∀ id, VertexId.isPartitioned id = false ->
    after.entry? id = store.entry? id
  /-- So do those of canonical vertices without siblings. -/
  single : ∀ id, store.layout.canonical id = id ->
    store.siblingEntries order id = [] -> after.entry? id = store.entry? id
  /-- A canonical vertex has one entry without a state if one of the entries merged
  into it, or its own, had none. -/
  lacking : ∀ id, store.layout.canonical id = id ->
    store.siblingEntries order id ≠ [] ->
    none ∈ (store.entry? id).toList ++ store.siblingEntries order id ->
      after.entries.filter (fun entry => entry.1 = id) = [(id, none)]
  /-- Otherwise it has one entry with all states merged from left to right, its own
  coming first. -/
  united : ∀ id, store.layout.canonical id = id ->
    store.siblingEntries order id ≠ [] ->
    none ∉ (store.entry? id).toList ++ store.siblingEntries order id ->
      ∃ first rest sum,
        (store.entry? id).toList ++ store.siblingEntries order id =
            (first :: rest).map some ∧
          mergeAll first rest = some sum ∧
          after.entries.filter (fun entry => entry.1 = id) = [(id, some sum)]
  /-- Every sibling is read as the canonical vertex is. -/
  read : ∀ id, after.get id = after.get (store.layout.canonical id) ∧
    after.contains id = after.contains (store.layout.canonical id) ∧
    after.lacksState id = after.lacksState (store.layout.canonical id)
  /-- Merging once more, in any order, changes nothing. -/
  settled : ∀ again : List VertexId, again.Perm after.siblings ->
    after.mergeInOrder again = (some 0, after)

section Through

variable
  {store : StateStore σ}
  {order : List VertexId}

/-- Merging gets through when it does for each canonical vertex of a sibling. -/
theorem through_of_folds
    (every : order.Perm store.siblings)
    (merges : ∀ sibling ∈ order,
      (store.siblingFold order (store.layout.canonical sibling)).isSome) :
    (store.absorbAll order).2 = true := by
  rw [absorbAll_snd_iff (absorbable_of_perm every)]
  intro id
  by_cases claimed : ∃ sibling ∈ order, store.layout.canonical sibling = id
  · obtain ⟨sibling, member, rfl⟩ := claimed
    exact merges sibling member
  · rw [siblingFold_of_unclaimed fun sibling member same =>
      claimed ⟨sibling, member, same⟩]
    rfl

/-- An entry that siblings are merged into is there once. -/
theorem filter_entries_absorbAll
    (every : order.Perm store.siblings)
    (through : (store.absorbAll order).2 = true)
    {id : VertexId}
    {state : Option σ}
    (canonical : store.layout.canonical id = id)
    (folds : store.siblingFold order id = some (some state)) :
    (store.absorbAll order).1.entries.filter (fun entry => entry.1 = id) =
      [(id, state)] := by
  have apart : id ∉ order := fun member =>
    ((store.mem_siblings id).1 (every.mem_iff.1 member)).2.2 canonical
  apply filter_entries_of_held
  rw [entry?_absorbAll (absorbable_of_perm every) through, if_neg apart, folds]
  rfl

/-- No siblings are left once all have been merged. -/
theorem siblings_absorbAll
    (every : order.Perm store.siblings)
    (through : (store.absorbAll order).2 = true) :
    siblings (store.absorbAll order).1 = [] := by
  rw [List.eq_nil_iff_forall_not_mem]
  intro id member
  rw [mem_siblings, layout_absorbAll,
    entry?_absorbAll (absorbable_of_perm every) through] at member
  obtain ⟨present, partitioned, apart⟩ := member
  by_cases merged : id ∈ order
  · rw [if_pos merged] at present
    cases present
  · rw [if_neg merged, siblingFold_of_unclaimed fun sibling _ same => by
      rw [← same, IdLayout.canonical_canonical] at apart
      exact apart rfl] at present
    exact merged (every.mem_iff.2
      ((store.mem_siblings id).2 ⟨present, partitioned, apart⟩))

/-- What merging that gets through leaves. -/
theorem mergedFrom_of_through
    (every : order.Perm store.siblings)
    (through : (store.absorbAll order).2 = true) :
    store.MergedFrom order
      { (store.absorbAll order).1 with merged := true } := by
  have absorbable := absorbable_of_perm every
  have folds := (absorbAll_snd_iff absorbable).1 through
  have entries (id : VertexId) := entry?_absorbAll absorbable through id
  have kept {id : VertexId}
      (canonical : store.layout.canonical id = id)
      (unclaimed : store.siblingEntries order id = []) :
      entry? (store.absorbAll order).1 id = store.entry? id := by
    have apart : id ∉ order := fun member =>
      ((store.mem_siblings id).1 (every.mem_iff.1 member)).2.2 canonical
    rw [entries, if_neg apart, siblingFold, unclaimed]
    rfl
  refine ⟨?_, ?_, ?_, ?_, ?_, ?_, ?_⟩
  · intro id partitioned apart
    have none : id ∉ siblings (store.absorbAll order).1 := by
      rw [siblings_absorbAll every through]
      exact List.not_mem_nil
    rw [mem_siblings, layout_absorbAll] at none
    rw [← Option.not_isSome_iff_eq_none]
    exact fun present => none ⟨present, partitioned, apart⟩
  · intro id whole
    have canonical : store.layout.canonical id = id := by
      simp [IdLayout.canonical, whole]
    refine kept canonical (siblingEntries_of_unclaimed ?_)
    intro sibling member same
    have partitioned := ((store.mem_siblings sibling).1
      (every.mem_iff.1 member)).2.1
    rw [← same, IdLayout.isPartitioned_canonical, partitioned] at whole
    cases whole
  · intro id canonical unclaimed
    exact kept canonical unclaimed
  · intro id canonical _ lacking
    obtain ⟨merged, answer⟩ := Option.isSome_iff_exists.1 (folds id)
    have none := mergeEntries_of_lacking answer lacking
    subst none
    exact filter_entries_absorbAll every through canonical answer
  · intro id canonical claimed stated
    obtain ⟨merged, answer⟩ := Option.isSome_iff_exists.1 (folds id)
    obtain ⟨first, rest, all⟩ :=
      exists_states (List.append_ne_nil_of_right_ne_nil _ claimed) stated
    have united := mergeEntries_of_states all
    rw [← siblingFold, answer] at united
    obtain ⟨sum, sums, rfl⟩ := Option.map_eq_some_iff.1 united.symm
    exact ⟨first, rest, sum, all, sums,
      filter_entries_absorbAll every through canonical answer⟩
  · intro id
    have resolve : ∀ id, resolve { (store.absorbAll order).1 with
        merged := true } id = store.layout.canonical id := by
      intro id
      simp [StateStore.resolve]
    simp only [get, contains, lacksState, resolve, IdLayout.canonical_canonical,
      and_self]
  · intro again perm
    have none : siblings (store.absorbAll order).1 = [] :=
      siblings_absorbAll every through
    have nothing : again = [] := by
      have perm : again.Perm (siblings (store.absorbAll order).1) := perm
      rw [none] at perm
      exact perm.eq_nil
    rw [nothing]
    rfl

end Through

/-- The law of merging. However the entries of a store come, as long as no two states
that are to be merged lack an answer, merging counts the entries of siblings, takes
exactly these away, and leaves for each canonical vertex that had one a single entry:
without a state if one of the entries merged had none, and with all states merged from
left to right otherwise. All siblings are then read as the canonical one, and merging
once more changes nothing. -/
theorem merging_keeps_all_states
    (store : StateStore σ)
    (order : List VertexId)
    (every : order.Perm store.siblings)
    (merges : ∀ sibling ∈ order,
      (store.siblingFold order (store.layout.canonical sibling)).isSome) :
    store.mergeSiblings = store.mergeInOrder store.siblings ∧
    (store.mergeInOrder order).1 =
      some (store.entries.filter fun entry => VertexId.isPartitioned entry.1 &&
        store.layout.canonical entry.1 != entry.1).length ∧
    store.MergedFrom order (store.mergeInOrder order).2 := by
  have through := through_of_folds every merges
  rw [mergeInOrder_of_through through, ← length_siblings, every.length_eq]
  exact ⟨rfl, rfl, mergedFrom_of_through every through⟩

end Merge

/-- A store in which a vertex is there whole, one in three siblings, and one in a
sibling that has no state. -/
def threeVertices : StateStore UInt64 where
  layout := IdLayout.standard
  entries := [
    (IdLayout.standard.partitioned 3 2, some 5),
    (IdLayout.standard.normal 3, some 1),
    (IdLayout.standard.partitioned 3 0, some 7),
    (IdLayout.standard.partitioned 8 1, none),
    (IdLayout.standard.partitioned 3 1, some 11)]
  merged := false
  distinct := by decide +kernel

theorem merging_three_vertices_keeps_all_states :
    threeVertices.siblings.reverse.Perm threeVertices.siblings ∧
    (∀ sibling ∈ threeVertices.siblings.reverse,
      (threeVertices.siblingFold threeVertices.siblings.reverse
        (IdLayout.standard.canonical sibling)).isSome) ∧
    (threeVertices.mergeInOrder threeVertices.siblings.reverse).1 = some 3 ∧
    (threeVertices.mergeInOrder threeVertices.siblings.reverse).2.entries =
      [(IdLayout.standard.normal 3, some 1),
        (IdLayout.standard.partitioned 3 0, some 23),
        (IdLayout.standard.partitioned 8 0, none)] ∧
    threeVertices.MergedFrom threeVertices.siblings.reverse
      (threeVertices.mergeInOrder threeVertices.siblings.reverse).2 := by
  have every : threeVertices.siblings.reverse.Perm threeVertices.siblings :=
    List.reverse_perm _
  have merges : ∀ sibling ∈ threeVertices.siblings.reverse,
      (threeVertices.siblingFold threeVertices.siblings.reverse
        (IdLayout.standard.canonical sibling)).isSome := by
    -- Ids are words, so the quantifier on its own may be decided over all words.
    rw [← List.all_eq_true]
    decide +kernel
  obtain ⟨-, -, merged⟩ := merging_keeps_all_states threeVertices
    threeVertices.siblings.reverse every merges
  exact ⟨every, merges, by decide +kernel, by decide +kernel, merged⟩

end StateStore
end GraphSweep
