import GraphSweep.Proofs.StateStore.Integers
import GraphSweep.Proofs.StateStore.Overflow

/-!
# Integers in the order of siblings

In what order the siblings of a vertex are merged is not determined. Where their states
are integers, the sum that is left is the same in every order, but not every order has
to get there: what has been added up so far has to fit at every step. It does so in
every order exactly if the number of the canonical vertex fits together with all
positive numbers of the siblings, and with all negative ones. So without signs it is
enough that the sum fits, and with signs it is not.
-/

namespace GraphSweep

/-- Some of a list of numbers add up to no less than the negative ones, and to no more
than the positive ones. -/
theorem sum_between_of_sublist
    {taken numbers : List Int}
    (among : taken.Sublist numbers) :
    (numbers.filter (· < 0)).sum ≤ taken.sum ∧
      taken.sum ≤ (numbers.filter (0 < ·)).sum := by
  induction among with
  | slnil => exact ⟨Int.le_refl 0, Int.le_refl 0⟩
  | cons number _ hypothesis =>
      rw [List.filter_cons, List.filter_cons]
      split <;> split <;> simp only [List.sum_cons, decide_eq_true_eq] at * <;>
        omega
  | cons_cons number _ hypothesis =>
      rw [List.filter_cons, List.filter_cons]
      split <;> split <;> simp only [List.sum_cons, decide_eq_true_eq] at * <;>
        omega

namespace StateStore

/-! ## The numbers of siblings -/

section Amounts

variable
  {σ : Type}
  {number : σ -> Int}
  {store : StateStore σ}
  {order : List VertexId}

/-- The number that an entry has; nothing for one without a state. -/
def amount (number : σ -> Int) (state : Option σ) : Int := state.elim 0 number

/-- The number that the canonical vertex of a vertex has itself. -/
def ownAmount (number : σ -> Int) (store : StateStore σ) (id : VertexId) : Int :=
  amount number (store.own? (store.layout.canonical id))

/-- The numbers of the other siblings of a vertex, in an order. -/
def siblingAmounts
    (number : σ -> Int)
    (store : StateStore σ)
    (order : List VertexId)
    (id : VertexId) : List Int :=
  (store.siblingEntries order (store.layout.canonical id)).map (amount number)

/-- The numbers that are added up for a vertex one after another: that of its canonical
vertex, if that has an entry, and then those of the other siblings in their order. -/
def amounts
    (number : σ -> Int)
    (store : StateStore σ)
    (order : List VertexId)
    (id : VertexId) : List Int :=
  (store.entry? (store.layout.canonical id)).toList.map (amount number) ++
    store.siblingAmounts number order id

/-- The exact sum of the numbers that all siblings of a vertex have. -/
def exactSum (number : σ -> Int) (store : StateStore σ) (id : VertexId) : Int :=
  ((store.kinEntries id).map (amount number)).sum

/-- The numbers are those of the entries that are merged. -/
theorem amounts_eq (id : VertexId) :
    store.amounts number order id =
      ((store.entry? (store.layout.canonical id)).toList ++
        store.siblingEntries order (store.layout.canonical id)).map
          (amount number) :=
  List.map_append.symm

/-- All numbers together come to the exact sum, in whatever order. -/
theorem sum_amounts
    (number : σ -> Int)
    (every : order.Perm store.siblings)
    (id : VertexId) :
    (store.amounts number order id).sum = store.exactSum number id := by
  rw [amounts_eq]
  exact ((kinEntries_perm every id).map (amount number)).sum_eq

/-- The siblings of a vertex have one sum. -/
theorem exactSum_of_kin {id other : VertexId} (kin : store.Kin id other) :
    store.exactSum number id = store.exactSum number other := by
  have same : (fun entry : VertexId × Option σ =>
      decide (store.Kin entry.1 id)) =
        fun entry => decide (store.Kin entry.1 other) := by
    funext entry
    rw [decide_eq_decide, Kin, Kin, kin]
  rw [exactSum, exactSum, kinEntries, kinEntries, same]

/-- The other siblings have the same numbers in every order. -/
theorem siblingAmounts_perm
    (number : σ -> Int)
    (every : order.Perm store.siblings)
    (id : VertexId) :
    (store.siblingAmounts number order id).Perm
      (store.siblingAmounts number store.siblings id) :=
  ((every.filter _).filterMap _).map _

/-- What is added up first is part of what the canonical vertex has, or that and some
numbers of the siblings. -/
theorem sum_of_prefix
    {taken : List Int}
    {id : VertexId}
    (before : taken <+: store.amounts number order id) :
    taken.sum = 0 ∨
      ∃ added : List Int,
        added.Sublist (store.siblingAmounts number order id) ∧
        taken.sum = store.ownAmount number id + added.sum := by
  rw [amounts] at before
  rw [ownAmount, own?]
  cases held : store.entry? (store.layout.canonical id) with
  | none =>
      rw [held] at before
      exact Or.inr ⟨taken, before.sublist, (Int.zero_add _).symm⟩
  | some state =>
      rw [held, Option.toList_some, List.map_singleton,
        List.singleton_append] at before
      rcases List.prefix_cons_iff.1 before with rfl | ⟨others, rfl, behind⟩
      · exact Or.inl rfl
      · exact Or.inr ⟨others, behind.sublist, List.sum_cons⟩

/-- The first sibling in an order comes first if it is one of the vertex. -/
theorem siblingAmounts_cons
    (sibling : VertexId)
    (ids : List VertexId)
    (id : VertexId) :
    store.siblingAmounts number (sibling :: ids) id =
      (if store.layout.canonical sibling = store.layout.canonical id then
        (store.entry? sibling).toList.map (amount number)
      else []) ++
        store.siblingAmounts number ids id := by
  rw [siblingAmounts, siblingAmounts, siblingEntries, siblingEntries]
  by_cases kin :
      store.layout.canonical sibling = store.layout.canonical id
  · rw [if_pos kin, List.filter_cons_of_pos (by simpa using kin),
      List.filterMap_cons]
    cases store.entry? sibling <;> rfl
  · rw [if_neg kin, List.filter_cons_of_neg (by simpa using kin)]
    rfl

/-- The siblings whose numbers a condition keeps have the numbers that it keeps. -/
theorem siblingAmounts_filter
    (keep : Int -> Bool)
    (ids : List VertexId)
    (id : VertexId) :
    store.siblingAmounts number
        (ids.filter fun sibling => keep (amount number (store.own? sibling)))
        id =
      (store.siblingAmounts number ids id).filter keep := by
  induction ids with
  | nil => rfl
  | cons sibling ids hypothesis =>
      have each : ∀ value ∈
          if store.layout.canonical sibling = store.layout.canonical id then
            (store.entry? sibling).toList.map (amount number)
          else [],
          value = amount number (store.own? sibling) := by
        intro value member
        split at member
        · obtain ⟨state, held, rfl⟩ := List.mem_map.1 member
          rw [own?, Option.mem_toList.1 held, Option.join_some]
        · cases member
      rw [siblingAmounts_cons, List.filter_append, ← hypothesis,
        List.filter_cons]
      cases kept : keep (amount number (store.own? sibling)) with
      | true =>
          have whole := List.filter_eq_self.2 fun value member =>
            (congrArg keep (each value member)).trans kept
          rw [if_pos rfl, siblingAmounts_cons, whole]
      | false =>
          have none := List.filter_eq_nil_iff.2 fun value member =>
            ne_true_of_eq_false ((congrArg keep (each value member)).trans kept)
          rw [if_neg Bool.false_ne_true, none, List.nil_append]

/-- In some order the numbers that a condition keeps are added up first. -/
theorem exists_order_sum
    (number : σ -> Int)
    (store : StateStore σ)
    (keep : Int -> Bool)
    (id : VertexId) :
    ∃ order : List VertexId, order.Perm store.siblings ∧
      ∃ taken, taken <+: store.amounts number order id ∧
        taken.sum = store.ownAmount number id +
          ((store.siblingAmounts number store.siblings id).filter keep).sum := by
  let first : VertexId -> Bool := fun sibling =>
    keep (amount number (store.own? sibling))
  let own := (store.entry? (store.layout.canonical id)).toList.map
    (amount number)
  have split (front back : List VertexId) :
      store.siblingAmounts number (front ++ back) id =
        store.siblingAmounts number front id ++
          store.siblingAmounts number back id := by
    simp only [siblingAmounts, siblingEntries, List.filter_append,
      List.filterMap_append, List.map_append]
  refine ⟨store.siblings.filter first ++
    store.siblings.filter fun sibling => !first sibling,
    List.filter_append_perm first store.siblings,
    own ++ store.siblingAmounts number (store.siblings.filter first) id, ?_, ?_⟩
  · rw [amounts, split, ← List.append_assoc]
    exact List.prefix_append _ _
  · have alone : own.sum = store.ownAmount number id := by
      rw [ownAmount, own?]
      cases held : store.entry? (store.layout.canonical id) <;>
        simp [own, held, amount]
    rw [List.sum_append, alone, siblingAmounts_filter]

end Amounts

/-! ## Merging that gets through -/

section Through

variable
  {σ : Type}
  [Mergeable σ]
  {number : σ -> Int}
  {least greatest : Int}
  (adds : Mergeable.AddsUp number least greatest)
  {store : StateStore σ}
  {order : List VertexId}

/-- No sibling of a partitioned vertex has an entry without a state. -/
def Stated (store : StateStore σ) : Prop :=
  ∀ id, VertexId.isPartitioned id = true -> store.entry? id ≠ some none

omit [Mergeable σ] in
/-- Then none of the entries that are merged for a partitioned vertex lacks a state. -/
theorem Stated.notMem
    (stated : store.Stated)
    {id : VertexId}
    (partitioned : VertexId.isPartitioned id = true)
    (order : List VertexId) :
    none ∉ (store.entry? (store.layout.canonical id)).toList ++
      store.siblingEntries order (store.layout.canonical id) := by
  intro lacking
  rcases List.mem_append.1 lacking with own | sibling
  · refine stated (store.layout.canonical id) ?_ (Option.mem_toList.1 own)
    rw [IdLayout.isPartitioned_canonical, partitioned]
  · obtain ⟨other, member, held⟩ := List.mem_filterMap.1 sibling
    refine stated other ?_ held
    have kin : store.layout.canonical other = store.layout.canonical id :=
      of_decide_eq_true (List.mem_filter.1 member).2
    rw [← store.layout.isPartitioned_canonical, kin,
      IdLayout.isPartitioned_canonical, partitioned]

include adds

/-- What is merged for a partitioned vertex gets through exactly if all that is added up
first is in the range. -/
theorem isSome_siblingFold_iff
    (stated : store.Stated)
    {id : VertexId}
    (partitioned : VertexId.isPartitioned id = true) :
    (store.siblingFold order (store.layout.canonical id)).isSome = true ↔
      ∀ taken, taken <+: store.amounts number order id ->
        taken.sum ∈ Set.Icc least greatest := by
  have pieces := stated.notMem partitioned order
  rw [amounts_eq, siblingFold]
  by_cases empty : (store.entry? (store.layout.canonical id)).toList ++
      store.siblingEntries order (store.layout.canonical id) = []
  · obtain ⟨own, siblings⟩ := List.append_eq_nil_iff.1 empty
    rw [empty, siblings]
    refine iff_of_true rfl fun taken before => ?_
    rw [List.prefix_nil.1 before]
    exact adds.zero
  · obtain ⟨first, rest, all⟩ := exists_states empty pieces
    rw [mergeEntries_of_states all, Option.isSome_map,
      adds.isSome_mergeAll_iff, all, List.map_map]
    rfl

/-- Merging gets through exactly if for each partitioned vertex all that is added up
first is in the range. -/
theorem through_iff
    (every : order.Perm store.siblings)
    (stated : store.Stated) :
    (store.absorbAll order).2 = true ↔
      ∀ id, VertexId.isPartitioned id = true ->
        ∀ taken, taken <+: store.amounts number order id ->
          taken.sum ∈ Set.Icc least greatest := by
  constructor
  · intro through id partitioned
    exact (isSome_siblingFold_iff adds stated partitioned).1
      ((absorbAll_snd_iff (absorbable_of_perm every)).1 through _)
  · intro fits
    refine through_of_folds every fun sibling member => ?_
    have partitioned := ((store.mem_siblings sibling).1
      (every.mem_iff.1 member)).2.1
    exact (isSome_siblingFold_iff adds stated partitioned).2
      (fits sibling partitioned)

/-- Where merging gets through, every sibling of a partitioned vertex is read as the exact
sum. -/
theorem get_of_through
    (every : order.Perm store.siblings)
    (stated : store.Stated)
    (through : (store.absorbAll order).2 = true)
    {id : VertexId}
    (partitioned : VertexId.isPartitioned id = true)
    (held : store.kinEntries id ≠ []) :
    ∃ state, get (store.mergeInOrder order).2 id = some state ∧
      number state = store.exactSum number id := by
  have entries := kinEntries_perm every id
  obtain ⟨first, rest, all⟩ := exists_states
    (fun empty => held (List.nil_perm.1 (empty ▸ entries)))
    (stated.notMem partitioned order)
  have merged := mergeEntries_of_states all
  obtain ⟨folded, folds⟩ := Option.isSome_iff_exists.1
    ((absorbAll_snd_iff (absorbable_of_perm every)).1 through
      (store.layout.canonical id))
  rw [← siblingFold, folds] at merged
  obtain ⟨sum, sums, rfl⟩ := Option.map_eq_some_iff.1 merged.symm
  refine ⟨sum, ?_, ?_⟩
  · have apart : store.layout.canonical id ∉ order := fun member =>
      canonical_ne_of_mem_siblings (every.mem_iff.1 member) rfl
    have entry := entry?_absorbAll (absorbable_of_perm every) through
      (store.layout.canonical id)
    rw [if_neg apart, folds] at entry
    have resolves : resolve (store.mergeInOrder order).2 id =
        store.layout.canonical id := by
      rw [mergeInOrder_of_through through, resolve, if_pos rfl]
      exact congrArg (IdLayout.canonical · id) (store.layout_absorbAll order)
    rw [get, resolves, mergeInOrder_of_through through]
    exact congrArg Option.join entry
  · rw [adds.number_of_mergeAll sums, ← sum_amounts number every, amounts_eq, all,
      List.map_map]
    rfl

/-- Merging gets through in every order exactly if the number of each canonical vertex
fits together with all positive numbers of its siblings, and with all negative ones. -/
theorem mergesFreely_iff (stated : store.Stated) :
    store.MergesFreely ↔
      ∀ id, VertexId.isPartitioned id = true ->
        let siblings := store.siblingAmounts number store.siblings id
        store.ownAmount number id + (siblings.filter (0 < ·)).sum ≤ greatest ∧
          least ≤ store.ownAmount number id + (siblings.filter (· < 0)).sum := by
  constructor
  · intro freely id partitioned siblings
    have bounds (keep : Int -> Bool) :
        store.ownAmount number id + (siblings.filter keep).sum ∈
          Set.Icc least greatest := by
      obtain ⟨order, every, taken, before, sum⟩ :=
        store.exists_order_sum number keep id
      rw [← sum]
      exact (through_iff adds every stated).1 (freely order every) id
        partitioned taken before
    exact ⟨(bounds _).2, (bounds _).1⟩
  · intro bounds order every
    rw [through_iff adds every stated]
    intro id partitioned taken before
    obtain ⟨high, low⟩ := bounds id partitioned
    rcases sum_of_prefix before with nothing | ⟨added, among, sum⟩
    · rw [nothing]
      exact adds.zero
    · have perm := siblingAmounts_perm number every id
      obtain ⟨below, above⟩ := sum_between_of_sublist among
      rw [(perm.filter _).sum_eq] at below above
      rw [sum, Set.mem_Icc]
      omega

/-- Without negative numbers it is enough that the sums fit. -/
theorem mergesFreely_of_natural
    (stated : store.Stated)
    (natural : least = 0)
    (fits : ∀ id, VertexId.isPartitioned id = true ->
      store.exactSum number id ∈ Set.Icc least greatest) :
    store.MergesFreely := by
  intro order every
  rw [through_iff adds every stated]
  rintro id partitioned taken ⟨rest, all⟩
  have positive (state : Option σ) : 0 ≤ amount number state := by
    cases state with
    | none => exact Int.le_refl 0
    | some state => exact natural ▸ (adds.number_mem state).1
  have amounts : ∀ value ∈ store.amounts number order id, 0 ≤ value := by
    intro value member
    rw [amounts_eq] at member
    obtain ⟨state, -, rfl⟩ := List.mem_map.1 member
    exact positive state
  have total := sum_amounts number every id
  rw [← all, List.sum_append] at total
  rw [← all] at amounts
  have front : 0 ≤ taken.sum := List.sum_nonneg fun value member =>
    amounts value (List.mem_append_left _ member)
  have back : 0 ≤ rest.sum := List.sum_nonneg fun value member =>
    amounts value (List.mem_append_right _ member)
  have bound := (fits id partitioned).2
  rw [Set.mem_Icc]
  omega

end Through

/-- Integers that are merged add up, where the order lets them. Let no sibling have an
entry without a state. Then merging gets through in an order exactly if at every step
what has been added up for a vertex is a number of the type, and every sibling is then
read as the exact sum. Merging gets through in every order exactly if the number of each
canonical vertex fits together with all positive numbers of its siblings and with all
negative ones. For types without signs that is so as soon as the sums are numbers of the
type. -/
theorem merging_integers_adds_up
    (type : IntegerType)
    (store : StateStore type.State)
    (stated : store.Stated) :
    (∀ order : List VertexId, order.Perm store.siblings ->
      ((store.mergeInOrder order).1.isSome = true ↔
        ∀ id, VertexId.isPartitioned id = true ->
          ∀ taken, taken <+: store.amounts type.number order id ->
            taken.sum ∈ type.range) ∧
      ((store.mergeInOrder order).1.isSome = true ->
        (store.mergeInOrder order).1 = some store.siblings.length ∧
        ∀ id, VertexId.isPartitioned id = true -> store.kinEntries id ≠ [] ->
          ∃ state, get (store.mergeInOrder order).2 id = some state ∧
            type.number state = store.exactSum type.number id)) ∧
    (store.MergesFreely ↔
      ∀ id, VertexId.isPartitioned id = true ->
        let own := store.ownAmount type.number id
        let siblings := store.siblingAmounts type.number store.siblings id
        own + (siblings.filter (0 < ·)).sum ≤ type.greatest ∧
          type.least ≤ own + (siblings.filter (· < 0)).sum) ∧
    (type.least = 0 ->
      (∀ id, VertexId.isPartitioned id = true ->
        store.exactSum type.number id ∈ type.range) ->
      store.MergesFreely) := by
  have adds := type.addsUp
  refine ⟨fun order every => ⟨?_, fun answered => ?_⟩,
    mergesFreely_iff adds stated, mergesFreely_of_natural adds stated⟩
  · rw [isSome_mergeInOrder_iff]
    exact through_iff adds every stated
  · have through := isSome_mergeInOrder_iff.1 answered
    refine ⟨?_, fun id partitioned held =>
      get_of_through adds every stated through partitioned held⟩
    rw [mergeInOrder_of_through through, every.length_eq]

/-- A store with a vertex in three siblings, the first of which has the greatest number
that there is. The numbers of the others cancel out. -/
def brimming : StateStore Int64 where
  layout := IdLayout.standard
  entries := [
    (IdLayout.standard.partitioned 3 0, some Int64.maxValue),
    (IdLayout.standard.partitioned 3 1, some 1),
    (IdLayout.standard.partitioned 3 2, some (-1))]
  merged := false
  distinct := by decide +kernel

theorem stated_brimming : brimming.Stated := by
  intro id _ lacking
  have listed := mem_entries.2 lacking
  have stated : none ∉ brimming.entries.map Prod.snd := by decide +kernel
  exact stated (List.mem_map.2 ⟨_, listed, rfl⟩)

theorem brimming_adds_up_from_below :
    brimming.Stated ∧
    (brimming.mergeInOrder [201, 197]).1 = some 2 ∧
    ∃ state, get (brimming.mergeInOrder [201, 197]).2 197 = some state ∧
      state.toInt = brimming.exactSum Int64.toInt 197 := by
  have every : List.Perm [201, 197] brimming.siblings := by decide +kernel
  have answered : (brimming.mergeInOrder [201, 197]).1.isSome = true := by
    decide +kernel
  obtain ⟨orders, -⟩ :=
    merging_integers_adds_up .int64 brimming stated_brimming
  obtain ⟨count, sums⟩ := (orders [201, 197] every).2 answered
  exact ⟨stated_brimming, count, sums 197 (by decide +kernel)
    (by decide +kernel)⟩

/-- The sum of the siblings is a number of the type, and still they cannot be merged in
the other order. -/
theorem brimming_overflows_from_above :
    brimming.Stated ∧
    (∀ id, VertexId.isPartitioned id = true ->
      brimming.exactSum Int64.toInt id ∈ IntegerType.int64.range) ∧
    brimming.exactSum Int64.toInt 193 = Int64.maxValue.toInt ∧
    List.Perm [197, 201] brimming.siblings ∧
    (brimming.mergeInOrder [197, 201]).1 = none := by
  have full : brimming.exactSum Int64.toInt 193 = Int64.maxValue.toInt := by
    decide +kernel
  refine ⟨stated_brimming, ?_, full, by decide +kernel, by decide +kernel⟩
  intro id _
  have siblings : ∀ entry ∈ brimming.entries,
      decide (brimming.Kin entry.1 193) = true := by
    -- Ids are words, so the quantifier on its own may be decided over all words.
    rw [← List.all_eq_true]
    decide +kernel
  by_cases kin : brimming.layout.canonical id = brimming.layout.canonical 193
  · rw [exactSum_of_kin kin, full]
    exact ⟨by decide, Int.le_refl _⟩
  · have alone : brimming.kinEntries id = [] := by
      rw [kinEntries, List.map_eq_nil_iff, List.filter_eq_nil_iff]
      intro entry member own
      exact kin ((of_decide_eq_true own).symm.trans
        (of_decide_eq_true (siblings entry member)))
    rw [exactSum, alone]
    exact IntegerType.int64.addsUp.zero

end StateStore
end GraphSweep
