import GraphSweep.Proofs.StateStore.Answers
import GraphSweep.Proofs.StateStore.Sums

/-!
# Siblings whose numbers do not fit

The numbers of the siblings of a vertex can be merged, in whatever order, if their sum
fits in a word, and they cannot in any order if it does not and each sibling has a
number. Where merging gets through, a vertex has the sum of what its siblings have, or
nothing if one of them has no number.
-/

namespace GraphSweep

/-- Numbers whose sum does not fit have no sum. -/
theorem mergeAll_of_overflow
    {start : UInt64}
    {numbers : List UInt64}
    (exceeds : UInt64.size ≤ start.toNat + (numbers.map UInt64.toNat).sum) :
    mergeAll start numbers = none := by
  induction numbers generalizing start with
  | nil => exact absurd start.toNat_lt_size (Nat.not_lt.2 exceeds)
  | cons number numbers hypothesis =>
      by_cases first : start.toNat + number.toNat < UInt64.size
      · obtain ⟨merges, sum⟩ := Mergeable.merge_of_fits first
        rw [List.map_cons, List.sum_cons, ← Nat.add_assoc, ← sum] at exceeds
        rw [mergeAll, merges]
        exact hypothesis exceeds
      · have stuck : Mergeable.merge start number = none := if_neg first
        rw [mergeAll, stuck]
        rfl

namespace StateStore

/-! ## The entries of siblings -/

section Kin

variable {σ : Type} {store : StateStore σ}

/-- The entries of all vertices that are read as one when siblings are merged. -/
def kinEntries (store : StateStore σ) (id : VertexId) : List (Option σ) :=
  (store.entries.filter fun entry => store.Kin entry.1 id).map Prod.snd

/-- A store lists what it holds for a vertex. -/
theorem map_snd_filter_entries (store : StateStore σ) (id : VertexId) :
    (store.entries.filter fun entry => entry.1 = id).map Prod.snd =
      (store.entry? id).toList := by
  cases held : store.entry? id with
  | some state =>
      rw [filter_entries_of_held held]
      rfl
  | none =>
      have nothing : store.entries.filter (fun entry => entry.1 = id) = [] := by
        rw [List.filter_eq_nil_iff]
        rintro ⟨other, state⟩ member same
        have asked : other = id := of_decide_eq_true same
        rw [asked, mem_entries, held] at member
        cases member
      rw [nothing]
      rfl

/-- The entries that are merged into a canonical vertex are those of its siblings. -/
theorem siblingEntries_siblings (store : StateStore σ) (id : VertexId) :
    store.siblingEntries store.siblings (store.layout.canonical id) =
      (store.entries.filter fun entry =>
        !decide (entry.1 = store.layout.canonical id) &&
          decide (store.Kin entry.1 id)).map Prod.snd := by
  rw [siblingEntries, siblings, List.filter_map, List.filter_map,
    List.filter_filter, List.filterMap_map, ← List.filterMap_eq_map]
  have listed (kept : VertexId × Option σ -> Bool) :
      (store.entries.filter kept).filterMap (store.entry? ∘ Prod.fst) =
        (store.entries.filter kept).filterMap (some ∘ Prod.snd) :=
    List.filterMap_congr fun entry member =>
      mem_entries.1 (List.mem_of_mem_filter member)
  rw [listed]
  congr 1
  apply List.filter_congr
  intro entry _
  have partitioned : store.layout.canonical entry.1 ≠ entry.1 ->
      VertexId.isPartitioned entry.1 = true :=
    IdLayout.isPartitioned_of_canonical_ne
  by_cases kin : store.layout.canonical entry.1 = store.layout.canonical id
  · by_cases canonical : entry.1 = store.layout.canonical id
    · simp [Kin, canonical]
    · have apart : store.layout.canonical entry.1 ≠ entry.1 :=
        fun same => canonical (same.symm.trans kin)
      have apartOther : store.layout.canonical id ≠ entry.1 := kin ▸ apart
      simp [Kin, kin, canonical, partitioned apart, apartOther]
  · simp [Kin, kin]

/-- What is merged for a vertex are the entries of all its siblings, its own
included. -/
theorem kinEntries_perm
    {order : List VertexId}
    (every : order.Perm store.siblings)
    (id : VertexId) :
    ((store.entry? (store.layout.canonical id)).toList ++
      store.siblingEntries order (store.layout.canonical id)).Perm
        (store.kinEntries id) := by
  have own : (store.entries.filter fun entry =>
      decide (entry.1 = store.layout.canonical id) &&
        decide (store.Kin entry.1 id)) =
      store.entries.filter fun entry =>
        entry.1 = store.layout.canonical id := by
    apply List.filter_congr
    intro entry _
    by_cases canonical : entry.1 = store.layout.canonical id
    · simp [Kin, canonical, IdLayout.canonical_canonical]
    · simp [canonical]
  have siblings : (store.siblingEntries order (store.layout.canonical id)).Perm
      (store.siblingEntries store.siblings (store.layout.canonical id)) :=
    (every.filter _).filterMap _
  have parts := List.filter_append_perm
    (fun entry => decide (entry.1 = store.layout.canonical id))
    (store.entries.filter fun entry => store.Kin entry.1 id)
  rw [List.filter_filter, List.filter_filter, own] at parts
  have states := parts.map Prod.snd
  rw [List.map_append, map_snd_filter_entries, ← siblingEntries_siblings] at states
  exact (siblings.append_left _).trans states

end Kin

/-! ## Sums that fit -/

/-- The number that an entry has, and nothing for one without a number. -/
def weight (state : Option UInt64) : Nat := state.elim 0 UInt64.toNat

/-- What the siblings of a vertex add up to. -/
def kinTotal (store : StateStore UInt64) (id : VertexId) : Nat :=
  ((store.kinEntries id).map weight).sum

/-- The entry of a vertex that has what all its siblings have: the sum of their numbers,
unless one of them has none. -/
def united (store : StateStore UInt64) (id : VertexId) :
    Option (Option UInt64) :=
  if store.kinEntries id = [] then none
  else if none ∈ store.kinEntries id then some none
  else some (some (UInt64.ofNat (store.kinTotal id)))

/-- The entries merged are no more than what they came from. -/
theorem exists_mergeEntry_of_fits
    {held : Option (Option UInt64)}
    {state : Option UInt64}
    (fits : (held.toList.map weight).sum + weight state < UInt64.size) :
    ∃ entry, mergeEntry held state = some entry ∧
      weight entry ≤ (held.toList.map weight).sum + weight state := by
  rcases held with _ | _ | held
  · exact ⟨state, rfl, Nat.le_add_left _ _⟩
  · exact ⟨none, rfl, Nat.zero_le _⟩
  · cases state with
    | none => exact ⟨none, rfl, Nat.zero_le _⟩
    | some number =>
        obtain ⟨merges, sum⟩ := Mergeable.merge_of_fits fits
        refine ⟨some (held + number), ?_, sum.le⟩
        rw [mergeEntry, merges]
        rfl

/-- Entries that fit together can be merged. -/
theorem isSome_mergeEntries_of_fits
    {held : Option (Option UInt64)}
    {states : List (Option UInt64)}
    (fits : ((held.toList ++ states).map weight).sum < UInt64.size) :
    (mergeEntries held states).isSome := by
  induction states generalizing held with
  | nil => rfl
  | cons state states hypothesis =>
      rw [List.map_append, List.sum_append, List.map_cons, List.sum_cons,
        ← Nat.add_assoc] at fits
      obtain ⟨entry, merges, bounded⟩ := exists_mergeEntry_of_fits
        (Nat.lt_of_le_of_lt (Nat.le_add_right _ _) fits)
      rw [mergeEntries, merges]
      apply hypothesis
      rw [Option.toList_some, List.singleton_append, List.map_cons,
        List.sum_cons]
      exact Nat.lt_of_le_of_lt (Nat.add_le_add_right bounded _) fits

variable {store after : StateStore UInt64} {order : List VertexId}

/-- What is merged for a vertex adds up to what its siblings do. -/
theorem sum_siblingEntries
    (every : order.Perm store.siblings)
    (id : VertexId) :
    (((store.entry? (store.layout.canonical id)).toList ++
      store.siblingEntries order (store.layout.canonical id)).map weight).sum =
        store.kinTotal id :=
  ((kinEntries_perm every id).map weight).sum_eq

/-- Where the siblings of each vertex fit together, merging gets through. -/
theorem mergesFreely_of_fits
    (fits : ∀ id, store.kinTotal id < UInt64.size) :
    store.MergesFreely := by
  intro order every
  refine through_of_folds every fun sibling _ => ?_
  apply isSome_mergeEntries_of_fits
  rw [sum_siblingEntries every]
  exact fits sibling

namespace Gathers

/-- Where merging gets through, the numbers of siblings fit. -/
theorem fits
    (gathers : store.Gathers true order after)
    {id : VertexId}
    (stated : none ∉ store.kinEntries id) :
    store.kinTotal id < UInt64.size := by
  have entries := kinEntries_perm gathers.every id
  rw [← entries.mem_iff] at stated
  by_contra exceeds
  rw [← sum_siblingEntries gathers.every] at exceeds
  by_cases present : (store.entry? (store.layout.canonical id)).toList ++
      store.siblingEntries order (store.layout.canonical id) = []
  · rw [present] at exceeds
    exact exceeds (by decide)
  · obtain ⟨first, rest, all⟩ := exists_states present stated
    obtain ⟨entry, folds⟩ := gathers.exists_fold (store.layout.canonical id)
    rw [all, List.map_map, List.map_cons, List.sum_cons, Nat.not_lt] at exceeds
    rw [siblingFold, mergeEntries_of_states all,
      mergeAll_of_overflow exceeds] at folds
    cases folds

/-- What the siblings of a vertex come to when they have been merged. -/
theorem gatheredEntry_eq_united
    (gathers : store.Gathers true order after)
    (id : VertexId) :
    store.gatheredEntry true order id = store.united id := by
  have entries := kinEntries_perm gathers.every id
  obtain ⟨entry, folds⟩ := gathers.exists_fold (store.layout.canonical id)
  rw [gatheredEntry, if_pos rfl, folds, Option.join_some, united]
  split
  · next empty =>
    rw [empty, List.perm_nil, List.append_eq_nil_iff, Option.toList_eq_nil_iff]
      at entries
    rw [siblingFold, entries.1, entries.2] at folds
    exact (Option.some.inj folds).symm
  · next present =>
    split
    · next lacking => exact mergeEntries_of_lacking folds (entries.mem_iff.2 lacking)
    · next stated =>
      obtain ⟨first, rest, all⟩ := exists_states present stated
      have numbers : (first :: rest).map UInt64.toNat =
          (store.kinEntries id).map weight := by
        rw [all, List.map_map]
        rfl
      have total : (((first :: rest)).map UInt64.toNat).sum =
          store.kinTotal id := congrArg List.sum numbers
      have merged := siblingFold_of_fits (all ▸ entries) (List.cons_ne_nil _ _)
        (total ▸ gathers.fits stated)
      rw [folds, total] at merged
      exact Option.some.inj merged

end Gathers
end StateStore
end GraphSweep
