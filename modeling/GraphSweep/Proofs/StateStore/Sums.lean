import GraphSweep.Proofs.StateStore.MergeLaw
import Mathlib.Algebra.Order.BigOperators.Group.Finset
import Mathlib.Algebra.Order.Ring.Nat

/-!
# Sums of states

Numbers are merged by adding them up. So what the siblings of a vertex come to is the
sum of their numbers, in whatever order they are merged, as long as it fits in a word.
-/

namespace GraphSweep

/-- Two numbers are merged into their sum where it fits. -/
theorem Mergeable.merge_of_fits
    {left right : UInt64}
    (fits : left.toNat + right.toNat < UInt64.size) :
    Mergeable.merge left right = some (left + right) ∧
      (left + right).toNat = left.toNat + right.toNat := by
  refine ⟨if_pos fits, ?_⟩
  rw [UInt64.toNat_add]
  exact Nat.mod_eq_of_lt fits

/-- Numbers are summed up where the sum fits. -/
theorem mergeAll_of_fits
    {start : UInt64}
    {numbers : List UInt64}
    (fits : start.toNat + (numbers.map UInt64.toNat).sum < UInt64.size) :
    ∃ sum, mergeAll start numbers = some sum ∧
      sum.toNat = start.toNat + (numbers.map UInt64.toNat).sum := by
  induction numbers generalizing start with
  | nil => exact ⟨start, rfl, rfl⟩
  | cons number numbers hypothesis =>
      rw [List.map_cons, List.sum_cons, ← Nat.add_assoc] at fits ⊢
      have first : start.toNat + number.toNat < UInt64.size :=
        Nat.lt_of_le_of_lt (Nat.le_add_right _ _) fits
      obtain ⟨merges, sum⟩ := Mergeable.merge_of_fits first
      rw [← sum] at fits ⊢
      obtain ⟨all, answer, total⟩ := hypothesis fits
      refine ⟨all, ?_, total⟩
      rw [mergeAll, merges]
      exact answer

namespace StateStore

/-- The siblings of a vertex come to the sum of their numbers, its own included. -/
theorem siblingFold_of_fits
    {store : StateStore UInt64}
    {order : List VertexId}
    {id : VertexId}
    {numbers : List UInt64}
    (entries : ((store.entry? id).toList ++
      store.siblingEntries order id).Perm (numbers.map some))
    (filled : numbers ≠ [])
    (fits : (numbers.map UInt64.toNat).sum < UInt64.size) :
    store.siblingFold order id =
      some (some (some (UInt64.ofNat (numbers.map UInt64.toNat).sum))) := by
  have present : (store.entry? id).toList ++ store.siblingEntries order id ≠
      [] := by
    intro empty
    rw [empty, List.nil_perm, List.map_eq_nil_iff] at entries
    exact filled entries
  have stated : none ∉
      (store.entry? id).toList ++ store.siblingEntries order id := by
    rw [entries.mem_iff, List.mem_map]
    rintro ⟨number, -, lacking⟩
    cases lacking
  obtain ⟨first, rest, all⟩ := exists_states present stated
  rw [all, List.map_perm_map_iff (Option.some_injective UInt64)] at entries
  have added := (entries.map UInt64.toNat).sum_eq
  rw [List.map_cons, List.sum_cons] at added
  obtain ⟨united, answer, total⟩ := mergeAll_of_fits (added ▸ fits)
  rw [siblingFold, mergeEntries_of_states all, answer, Option.map_some, ← added,
    ← total, UInt64.ofNat_toNat]

end StateStore
end GraphSweep
