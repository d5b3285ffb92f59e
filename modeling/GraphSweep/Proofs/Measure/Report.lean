import GraphSweep.Measure
import GraphSweep.Proofs.StateStore.MergeLaw
import Mathlib.Data.List.Induction

/-!
# Reported states

A report lists states by logical ids, in ascending order and each id once. Where no two
entries of a store are of one vertex, it lists exactly the entries of the store.
-/

namespace GraphSweep
namespace Measure

/-- Values by logical id whose ids ascend. -/
def Ascending (values : List (UInt64 × Option UInt64)) : Prop :=
  values.Pairwise fun one other => one.1 < other.1

variable
  {id : UInt64}
  {value : Option UInt64}
  {values : List (UInt64 × Option UInt64)}
  {entry : UInt64 × Option UInt64}

/-- A value that is put among others takes the place of the one under its id. -/
theorem mem_putValue (ascending : Ascending values) :
    entry ∈ putValue id value values ↔
      entry = (id, value) ∨ (entry ∈ values ∧ entry.1 ≠ id) := by
  induction values with
  | nil => simp [putValue]
  | cons head rest hypothesis =>
      obtain ⟨first, held⟩ := head
      obtain ⟨earlier, ascendingRest⟩ := List.pairwise_cons.1 ascending
      rw [putValue]
      split
      · next below =>
        have apart (other : UInt64 × Option UInt64)
            (member : other ∈ (first, held) :: rest) : other.1 ≠ id := by
          rcases List.mem_cons.1 member with rfl | later
          · exact (UInt64.ne_of_lt below).symm
          · exact (UInt64.ne_of_lt
              (UInt64.lt_trans below (earlier other later))).symm
        rw [List.mem_cons]
        exact or_congr_right (iff_self_and.2 (apart entry))
      · split
        · next same =>
          subst same
          have apart (member : entry ∈ rest) : entry.1 ≠ first :=
            (UInt64.ne_of_lt (earlier entry member)).symm
          rw [List.mem_cons, List.mem_cons]
          refine or_congr_right ⟨fun member => ⟨Or.inr member, apart member⟩, ?_⟩
          rintro ⟨rfl | member, different⟩
          · exact absurd rfl different
          · exact member
        · next different =>
          rw [List.mem_cons, List.mem_cons, hypothesis ascendingRest]
          constructor
          · rintro (rfl | here | ⟨member, apart⟩)
            · exact Or.inr ⟨Or.inl rfl, different⟩
            · exact Or.inl here
            · exact Or.inr ⟨Or.inr member, apart⟩
          · rintro (here | ⟨rfl | member, apart⟩)
            · exact Or.inr (Or.inl here)
            · exact Or.inl rfl
            · exact Or.inr (Or.inr ⟨member, apart⟩)

/-- A value is put where its id belongs. -/
theorem ascending_putValue (ascending : Ascending values) :
    Ascending (putValue id value values) := by
  induction values with
  | nil => exact List.pairwise_singleton _ _
  | cons head rest hypothesis =>
      obtain ⟨first, held⟩ := head
      obtain ⟨earlier, ascendingRest⟩ := List.pairwise_cons.1 ascending
      rw [putValue]
      split
      · next below =>
        refine List.pairwise_cons.2 ⟨fun other member => ?_, ascending⟩
        rcases List.mem_cons.1 member with rfl | later
        · exact below
        · exact UInt64.lt_trans below (earlier other later)
      · next above =>
        split
        · next same =>
          subst same
          exact List.pairwise_cons.2 ⟨earlier, ascendingRest⟩
        · next different =>
          refine List.pairwise_cons.2 ⟨fun other member => ?_,
            hypothesis ascendingRest⟩
          rcases (mem_putValue ascendingRest).1 member with
            rfl | ⟨later, -⟩
          · exact UInt64.lt_of_le_of_ne (UInt64.not_lt.1 above) different
          · exact earlier other later

/-- A report lists the entries of a store, if no two of them are of one vertex. -/
theorem byVertex_eq
    {graph : StoredGraph}
    {store : StateStore UInt64}
    (apart : ∀ one ∈ store.entries.map Prod.fst,
      ∀ other ∈ store.entries.map Prod.fst,
        graph.vertexOf one = graph.vertexOf other -> one = other) :
    Ascending (byVertex graph store) ∧
      ∀ id value, (id, value) ∈ byVertex graph store ↔
        ∃ place, graph.vertexOf place = id ∧ store.entry? place = some value := by
  have distinct := List.Nodup.map_on apart store.distinct
  have listed (entries : List (VertexId × Option UInt64))
      (distinct : ((entries.map Prod.fst).map graph.vertexOf).Nodup) :
      let values := entries.foldl (fun values entry =>
        putValue (graph.vertexOf entry.1) entry.2 values) []
      Ascending values ∧ ∀ id value, (id, value) ∈ values ↔
        ∃ place, graph.vertexOf place = id ∧ (place, value) ∈ entries := by
    induction entries using List.reverseRecOn with
    | nil => exact ⟨List.Pairwise.nil, by simp⟩
    | append_singleton entries entry hypothesis =>
        rw [List.map_append, List.map_append, List.nodup_append] at distinct
        obtain ⟨distinctEntries, -, fresh⟩ := distinct
        obtain ⟨ascending, members⟩ := hypothesis distinctEntries
        intro values
        have last : values = putValue (graph.vertexOf entry.1) entry.2
            (entries.foldl (fun values entry =>
              putValue (graph.vertexOf entry.1) entry.2 values) []) := by
          simp only [values, List.foldl_append, List.foldl_cons, List.foldl_nil]
        rw [last]
        refine ⟨ascending_putValue ascending, fun id value => ?_⟩
        rw [mem_putValue ascending, members]
        constructor
        · rintro (same | ⟨⟨place, rfl, member⟩, -⟩)
          · obtain ⟨rfl, rfl⟩ := Prod.mk.inj same
            exact ⟨entry.1, rfl,
              List.mem_append_right _ (List.mem_singleton_self _)⟩
          · exact ⟨place, rfl, List.mem_append_left _ member⟩
        · rintro ⟨place, rfl, member⟩
          rcases List.mem_append.1 member with before | here
          · refine Or.inr ⟨⟨place, rfl, before⟩, ?_⟩
            exact fresh _ (List.mem_map_of_mem (List.mem_map_of_mem before)) _
              (List.mem_singleton_self _)
          · rw [← List.mem_singleton.1 here]
            exact Or.inl rfl
  obtain ⟨ascending, members⟩ := listed store.entries distinct
  refine ⟨ascending, fun id value => (members id value).trans ?_⟩
  simp only [StateStore.mem_entries]

end Measure
end GraphSweep
