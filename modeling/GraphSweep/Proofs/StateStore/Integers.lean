import GraphSweep.Mergeable
import Mathlib.Algebra.BigOperators.Group.List.Basic
import Mathlib.Algebra.Order.Group.Int
import Mathlib.Data.Int.ConditionallyCompleteOrder
import Mathlib.Data.Set.Image
import Mathlib.Order.ConditionallyCompleteLattice.Basic
import Mathlib.Order.Interval.Set.Basic

/-!
# Integers as states

Integers are merged by adding them up, where the type has the sum. So when many are
merged one after another it is not enough that the type has the sum of them all: it has
to have the sum of the first two of them, of the first three, and so on. Then, and only
then, merging gets through, and leaves the exact sum.
-/

namespace GraphSweep

/-- States that stand for the numbers of a range, and have a merge exactly if the sum of
their numbers is in the range. -/
structure Mergeable.AddsUp
    {σ : Type}
    [Mergeable σ]
    (number : σ -> Int)
    (least greatest : Int) : Prop where
  /-- All numbers of the range have a state. -/
  range : Set.range number = Set.Icc least greatest
  zero : (0 : Int) ∈ Set.Icc least greatest
  merge : ∀ left right sum, Mergeable.merge left right = some sum ↔
    number sum = number left + number right

/-! ## Merging one after another -/

/-- The sums of the first of some numbers stay in a set when the first two are added up
beforehand, and they do so only then. -/
theorem prefixSums_add
    {numbers : Set Int}
    {first second : Int}
    {rest : List Int}
    (zero : (0 : Int) ∈ numbers)
    (single : first ∈ numbers) :
    (∀ taken, taken <+: first :: second :: rest -> taken.sum ∈ numbers) ↔
      ∀ taken, taken <+: (first + second) :: rest -> taken.sum ∈ numbers := by
  constructor
  · intro fits taken before
    rcases List.prefix_cons_iff.1 before with rfl | ⟨others, rfl, behind⟩
    · exact zero
    · have sum := fits (first :: second :: others)
        (List.cons_prefix_cons.2 ⟨rfl, List.cons_prefix_cons.2 ⟨rfl, behind⟩⟩)
      rwa [List.sum_cons, List.sum_cons, ← Int.add_assoc] at sum
  · intro fits taken before
    rcases List.prefix_cons_iff.1 before with rfl | ⟨others, rfl, behind⟩
    · exact zero
    · rcases List.prefix_cons_iff.1 behind with rfl | ⟨further, rfl, last⟩
      · simpa using single
      · have sum := fits ((first + second) :: further)
          (List.cons_prefix_cons.2 ⟨rfl, last⟩)
        rwa [List.sum_cons, Int.add_assoc] at sum

namespace Mergeable.AddsUp

section Folds

variable
  {σ : Type}
  [Mergeable σ]
  {number : σ -> Int}
  {least greatest : Int}
  (adds : AddsUp number least greatest)
  {start sum : σ}
  {states : List σ}

include adds

theorem number_mem (state : σ) : number state ∈ Set.Icc least greatest :=
  adds.range ▸ Set.mem_range_self state

/-- Two states have a merge exactly if the sum of their numbers is in the range. -/
theorem isSome_merge_iff (left right : σ) :
    (Mergeable.merge left right).isSome = true ↔
      number left + number right ∈ Set.Icc least greatest := by
  rw [Option.isSome_iff_exists, ← adds.range]
  exact exists_congr fun sum => adds.merge left right sum

/-- Merging states one after another gets through exactly if the numbers of the first of
them add up to one of the range, however many are taken. -/
theorem isSome_mergeAll_iff :
    (mergeAll start states).isSome = true ↔
      ∀ taken, taken <+: (start :: states).map number ->
        taken.sum ∈ Set.Icc least greatest := by
  induction states generalizing start with
  | nil =>
      refine iff_of_true rfl fun taken before => ?_
      rcases List.prefix_cons_iff.1 before with rfl | ⟨others, rfl, behind⟩
      · exact adds.zero
      · rw [List.prefix_nil.1 behind, List.sum_singleton]
        exact adds.number_mem start
  | cons state states hypothesis =>
      rw [List.map_cons, List.map_cons,
        prefixSums_add adds.zero (adds.number_mem start), mergeAll]
      cases merges : Mergeable.merge start state with
      | some sum =>
          rw [← (adds.merge start state sum).1 merges, ← List.map_cons]
          exact hypothesis
      | none =>
          refine iff_of_false Bool.false_ne_true fun fits => ?_
          have first := fits [number start + number state]
            (List.cons_prefix_cons.2 ⟨rfl, List.nil_prefix⟩)
          rw [List.sum_singleton, ← adds.isSome_merge_iff, merges] at first
          cases first

/-- Where merging gets through, it leaves the exact sum. -/
theorem number_of_mergeAll (merges : mergeAll start states = some sum) :
    number sum = ((start :: states).map number).sum := by
  induction states generalizing start with
  | nil =>
      cases merges
      rw [List.map_singleton, List.sum_singleton]
  | cons state states hypothesis =>
      obtain ⟨middle, first, later⟩ := Option.bind_eq_some_iff.1 merges
      rw [hypothesis later, List.map_cons, List.map_cons, List.map_cons,
        List.sum_cons, List.sum_cons, List.sum_cons,
        (adds.merge start state middle).1 first, Int.add_assoc]

end Folds

/-- States that are added wherever their numbers have a sum in the range add up, if
adding is exact there. -/
theorem of_checked
    {σ : Type}
    [Mergeable σ]
    [Add σ]
    {number : σ -> Int}
    {least greatest : Int}
    (injective : Function.Injective number)
    (range : Set.range number = Set.Icc least greatest)
    (zero : (0 : Int) ∈ Set.Icc least greatest)
    (checked : ∀ left right : σ,
      number left + number right ∈ Set.Icc least greatest ->
        Mergeable.merge left right = some (left + right) ∧
          number (left + right) = number left + number right)
    (refused : ∀ left right : σ,
      number left + number right ∉ Set.Icc least greatest ->
        Mergeable.merge left right = none) :
    AddsUp number least greatest := by
  refine ⟨range, zero, fun left right sum => ?_⟩
  by_cases fits : number left + number right ∈ Set.Icc least greatest
  · obtain ⟨merges, exact⟩ := checked left right fits
    rw [merges, Option.some.injEq, ← exact, injective.eq_iff, eq_comm]
  · rw [refused left right fits]
    refine iff_of_false nofun fun same => fits ?_
    rw [← same, ← range]
    exact Set.mem_range_self sum

end Mergeable.AddsUp

/-! ## The types of integers -/

/-- The types of integers that states may be of. -/
inductive IntegerType
  | uint32
  | uint64
  | usize
  | int32
  | int64
  deriving DecidableEq

namespace IntegerType

/-- The states of a type. -/
def State : IntegerType -> Type
  | uint32 => UInt32
  | uint64 => UInt64
  | usize => USize
  | int32 => Int32
  | int64 => Int64

instance : (type : IntegerType) -> Mergeable type.State
  | uint32 => inferInstanceAs (Mergeable UInt32)
  | uint64 => inferInstanceAs (Mergeable UInt64)
  | usize => inferInstanceAs (Mergeable USize)
  | int32 => inferInstanceAs (Mergeable Int32)
  | int64 => inferInstanceAs (Mergeable Int64)

/-- The number that a state stands for. -/
def number : (type : IntegerType) -> type.State -> Int
  | uint32 => fun state => UInt32.toNat state
  | uint64 => fun state => UInt64.toNat state
  | usize => fun state => USize.toNat state
  | int32 => Int32.toInt
  | int64 => Int64.toInt

/-- The least number of a type. -/
def least : IntegerType -> Int
  | uint32 | uint64 | usize => 0
  | int32 => Int32.minValue.toInt
  | int64 => Int64.minValue.toInt

/-- The greatest number of a type. -/
def greatest : IntegerType -> Int
  | uint32 => UInt32.size - 1
  | uint64 => UInt64.size - 1
  | usize => USize.size - 1
  | int32 => Int32.maxValue.toInt
  | int64 => Int64.maxValue.toInt

/-- The numbers of a type. -/
def range (type : IntegerType) : Set Int := Set.Icc type.least type.greatest

open Mergeable (AddsUp)

/-- Numbers without a sign, where adding starts over at the size of the type. -/
theorem addsUp_of_unsigned
    {σ : Type}
    [Mergeable σ]
    [Add σ]
    {toNat : σ -> Nat}
    {ofNat : Nat -> σ}
    {size : Nat}
    (positive : 0 < size)
    (injective : Function.Injective toNat)
    (bound : ∀ state, toNat state < size)
    (toNat_ofNat : ∀ value, value < size -> toNat (ofNat value) = value)
    (merge : ∀ left right, Mergeable.merge left right =
      if toNat left + toNat right < size then some (left + right) else none)
    (add : ∀ left right, toNat (left + right) =
      (toNat left + toNat right) % size) :
    AddsUp (fun state => (toNat state : Int)) 0 (size - 1) := by
  have fits (value : Nat) : (value : Int) ∈ Set.Icc (0 : Int) (size - 1) ↔
      value < size := by
    rw [Set.mem_Icc]
    omega
  apply AddsUp.of_checked
  · exact fun one other same => injective (Int.ofNat.inj same)
  · ext value
    constructor
    · rintro ⟨state, rfl⟩
      exact (fits _).2 (bound state)
    · intro inside
      obtain ⟨natural, rfl⟩ := Int.eq_ofNat_of_zero_le inside.1
      exact ⟨ofNat natural,
        congrArg Int.ofNat (toNat_ofNat natural ((fits natural).1 inside))⟩
  · exact (fits 0).2 positive
  · intro left right inside
    rw [← Int.natCast_add, fits] at inside
    rw [merge, if_pos inside, add, Nat.mod_eq_of_lt inside, Int.natCast_add]
    exact ⟨rfl, rfl⟩
  · intro left right outside
    rw [← Int.natCast_add, fits] at outside
    rw [merge, if_neg outside]

/-- Numbers with a sign, where adding goes around in a circle that is twice as large as
the type reaches in either direction. -/
theorem addsUp_of_signed
    {σ : Type}
    [Mergeable σ]
    [Add σ]
    {toInt : σ -> Int}
    {ofInt : Int -> σ}
    {least greatest : Int}
    {size : Nat}
    (zero : least ≤ 0 ∧ 0 ≤ greatest)
    (within : -(size : Int) ≤ least * 2 ∧ greatest * 2 < size)
    (injective : Function.Injective toInt)
    (bound : ∀ state, least ≤ toInt state ∧ toInt state ≤ greatest)
    (toInt_ofInt : ∀ value, least ≤ value -> value ≤ greatest ->
      toInt (ofInt value) = value)
    (merge : ∀ left right, Mergeable.merge left right =
      if least ≤ toInt left + toInt right ∧
          toInt left + toInt right ≤ greatest then some (left + right)
      else none)
    (add : ∀ left right, toInt (left + right) =
      (toInt left + toInt right).bmod size) :
    AddsUp toInt least greatest := by
  apply AddsUp.of_checked
  · exact injective
  · ext value
    constructor
    · rintro ⟨state, rfl⟩
      exact bound state
    · rintro ⟨low, high⟩
      exact ⟨ofInt value, toInt_ofInt value low high⟩
  · exact zero
  · intro left right inside
    rw [Set.mem_Icc] at inside
    have low : -(size : Int) ≤ (toInt left + toInt right) * 2 := by omega
    have high : (toInt left + toInt right) * 2 < size := by omega
    rw [merge, if_pos inside, add, Int.bmod_eq_of_le_mul_two low high]
    exact ⟨rfl, rfl⟩
  · intro left right outside
    rw [Set.mem_Icc] at outside
    rw [merge, if_neg outside]

/-- Merging adds up the numbers of every type. -/
theorem addsUp (type : IntegerType) :
    AddsUp type.number type.least type.greatest := by
  cases type with
  | uint32 =>
      exact @addsUp_of_unsigned UInt32 _ _ UInt32.toNat UInt32.ofNat UInt32.size
        (by decide) (fun _ _ => UInt32.toNat_inj.1) UInt32.toNat_lt_size
        (fun _ => UInt32.toNat_ofNat_of_lt') (fun _ _ => rfl) UInt32.toNat_add
  | uint64 =>
      exact @addsUp_of_unsigned UInt64 _ _ UInt64.toNat UInt64.ofNat UInt64.size
        (by decide) (fun _ _ => UInt64.toNat_inj.1) UInt64.toNat_lt_size
        (fun _ => UInt64.toNat_ofNat_of_lt') (fun _ _ => rfl) UInt64.toNat_add
  | usize =>
      exact @addsUp_of_unsigned USize _ _ USize.toNat USize.ofNat USize.size
        USize.size_pos (fun _ _ => USize.toNat_inj.1) USize.toNat_lt_size
        (fun _ => USize.toNat_ofNat_of_lt') (fun _ _ => rfl) USize.toNat_add
  | int32 =>
      refine @addsUp_of_signed Int32 _ _ Int32.toInt Int32.ofInt _ _ (2 ^ 32)
        (by decide) (by decide) (fun _ _ => Int32.toInt_inj.1)
        (fun state => ⟨state.minValue_le_toInt, state.toInt_le⟩) ?_
        (fun _ _ => rfl) Int32.toInt_add
      intro value low high
      rw [least, Int32.toInt_minValue] at low
      rw [greatest, Int32.toInt_maxValue] at high
      exact Int32.toInt_ofInt_of_le low (Int.lt_of_le_sub_one high)
  | int64 =>
      refine @addsUp_of_signed Int64 _ _ Int64.toInt Int64.ofInt _ _ (2 ^ 64)
        (by decide) (by decide) (fun _ _ => Int64.toInt_inj.1)
        (fun state => ⟨state.minValue_le_toInt, state.toInt_le⟩) ?_
        (fun _ _ => rfl) Int64.toInt_add
      intro value low high
      rw [least, Int64.toInt_minValue] at low
      rw [greatest, Int64.toInt_maxValue] at high
      exact Int64.toInt_ofInt_of_le low (Int.lt_of_le_sub_one high)

end IntegerType
end GraphSweep
