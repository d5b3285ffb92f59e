/-!
# Mergeable states

What a job computes for a vertex. The states of the siblings of a partitioned
vertex are merged into one; merging integers adds them and has no answer when the
sum does not fit, merging lists appends them.
-/

namespace GraphSweep

/-- States that can be merged, though some merges may have no answer. -/
class Mergeable (σ : Type) where
  /-- The state of the first merged with the second. -/
  merge : σ -> σ -> Option σ

instance : Mergeable UInt32 where
  merge left right :=
    if left.toNat + right.toNat < UInt32.size then some (left + right) else none

instance : Mergeable UInt64 where
  merge left right :=
    if left.toNat + right.toNat < UInt64.size then some (left + right) else none

instance : Mergeable USize where
  merge left right :=
    if left.toNat + right.toNat < USize.size then some (left + right) else none

instance : Mergeable Int32 where
  merge left right :=
    if Int32.minValue.toInt ≤ left.toInt + right.toInt ∧
        left.toInt + right.toInt ≤ Int32.maxValue.toInt then
      some (left + right)
    else none

instance : Mergeable Int64 where
  merge left right :=
    if Int64.minValue.toInt ≤ left.toInt + right.toInt ∧
        left.toInt + right.toInt ≤ Int64.maxValue.toInt then
      some (left + right)
    else none

instance : Mergeable Float32 where
  merge left right := some (left + right)

instance : Mergeable Float where
  merge left right := some (left + right)

instance {α : Type} : Mergeable (List α) where
  merge left right := some (left ++ right)

/-- Fold states into one, as far as merging has answers. -/
def mergeAll {σ : Type} [Mergeable σ] (start : σ) : List σ -> Option σ
  | [] => some start
  | state :: states => do mergeAll (<- Mergeable.merge start state) states

end GraphSweep
