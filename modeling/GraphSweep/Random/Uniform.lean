import GraphSweep.Random.ChaCha

/-!
# Uniform draws

A sampler draws numbers from one up to a bound. The sampler of the ChaCha source
multiplies a random word by the bound and takes the upper half of the product.
Words whose lower half is beyond the last full multiple of the bound are drawn
again, so that all numbers are equally likely.
-/

namespace GraphSweep

/-- A way to draw numbers, whatever it is that they come from. -/
structure Sampler (R : Type) where
  /-- Where the draws of a seed begin. -/
  ofSeed : UInt64 -> R
  /-- Draw a number from one up to a bound, and tell where the next draw begins. -/
  draw : R -> UInt64 -> UInt64 × R

/-- Every draw from one up to a bound lies there, if anything does. -/
def Sampler.Bounded {R : Type} (sampler : Sampler R) : Prop :=
  ∀ (random : R) (bound : UInt64), 0 < bound.toNat ->
    1 ≤ (sampler.draw random bound).1.toNat ∧
      (sampler.draw random bound).1.toNat ≤ bound.toNat

namespace RandomSource

/-- The largest lower half that is not drawn again. -/
def zone (bound : UInt64) : UInt64 :=
  UInt64.ofNat (bound.toNat <<< (63 - Nat.log2 bound.toNat)) - 1

/-- Draw up to some times; one is the answer when every draw was refused. -/
def drawWithin (bound : UInt64) :
    Nat -> RandomSource -> UInt64 × RandomSource
  | 0, source => (1, source)
  | tries + 1, source =>
      let (word, next) := source.next
      let product := word.toNat * bound.toNat
      if product % UInt64.size ≤ (zone bound).toNat then
        (UInt64.ofNat (product / UInt64.size + 1), next)
      else drawWithin bound tries next

/-- Draw a number from one up to a bound. Every draw is accepted with a chance of
more than one half, so a thousand tries do not run out. -/
def draw (source : RandomSource) (bound : UInt64) : UInt64 × RandomSource :=
  drawWithin bound 1000 source

/-- The sampler that fixtures are drawn with. -/
def sampler : Sampler RandomSource := ⟨ofSeed, draw⟩

end RandomSource
end GraphSweep
