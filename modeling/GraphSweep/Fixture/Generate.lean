import GraphSweep.Fixture.Basic
import GraphSweep.Random.Uniform

/-!
# Random fixtures

A random fixture has plain vertices numbered from one, and the same number of
edges from each of them to random others.
-/

namespace GraphSweep

namespace Fixture

section Draws

variable {R : Type} (sampler : Sampler R)

/-- Draw the other end of an edge, which is never the vertex itself. -/
def drawTarget (vertices source : UInt64) (random : R) : UInt64 × R :=
  let (drawn, next) := sampler.draw random vertices
  (if drawn = source then drawn % vertices + 1 else drawn, next)

/-- Draw edges from a vertex. -/
def drawEdges (vertices source : UInt64) :
    Nat -> R -> List FixtureEdge × R
  | 0, random => ([], random)
  | count + 1, random =>
      let (target, next) := drawTarget sampler vertices source random
      let (edges, last) := drawEdges vertices source count next
      (⟨source, target, 0⟩ :: edges, last)

/-- Draw edges from each of some vertices. -/
def drawAll (vertices : UInt64) (degree : Nat) :
    List UInt64 -> R -> List FixtureEdge
  | [], _ => []
  | source :: sources, random =>
      let (edges, next) := drawEdges sampler vertices source degree random
      edges ++ drawAll vertices degree sources next

end Draws

/-- The numbers from one up to a bound. -/
def numbering (count : UInt64) : List UInt64 :=
  (List.range count.toNat).map fun index => UInt64.ofNat (index + 1)

/-- A fixture of some vertices with some edges from each, drawn by a sampler. -/
def generateWith
    {R : Type}
    (sampler : Sampler R)
    (vertices : UInt64)
    (degree : UInt32)
    (seed : UInt64) : Fixture where
  partitionWidth := IdLayout.standardBits
  vertices := (numbering vertices).map FixtureVertex.plain
  edges :=
    if 1 < vertices then
      drawAll sampler vertices degree.toNat (numbering vertices)
        (sampler.ofSeed seed)
    else []

/-- A random fixture of some vertices with some edges from each. -/
def generate (vertices : UInt64) (degree : UInt32) (seed : UInt64) : Fixture :=
  generateWith RandomSource.sampler vertices degree seed

end Fixture
end GraphSweep
