import GraphSweep.Join

/-!
# What a job has noted

What a join notes down of the vertices that it meets, and what the runs of the program
have come to so far.
-/

namespace GraphSweep

/-- What a join has noted down, the program apart. -/
structure Account where
  /-- The last vertex that the first stream named. -/
  last : Option VertexId
  /-- The counts; runs that fail or are made by the join itself do not count. -/
  tally : Tally
  /-- The views dispatched so far, in order. -/
  views : List View

namespace Account

/-- Nothing noted. -/
def blank : Account := ⟨none, .zero, []⟩

/-- Whether the first stream has named a vertex at or after this one before. -/
def isPast (account : Account) (id : VertexId) : Bool :=
  match account.last with
  | none => false
  | some last => id ≤ last

/-- Note a vertex that comes out of order. -/
def skip (account : Account) : Account :=
  { account with
    tally := { account.tally with
      disordered := account.tally.disordered + 1 } }

/-- Note the vertex that the first stream names. -/
def meet (account : Account) (id : VertexId) : Account :=
  { account with last := some id }

/-- Note some items that no vertex claims. -/
def drop (account : Account) (count : Nat) : Account :=
  { account with
    tally := { account.tally with
      orphans := account.tally.orphans + count } }

/-- Note a vertex that does not exist any more. -/
def delete (account : Account) : Account :=
  { account with
    tally := { account.tally with
      deleted := account.tally.deleted + 1 } }

/-- Note a vertex that is handed to the program. -/
def dispatch (account : Account) (view : View) : Account where
  last := account.last
  tally := { account.tally with
    dispatched := account.tally.dispatched + 1
    sawPartitioned := account.tally.sawPartitioned || view.isPartitioned }
  views := account.views ++ [view]

/-- Note a vertex that exists or does not any more. -/
def settle (account : Account) (live : Bool) (view : View) : Account :=
  if live then account.dispatch view else account.delete

end Account

/-- What the runs of a program have come to so far. -/
structure Effects (σ ρ : Type) where
  store : StateStore σ
  /-- Number of runs that did not complete. -/
  failed : Nat
  visited : List (Visited σ ρ)

namespace Effects

variable {σ ρ : Type}

/-- The run of the program for a vertex. -/
def visitOf
    (sweep : Sweep σ ρ)
    (effects : Effects σ ρ)
    (view : View) : Visit σ ρ :=
  sweep.program view (effects.store.own sweep.initializer view.id)

/-- Note a run that begins. -/
def note (effects : Effects σ ρ) (visited : Visited σ ρ) : Effects σ ρ :=
  { effects with visited := effects.visited ++ [visited] }

/-- Write a state. -/
def write (effects : Effects σ ρ) (id : VertexId) (state : σ) : Effects σ ρ :=
  { effects with store := effects.store.set id state }

/-- End a run: a vertex whose run did not complete loses its state. -/
def finish (effects : Effects σ ρ) (visited : Visited σ ρ) : Effects σ ρ :=
  if visited.visit.ending = .completed then effects
  else
    { effects with
      store := effects.store.invalidate visited.view.id
      failed := effects.failed + 1 }

end Effects
end GraphSweep
