import GraphSweep.StateStore
import GraphSweep.View

/-!
# Vertex programs

A program is run once for every live vertex. It sees the view of the vertex and
the vertex's own state, which it may replace, and it either completes, fails or
crashes. Failing and crashing invalidate the vertex and nothing else.
-/

namespace GraphSweep

/-- What the initializer of a job does when it is asked for a state. -/
inductive Initializer (σ : Type)
  | state (initial : σ)
  | crash

/-- The own state of a vertex as a program finds it. -/
structure OwnState (σ : Type) where
  /-- The state held for the vertex, if there is one. -/
  held : Option σ
  /-- What a vertex without a state gets. -/
  initializer : Initializer σ

/-- How a program leaves a vertex. -/
inductive Ending
  | completed
  | failed
  | crashed
  deriving DecidableEq

/-- What a run of a program for one vertex does. -/
structure Visit (σ ρ : Type) where
  /-- The states written, the last one first, and how many milliseconds after the
  start each was. -/
  writes : List (Nat × σ)
  /-- What the program wrote down about the vertex. -/
  notes : List ρ
  ending : Ending
  /-- How long the run sleeps, in milliseconds. -/
  millis : Nat

/-- What is done for every live vertex. -/
abbrev Program (σ ρ : Type) := View -> OwnState σ -> Visit σ ρ

namespace OwnState

variable {σ : Type}

/-- The state that the vertex has or gets, unless the initializer crashes. -/
def current? (own : OwnState σ) : Option σ :=
  match own.held, own.initializer with
  | some state, _ => some state
  | none, .state initial => some initial
  | none, .crash => none

end OwnState

namespace Visit

variable {σ ρ : Type}

/-- A completed run that does nothing. -/
def idle : Visit σ ρ := ⟨[], [], .completed, 0⟩

/-- A completed run that only writes a state. -/
def write (state : σ) : Visit σ ρ := ⟨[(0, state)], [], .completed, 0⟩

/-- A run that fails before it writes anything. -/
def fail : Visit σ ρ := ⟨[], [], .failed, 0⟩

/-- A run that crashes before it writes anything. -/
def crash : Visit σ ρ := ⟨[], [], .crashed, 0⟩

/-- The last state written, if one was. -/
def written (visit : Visit σ ρ) : Option σ := visit.writes.head?.map Prod.snd

/-- The last state written some milliseconds after the start. -/
def writtenBy (visit : Visit σ ρ) (elapsed : Nat) : Option σ :=
  (visit.writes.find? fun write => write.1 ≤ elapsed).map Prod.snd

/-- The run with one more state written. -/
def put (visit : Visit σ ρ) (state : σ) : Visit σ ρ :=
  { visit with writes := (visit.millis, state) :: visit.writes }

end Visit

namespace StateStore

variable {σ ρ : Type}

/-- The own state of a vertex as a program finds it. -/
def own
    (store : StateStore σ)
    (initializer : Initializer σ)
    (id : VertexId) : OwnState σ :=
  ⟨store.own? id, initializer⟩

/-- The store after a run of a program for a vertex. -/
def settle
    (store : StateStore σ)
    (id : VertexId)
    (visit : Visit σ ρ) : StateStore σ :=
  match visit.ending, visit.written with
  | .completed, some state => store.set id state
  | .completed, none => store
  | _, _ => store.invalidate id

/-- The store after a run that may have been broken off some milliseconds after
its start. -/
def settleBy
    (store : StateStore σ)
    (id : VertexId)
    (visit : Visit σ ρ)
    (elapsed : Nat) : StateStore σ :=
  if visit.millis ≤ elapsed then store.settle id visit
  else
    match visit.writtenBy elapsed with
    | some state => store.set id state
    | none => store

end StateStore
end GraphSweep
