import GraphSweep.Program

/-!
# Scripted programs

A scripted program is a list of instructions that read the view of a vertex or
its state, write the state, or end the run. What an instruction reads it notes
down.
-/

namespace GraphSweep

/-- What a scripted program notes down. -/
inductive Note (σ : Type)
  | view (kind : IdKind) (partitioned : Bool) (text : String)
  | queries (texts : List String)
  | flag (value : Bool)
  | entries (entries : List Entry)
  | relations (relations : List Relation)
  | neighbors (ids : List VertexId)
  | property (value : Option Bytes)
  | state (value : σ)
  | fault (error : StorageError)

/-- What an instruction does. -/
inductive Action (σ : Type)
  | noteView
  | noteQueries
  | noteHas (query : Slice)
  | noteEntries (query : Slice)
  | noteRelations (query : Slice)
  | noteNeighbors (query : Slice)
  | noteProperty (type : UInt64)
  | noteState
  | write (value : σ)
  | writeDegree (query : Slice) (ofCount : Nat -> σ)
  | merge (value : σ)
  | fail
  | crash
  | sleep (millis : Nat)

/-- An action, for some vertices only or for all. -/
structure Instruction (σ : Type) where
  action : Action σ
  /-- The vertices that the instruction is for, if not for all. -/
  only : Option (List VertexId)
  /-- Whether the run goes on after a storage error. -/
  keep : Bool

namespace Visit

variable {σ : Type}

/-- Note something down. -/
def note (visit : Visit σ (Note σ)) (note : Note σ) : Visit σ (Note σ) :=
  { visit with notes := visit.notes ++ [note] }

/-- End the run. -/
def finish (visit : Visit σ (Note σ)) (ending : Ending) : Visit σ (Note σ) :=
  { visit with ending := ending }

/-- Note a reading down; a storage error ends the run unless it goes on. -/
def noteResult
    {α : Type}
    (visit : Visit σ (Note σ))
    (keep : Bool)
    (make : α -> Note σ) : Except StorageError α -> Visit σ (Note σ)
  | .ok value => visit.note (make value)
  | .error error =>
      let noted := visit.note (.fault error)
      if keep then noted else noted.finish .failed

end Visit

namespace Action

variable {σ : Type}

/-- The texts of some queries in ascending order. -/
def sortedTexts (queries : List Slice) : List String :=
  (queries.map Slice.text).mergeSort fun left right => left ≤ right

/-- The run so far with an action done. -/
def perform
    [Mergeable σ]
    (view : View)
    (own : OwnState σ)
    (keep : Bool)
    (visit : Visit σ (Note σ)) : Action σ -> Visit σ (Note σ)
  | .noteView => visit.note (.view view.kind view.isPartitioned view.text)
  | .noteQueries => visit.note (.queries (sortedTexts view.queries))
  | .noteHas query => visit.note (.flag (view.answers query))
  | .noteEntries query => visit.note (.entries (view.entries query))
  | .noteRelations query =>
      visit.noteResult keep .relations (view.relations query)
  | .noteNeighbors query =>
      visit.noteResult keep .neighbors (view.neighbors query)
  | .noteProperty type =>
      visit.noteResult keep .property (view.property type)
  | .noteState =>
      match (visit.written <|> own.current?) with
      | some state => (visit.note (.state state)).put state
      | none => visit.finish .crashed
  | .write value => visit.put value
  | .writeDegree query ofCount =>
      match view.neighbors query with
      | .ok ids => visit.put (ofCount ids.length)
      | .error error =>
          let noted := visit.note (.fault error)
          if keep then noted else noted.finish .failed
  | .merge value =>
      match (visit.written <|> own.current?) with
      | none => visit.finish .crashed
      | some state =>
          match Mergeable.merge state value with
          | some sum => (visit.note (.state sum)).put sum
          | none => visit.finish .crashed
  | .fail => visit.finish .failed
  | .crash => visit.finish .crashed
  | .sleep millis => { visit with millis := visit.millis + millis }

end Action

namespace Instruction

variable {σ : Type}

/-- Whether an instruction is for a vertex. -/
def concerns (instruction : Instruction σ) (id : VertexId) : Bool :=
  match instruction.only with
  | none => true
  | some ids => ids.contains id

/-- The run so far with instructions followed, up to the one that ends it. -/
def follow
    [Mergeable σ]
    (view : View)
    (own : OwnState σ)
    (visit : Visit σ (Note σ)) : List (Instruction σ) -> Visit σ (Note σ)
  | [] => visit
  | instruction :: rest =>
      if instruction.concerns view.id then
        let next := instruction.action.perform view own instruction.keep visit
        if next.ending = .completed then follow view own next rest else next
      else follow view own visit rest

/-- The program that follows some instructions. -/
def program
    [Mergeable σ]
    (instructions : List (Instruction σ)) : Program σ (Note σ) :=
  fun view own => follow view own .idle instructions

end Instruction
end GraphSweep
