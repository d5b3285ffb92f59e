import GraphSweep.VertexId
import GraphSweep.Mergeable

/-!
# State stores

A state store holds the states of vertices. A vertex whose processing failed
keeps an entry without a state. After the siblings of partitioned vertices have
been merged, every sibling is read through the canonical one.
-/

namespace GraphSweep

/-- States by vertex; an entry without a state is a vertex whose processing failed. -/
structure StateStore (σ : Type) where
  layout : IdLayout
  /-- The entries, in the order in which they came. -/
  entries : List (VertexId × Option σ)
  /-- Whether siblings have been merged since the last job began. -/
  merged : Bool
  /-- Every vertex has at most one entry. -/
  distinct : (entries.map Prod.fst).Nodup

namespace StateStore

variable {σ : Type}

/-- A store without entries. -/
def empty (layout : IdLayout) : StateStore σ where
  layout := layout
  entries := []
  merged := false
  distinct := List.nodup_nil

/-- The entry of a vertex in a list of entries. -/
def findEntry (id : VertexId) :
    List (VertexId × Option σ) -> Option (Option σ)
  | [] => none
  | (other, state) :: rest =>
      if other = id then some state else findEntry id rest

/-- Give a vertex an entry, in place of the one it has or at the end. -/
def putEntry (id : VertexId) (state : Option σ) :
    List (VertexId × Option σ) -> List (VertexId × Option σ)
  | [] => [(id, state)]
  | (other, held) :: rest =>
      if other = id then (id, state) :: rest
      else (other, held) :: putEntry id state rest

theorem mem_keys_putEntry
    {id other : VertexId}
    {state : Option σ}
    {entries : List (VertexId × Option σ)} :
    other ∈ (putEntry id state entries).map Prod.fst ↔
      other = id ∨ other ∈ entries.map Prod.fst := by
  induction entries with
  | nil => simp [putEntry]
  | cons head rest hypothesis =>
      obtain ⟨first, held⟩ := head
      by_cases same : first = id
      · subst same
        simp [putEntry]
      · simp only [putEntry, same, if_false, List.map_cons, List.mem_cons,
          hypothesis]
        exact or_left_comm

theorem distinct_putEntry
    (id : VertexId)
    (state : Option σ)
    {entries : List (VertexId × Option σ)}
    (distinct : (entries.map Prod.fst).Nodup) :
    ((putEntry id state entries).map Prod.fst).Nodup := by
  induction entries with
  | nil => simp [putEntry]
  | cons head rest hypothesis =>
      obtain ⟨first, held⟩ := head
      rw [List.map_cons, List.nodup_cons] at distinct
      by_cases same : first = id
      · subst same
        simpa [putEntry] using distinct
      · rw [putEntry, if_neg same, List.map_cons, List.nodup_cons,
          mem_keys_putEntry, not_or]
        exact ⟨⟨same, distinct.1⟩, hypothesis distinct.2⟩

/-- The entry of a vertex itself, whatever has been merged. -/
def entry? (store : StateStore σ) (id : VertexId) : Option (Option σ) :=
  findEntry id store.entries

/-- Give a vertex an entry. -/
def put (store : StateStore σ) (id : VertexId) (state : Option σ) :
    StateStore σ :=
  { store with
    entries := putEntry id state store.entries
    distinct := distinct_putEntry id state store.distinct }

/-- Take away the entry of a vertex. -/
def remove (store : StateStore σ) (id : VertexId) : StateStore σ :=
  { store with
    entries := store.entries.filter fun entry => entry.1 != id
    distinct := (List.filter_sublist.map Prod.fst).nodup store.distinct }

/-- The vertex under which an id is read. -/
def resolve (store : StateStore σ) (id : VertexId) : VertexId :=
  if store.merged then store.layout.canonical id else id

/-- The state of a vertex, if it has one. -/
def get (store : StateStore σ) (id : VertexId) : Option σ :=
  (store.entry? (store.resolve id)).join

/-- Whether a vertex has an entry. -/
def contains (store : StateStore σ) (id : VertexId) : Bool :=
  (store.entry? (store.resolve id)).isSome

/-- Whether a vertex has an entry without a state. -/
def lacksState (store : StateStore σ) (id : VertexId) : Bool :=
  match store.entry? (store.resolve id) with
  | some none => true
  | _ => false

/-- Give a vertex a state. -/
def set (store : StateStore σ) (id : VertexId) (state : σ) : StateStore σ :=
  store.put id (some state)

/-- Take its state from a vertex. -/
def invalidate (store : StateStore σ) (id : VertexId) : StateStore σ :=
  store.put id none

/-- The state of a vertex itself, whatever has been merged. -/
def own? (store : StateStore σ) (id : VertexId) : Option σ :=
  (store.entry? id).join

/-- The state of a vertex, which gets the initial one when it has none. -/
def ensure (store : StateStore σ) (id : VertexId) (initial : σ) :
    σ × StateStore σ :=
  let state := (store.own? id).getD initial
  (state, store.set id state)

/-- Change the state of a vertex, which gets the initial one when it has none; a
change without an answer leaves it there. -/
def update
    (store : StateStore σ)
    (id : VertexId)
    (initial : σ)
    (change : σ -> Option σ) : Option σ × StateStore σ :=
  let (state, held) := store.ensure id initial
  match change state with
  | some changed => (some changed, held.set id changed)
  | none => (none, held)

/-- Number of entries. -/
def size (store : StateStore σ) : Nat := store.entries.length

/-- The vertices that are siblings other than the canonical one. -/
def siblings (store : StateStore σ) : List VertexId :=
  (store.entries.map Prod.fst).filter fun id =>
    VertexId.isPartitioned id && store.layout.canonical id != id

/-- Merge one sibling into the entry of its canonical vertex; `false` with the
store left behind when their states have no merge. A vertex that any sibling
leaves without a state has none. -/
def absorb [Mergeable σ] (store : StateStore σ) (id : VertexId) :
    StateStore σ × Bool :=
  match store.entry? id with
  | none => (store, true)
  | some state =>
      let rest := store.remove id
      let canonical := store.layout.canonical id
      match rest.entry? canonical, state with
      | none, _ => (rest.put canonical state, true)
      | some _, none => (rest.put canonical none, true)
      | some none, some _ => (rest, true)
      | some (some held), some other =>
          match Mergeable.merge held other with
          | some sum => (rest.put canonical (some sum), true)
          | none => (rest, false)

/-- Merge siblings one after another, up to the first without a merge. -/
def absorbAll [Mergeable σ] (store : StateStore σ) :
    List VertexId -> StateStore σ × Bool
  | [] => (store, true)
  | id :: ids =>
      match store.absorb id with
      | (next, true) => next.absorbAll ids
      | (next, false) => (next, false)

/-- Merge all siblings into their canonical vertices. The number of merged
entries is missing when some states have no merge, and then the store does not
count as merged. -/
def mergeSiblings [Mergeable σ] (store : StateStore σ) :
    Option Nat × StateStore σ :=
  match store.absorbAll store.siblings with
  | (next, true) => (some store.siblings.length, { next with merged := true })
  | (next, false) => (none, next)

/-- Merge some siblings into their canonical vertices, in the order given. -/
def mergeInOrder
    [Mergeable σ]
    (store : StateStore σ)
    (ids : List VertexId) :
    Option Nat × StateStore σ :=
  match store.absorbAll ids with
  | (next, true) => (some ids.length, { next with merged := true })
  | (next, false) => (none, next)

/-- Forget that siblings have been merged, as a job does that begins. -/
def reopen (store : StateStore σ) : StateStore σ :=
  { store with merged := false }

/-- The entries in ascending order of their ids. -/
def sortedEntries (store : StateStore σ) : List (VertexId × Option σ) :=
  store.entries.mergeSort fun left right => left.1 ≤ right.1

/-- The text of a store, such as `ResultStore { entries: 2, merged: true }`. -/
def text (store : StateStore σ) : String :=
  "ResultStore \x7b entries: " ++ toString store.size ++ ", merged: "
    ++ toString store.merged ++ " \x7d"

end StateStore
end GraphSweep
