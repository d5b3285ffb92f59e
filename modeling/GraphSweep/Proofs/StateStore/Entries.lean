import GraphSweep.Program

/-!
# Stores seen entry by entry

What every change of a state store does to the entry of each vertex. Two stores
are the same when they read alike, in whatever order their entries came.
-/

namespace GraphSweep

namespace Visit

variable {σ ρ : Type}

/-- The entry that a run leaves for its vertex, given the one it found. -/
def leaves (visit : Visit σ ρ) (held : Option (Option σ)) :
    Option (Option σ) :=
  match visit.ending, visit.written with
  | .completed, some state => some (some state)
  | .completed, none => held
  | _, _ => some none

end Visit

namespace StateStore

variable {σ ρ : Type}

theorem findEntry_putEntry
    (id other : VertexId)
    (state : Option σ)
    (entries : List (VertexId × Option σ)) :
    findEntry other (putEntry id state entries) =
      if other = id then some state else findEntry other entries := by
  induction entries with
  | nil =>
      simp only [putEntry, findEntry, eq_comm]
  | cons head rest hypothesis =>
      obtain ⟨first, held⟩ := head
      by_cases same : first = id
      · subst same
        by_cases asked : first = other
        · subst asked
          simp [putEntry, findEntry]
        · simp [putEntry, findEntry, asked, Ne.symm asked]
      · by_cases asked : first = other
        · subst asked
          simp [putEntry, findEntry, same]
        · simp [putEntry, findEntry, same, asked, hypothesis]

theorem findEntry_filter
    (id other : VertexId)
    (entries : List (VertexId × Option σ)) :
    findEntry other (entries.filter fun entry => entry.1 != id) =
      if other = id then none else findEntry other entries := by
  induction entries with
  | nil => simp [findEntry]
  | cons head rest hypothesis =>
      obtain ⟨first, held⟩ := head
      by_cases removed : first = id
      · subst removed
        by_cases asked : other = first
        · simpa [asked] using hypothesis
        · simpa [findEntry, asked, Ne.symm asked] using hypothesis
      · by_cases asked : first = other
        · subst asked
          simp [findEntry, removed]
        · simpa [findEntry, removed, asked] using hypothesis

@[simp] theorem entry?_put
    (store : StateStore σ)
    (id other : VertexId)
    (state : Option σ) :
    entry? (store.put id state) other =
      if other = id then some state else store.entry? other :=
  findEntry_putEntry id other state store.entries

@[simp] theorem entry?_remove
    (store : StateStore σ)
    (id other : VertexId) :
    entry? (store.remove id) other =
      if other = id then none else store.entry? other :=
  findEntry_filter id other store.entries

/-- A vertex has an entry exactly when it is listed. -/
theorem entry?_isSome_iff
    (store : StateStore σ)
    (id : VertexId) :
    (store.entry? id).isSome ↔ id ∈ store.entries.map Prod.fst := by
  unfold entry?
  induction store.entries with
  | nil => simp [findEntry]
  | cons head rest hypothesis =>
      obtain ⟨first, held⟩ := head
      by_cases same : first = id
      · simp [findEntry, same]
      · simpa [findEntry, same, Ne.symm same] using hypothesis

/-- A run changes the entry of its own vertex only. -/
@[simp] theorem entry?_settle
    (store : StateStore σ)
    (id other : VertexId)
    (visit : Visit σ ρ) :
    entry? (store.settle id visit) other =
      if other = id then visit.leaves (store.entry? id)
      else store.entry? other := by
  by_cases same : other = id
  · subst same
    cases ended : visit.ending <;> cases wrote : visit.written <;>
      simp [settle, Visit.leaves, ended, wrote, set, invalidate]
  · cases ended : visit.ending <;> cases wrote : visit.written <;>
      simp [settle, ended, wrote, set, invalidate, same]

/-- A run for one vertex leaves the own state of another alone. -/
theorem own_settle_of_ne
    (store : StateStore σ)
    (initializer : Initializer σ)
    (visit : Visit σ ρ)
    {id other : VertexId}
    (different : other ≠ id) :
    (store.settle id visit).own initializer other =
      store.own initializer other := by
  simp only [own, own?, entry?_settle, if_neg different]

@[simp] theorem layout_settle
    (store : StateStore σ)
    (id : VertexId)
    (visit : Visit σ ρ) :
    (store.settle id visit).layout = store.layout := by
  unfold settle
  split <;> rfl

@[simp] theorem merged_settle
    (store : StateStore σ)
    (id : VertexId)
    (visit : Visit σ ρ) :
    (store.settle id visit).merged = store.merged := by
  unfold settle
  split <;> rfl

/-- Two stores that read alike. -/
structure Same (left right : StateStore σ) : Prop where
  layout : left.layout = right.layout
  merged : left.merged = right.merged
  /-- Every vertex has the same entry in both. -/
  entry : ∀ id, left.entry? id = right.entry? id

namespace Same

variable {left middle right : StateStore σ}

@[refl] theorem refl (store : StateStore σ) : Same store store :=
  ⟨rfl, rfl, fun _ => rfl⟩

theorem symm (same : Same left right) : Same right left :=
  ⟨same.layout.symm, same.merged.symm, fun id => (same.entry id).symm⟩

theorem trans (first : Same left middle) (second : Same middle right) :
    Same left right :=
  ⟨first.layout.trans second.layout, first.merged.trans second.merged,
    fun id => (first.entry id).trans (second.entry id)⟩

theorem put (same : Same left right) (id : VertexId) (state : Option σ) :
    Same (left.put id state) (right.put id state) := by
  refine ⟨same.layout, same.merged, ?_⟩
  intro other
  simp [same.entry]

theorem remove (same : Same left right) (id : VertexId) :
    Same (left.remove id) (right.remove id) := by
  refine ⟨same.layout, same.merged, ?_⟩
  intro other
  simp [same.entry]

theorem settle
    (same : Same left right)
    (id : VertexId)
    (visit : Visit σ ρ) :
    Same (left.settle id visit) (right.settle id visit) := by
  refine ⟨?_, ?_, fun other => ?_⟩
  · simp [same.layout]
  · simp [same.merged]
  · simp [same.entry]

/-- A program finds the same state of its own in both stores. -/
theorem own
    (same : Same left right)
    (initializer : Initializer σ)
    (id : VertexId) :
    left.own initializer id = right.own initializer id := by
  simp only [StateStore.own, own?, same.entry]

/-- Both stores answer alike what the state of a vertex is. -/
theorem get (same : Same left right) (id : VertexId) :
    left.get id = right.get id := by
  simp only [StateStore.get, resolve, same.layout, same.merged, same.entry]

end Same
end StateStore
end GraphSweep
