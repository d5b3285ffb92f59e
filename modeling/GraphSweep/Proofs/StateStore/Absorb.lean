import GraphSweep.Proofs.IdLayout
import GraphSweep.Proofs.StateStore.Entries
import Mathlib.Data.List.Nodup
import Mathlib.Data.List.Perm.Basic

/-!
# Absorbing siblings

Siblings are absorbed into their canonical vertices one after another. Absorbing one
changes two entries: its own goes, and that of its canonical vertex takes it in. So
what becomes of a canonical vertex is settled by its own siblings alone, in the order
in which they come, and absorbing gets through when it does so for each vertex.
-/

namespace GraphSweep
namespace StateStore

variable {σ : Type}

/-- The entry of a canonical vertex after a sibling's has been merged into it. -/
def mergeEntry [Mergeable σ] :
    Option (Option σ) -> Option σ -> Option (Option σ)
  | none, state => some state
  | some none, _ => some none
  | some (some _), none => some none
  | some (some held), some other => (Mergeable.merge held other).map some
/-! ## One sibling -/

section Absorb

variable [Mergeable σ]

@[simp] theorem layout_absorb (store : StateStore σ) (id : VertexId) :
    (store.absorb id).1.layout = store.layout := by
  unfold absorb
  split
  · rfl
  · dsimp only
    repeat' split
    all_goals rfl

@[simp] theorem merged_absorb (store : StateStore σ) (id : VertexId) :
    (store.absorb id).1.merged = store.merged := by
  unfold absorb
  split
  · rfl
  · dsimp only
    repeat' split
    all_goals rfl

/-- Absorbing a sibling moves its entry into the canonical one. -/
theorem entry?_absorb
    {store : StateStore σ}
    {id : VertexId}
    {state entry : Option σ}
    (apart : store.layout.canonical id ≠ id)
    (held : store.entry? id = some state)
    (merges : mergeEntry (store.entry? (store.layout.canonical id)) state =
      some entry)
    (other : VertexId) :
    entry? (store.absorb id).1 other =
      if other = id then none
      else if other = store.layout.canonical id then some entry
      else store.entry? other := by
  have rest : entry? (store.remove id) (store.layout.canonical id) =
      store.entry? (store.layout.canonical id) := by
    simp [apart]
  simp only [absorb, held, rest]
  rcases canonical : store.entry? (store.layout.canonical id)
    with _ | _ | canonicalState <;> rcases state with _ | siblingState <;>
    simp only [canonical, mergeEntry, Option.some.injEq,
      Option.map_eq_some_iff] at merges
  case some.some.some =>
    obtain ⟨sum, answer, rfl⟩ := merges
    simp only [answer, entry?_put, entry?_remove]
    grind
  all_goals
    subst merges
    simp only [entry?_put, entry?_remove]
    grind

/-- Absorbing a sibling gets through when the two entries merge. -/
theorem absorb_snd_iff
    {store : StateStore σ}
    {id : VertexId}
    {state : Option σ}
    (apart : store.layout.canonical id ≠ id)
    (held : store.entry? id = some state) :
    (store.absorb id).2 = true ↔
      ∃ entry,
        mergeEntry (store.entry? (store.layout.canonical id)) state =
          some entry := by
  have rest : entry? (store.remove id) (store.layout.canonical id) =
      store.entry? (store.layout.canonical id) := by
    simp [apart]
  simp only [absorb, held, rest]
  rcases store.entry? (store.layout.canonical id) with _ | _ | canonicalState <;>
    rcases state with _ | siblingState <;> simp only [mergeEntry]
  case some.some.some =>
    cases Mergeable.merge canonicalState siblingState <;> simp
  all_goals simp

/-- Absorbing a sibling leaves the entries of all other vertices alone. -/
theorem entry?_absorb_of_ne
    {store : StateStore σ}
    {id other : VertexId}
    (apart : store.layout.canonical id ≠ id)
    (present : (store.entry? id).isSome)
    (absorbs : (store.absorb id).2 = true)
    (different : other ≠ id)
    (unclaimed : store.layout.canonical id ≠ other) :
    entry? (store.absorb id).1 other = store.entry? other := by
  obtain ⟨state, held⟩ := Option.isSome_iff_exists.1 present
  obtain ⟨entry, merges⟩ := (absorb_snd_iff apart held).1 absorbs
  rw [entry?_absorb apart held merges, if_neg different,
    if_neg unclaimed.symm]

/-- Stores that read alike do so after a sibling has been absorbed. -/
theorem Same.absorb
    {left right : StateStore σ}
    (same : Same left right)
    (id : VertexId) :
    Same (left.absorb id).1 (right.absorb id).1 ∧
      (left.absorb id).2 = (right.absorb id).2 := by
  have rest := same.remove id
  unfold StateStore.absorb
  rw [← same.entry id, ← same.layout]
  rcases left.entry? id with _ | state
  · exact ⟨same, rfl⟩
  · dsimp only
    rw [← rest.entry]
    rcases entry? (left.remove id) (left.layout.canonical id)
      with _ | _ | held
    · exact ⟨rest.put _ _, rfl⟩
    · cases state with
      | none => exact ⟨rest.put _ _, rfl⟩
      | some other => exact ⟨rest, rfl⟩
    · cases state with
      | none => exact ⟨rest.put _ _, rfl⟩
      | some other =>
          dsimp only
          cases Mergeable.merge held other with
          | none => exact ⟨rest, rfl⟩
          | some sum => exact ⟨rest.put _ _, rfl⟩

end Absorb

/-! ## All siblings -/

/-- The vertices whose entries are merged into another one. -/
theorem mem_siblings
    (store : StateStore σ)
    (id : VertexId) :
    id ∈ store.siblings ↔
      (store.entry? id).isSome ∧ VertexId.isPartitioned id ∧
        store.layout.canonical id ≠ id := by
  rw [siblings, List.mem_filter, entry?_isSome_iff, Bool.and_eq_true,
    bne_iff_ne]

theorem nodup_siblings (store : StateStore σ) : store.siblings.Nodup :=
  store.distinct.filter _

/-- Stores that read alike have the same siblings to merge. -/
theorem Same.siblings_perm
    {left right : StateStore σ}
    (same : Same left right) :
    left.siblings.Perm right.siblings := by
  rw [List.perm_ext_iff_of_nodup left.nodup_siblings right.nodup_siblings]
  intro id
  rw [mem_siblings, mem_siblings, same.entry, same.layout]

/-- Siblings keep away from their canonical vertices, which are no siblings. -/
theorem canonical_ne_of_mem_siblings
    {store : StateStore σ}
    {id other : VertexId}
    (member : other ∈ store.siblings) :
    store.layout.canonical id ≠ other := by
  intro same
  have apart := ((store.mem_siblings other).1 member).2.2
  rw [← same, IdLayout.canonical_canonical] at apart
  exact apart rfl

/-- Siblings that can be absorbed one after another: all are there, each comes once,
and none is the canonical vertex of one of them. -/
structure Absorbable
    (store : StateStore σ)
    (ids : List VertexId) : Prop where
  distinct : ids.Nodup
  present : ∀ id ∈ ids, (store.entry? id).isSome
  apart : ∀ id ∈ ids, ∀ other ∈ ids, store.layout.canonical id ≠ other

/-- All siblings of a store can be absorbed, in whatever order they come. -/
theorem absorbable_of_perm
    {store : StateStore σ}
    {ids : List VertexId}
    (perm : ids.Perm store.siblings) :
    store.Absorbable ids where
  distinct := perm.nodup_iff.2 store.nodup_siblings
  present id member := ((store.mem_siblings id).1 (perm.mem_iff.1 member)).1
  apart _ _ _ member := canonical_ne_of_mem_siblings (perm.mem_iff.1 member)

/-- The first sibling is not its own canonical vertex. -/
theorem Absorbable.first_apart
    {store : StateStore σ}
    {id : VertexId}
    {ids : List VertexId}
    (absorbable : store.Absorbable (id :: ids)) :
    store.layout.canonical id ≠ id :=
  absorbable.apart id List.mem_cons_self id List.mem_cons_self

/-- The entries of the siblings of a vertex, in the order given. -/
def siblingEntries
    (store : StateStore σ)
    (ids : List VertexId)
    (id : VertexId) : List (Option σ) :=
  (ids.filter fun sibling =>
    store.layout.canonical sibling = id).filterMap store.entry?

/-- A vertex has no entries of siblings where none is merged into it. -/
theorem siblingEntries_of_unclaimed
    {store : StateStore σ}
    {ids : List VertexId}
    {id : VertexId}
    (unclaimed : ∀ sibling ∈ ids, store.layout.canonical sibling ≠ id) :
    store.siblingEntries ids id = [] := by
  have none : (ids.filter fun sibling =>
      store.layout.canonical sibling = id) = [] := by
    rw [List.filter_eq_nil_iff]
    intro sibling member
    simpa using unclaimed sibling member
  rw [siblingEntries, none]
  rfl

section AbsorbAll

variable [Mergeable σ]

theorem absorbAll_cons
    (store : StateStore σ)
    (id : VertexId)
    (ids : List VertexId) :
    store.absorbAll (id :: ids) =
      if (store.absorb id).2 then (store.absorb id).1.absorbAll ids
      else ((store.absorb id).1, false) := by
  rw [absorbAll]
  split
  · next next absorbed => simp [absorbed]
  · next next absorbed => simp [absorbed]

@[simp] theorem layout_absorbAll
    (store : StateStore σ)
    (ids : List VertexId) :
    (store.absorbAll ids).1.layout = store.layout := by
  induction ids generalizing store with
  | nil => rfl
  | cons id ids hypothesis =>
      rw [absorbAll_cons]
      split
      · rw [hypothesis, layout_absorb]
      · exact store.layout_absorb id

/-- Siblings that have been absorbed do not count as merged yet. -/
theorem merged_absorbAll
    (store : StateStore σ)
    (ids : List VertexId) :
    (store.absorbAll ids).1.merged = store.merged := by
  induction ids generalizing store with
  | nil => rfl
  | cons id ids hypothesis =>
      rw [absorbAll_cons]
      split
      · rw [hypothesis, merged_absorb]
      · exact store.merged_absorb id

/-- Stores that read alike do so after some siblings have been absorbed. -/
theorem Same.absorbAll
    {left right : StateStore σ}
    (same : Same left right)
    (ids : List VertexId) :
    Same (left.absorbAll ids).1 (right.absorbAll ids).1 ∧
      (left.absorbAll ids).2 = (right.absorbAll ids).2 := by
  induction ids generalizing left right with
  | nil => exact ⟨same, rfl⟩
  | cons id ids hypothesis =>
      obtain ⟨absorbed, through⟩ := same.absorb id
      rw [absorbAll_cons, absorbAll_cons, ← through]
      split
      · exact hypothesis absorbed
      · exact ⟨absorbed, rfl⟩

namespace Absorbable

variable
  {store : StateStore σ}
  {id : VertexId}
  {ids : List VertexId}

/-- Absorbing the first sibling leaves the entries of the others alone. -/
theorem entry?_absorb_of_mem
    (absorbable : store.Absorbable (id :: ids))
    (absorbs : (store.absorb id).2 = true)
    {other : VertexId}
    (later : other ∈ ids) :
    entry? (store.absorb id).1 other = store.entry? other := by
  have fresh : id ∉ ids := (List.nodup_cons.1 absorbable.distinct).1
  exact entry?_absorb_of_ne absorbable.first_apart
    (absorbable.present id List.mem_cons_self) absorbs
    (ne_of_mem_of_not_mem later fresh)
    (absorbable.apart id List.mem_cons_self other
      (List.mem_cons_of_mem id later))

/-- When the first sibling has been absorbed, the others still can be. -/
theorem rest
    (absorbable : store.Absorbable (id :: ids))
    (absorbs : (store.absorb id).2 = true) :
    Absorbable (store.absorb id).1 ids := by
  refine ⟨(List.nodup_cons.1 absorbable.distinct).2, ?_, ?_⟩
  · intro other later
    rw [absorbable.entry?_absorb_of_mem absorbs later]
    exact absorbable.present other (List.mem_cons_of_mem id later)
  · intro one first two second
    rw [layout_absorb]
    exact absorbable.apart one (List.mem_cons_of_mem id first) two
      (List.mem_cons_of_mem id second)

end Absorbable

/-! ### What becomes of a vertex -/

/-- Merge some entries into an entry, one after another, as far as merging has
answers. -/
def mergeEntries (held : Option (Option σ)) :
    List (Option σ) -> Option (Option (Option σ))
  | [] => some held
  | state :: states =>
      (mergeEntry held state).bind fun entry =>
        mergeEntries (some entry) states

/-- The entry of a vertex once some siblings have been merged into it, as far as
merging has answers. -/
def siblingFold
    (store : StateStore σ)
    (ids : List VertexId)
    (id : VertexId) : Option (Option (Option σ)) :=
  mergeEntries (store.entry? id) (store.siblingEntries ids id)

/-- A vertex that no sibling is merged into keeps its entry. -/
theorem siblingFold_of_unclaimed
    {store : StateStore σ}
    {ids : List VertexId}
    {id : VertexId}
    (unclaimed : ∀ sibling ∈ ids, store.layout.canonical sibling ≠ id) :
    store.siblingFold ids id = some (store.entry? id) := by
  rw [siblingFold, siblingEntries_of_unclaimed unclaimed]
  rfl

section Fold

variable
  {store : StateStore σ}
  {id : VertexId}
  {ids : List VertexId}

/-- The first sibling of a vertex is merged before the others. -/
theorem siblingFold_cons_canonical
    {state : Option σ}
    (held : store.entry? id = some state) :
    store.siblingFold (id :: ids) (store.layout.canonical id) =
      (mergeEntry (store.entry? (store.layout.canonical id)) state).bind
        fun entry => mergeEntries (some entry)
          (store.siblingEntries ids (store.layout.canonical id)) := by
  rw [siblingFold, siblingEntries, List.filter_cons_of_pos (by simp),
    List.filterMap_cons, held]
  rfl

/-- Absorbing the first sibling leaves the others to be merged. -/
theorem siblingFold_absorb
    (absorbable : store.Absorbable (id :: ids))
    (absorbs : (store.absorb id).2 = true)
    {other : VertexId}
    (different : other ≠ id) :
    siblingFold (store.absorb id).1 ids other =
      store.siblingFold (id :: ids) other := by
  obtain ⟨state, held⟩ := Option.isSome_iff_exists.1
    (absorbable.present id List.mem_cons_self)
  obtain ⟨entry, merges⟩ :=
    (absorb_snd_iff absorbable.first_apart held).1 absorbs
  have kept : siblingEntries (store.absorb id).1 ids other =
      store.siblingEntries ids other := by
    rw [siblingEntries, siblingEntries, layout_absorb]
    apply List.filterMap_congr
    intro sibling member
    exact absorbable.entry?_absorb_of_mem absorbs
      (List.mem_of_mem_filter member)
  have entries := entry?_absorb absorbable.first_apart held merges other
  rw [if_neg different] at entries
  by_cases claimed : other = store.layout.canonical id
  · subst claimed
    rw [if_pos rfl] at entries
    rw [siblingFold_cons_canonical held, merges, siblingFold, kept, entries]
    rfl
  · rw [if_neg claimed] at entries
    have passed : store.siblingEntries (id :: ids) other =
        store.siblingEntries ids other := by
      rw [siblingEntries, siblingEntries,
        List.filter_cons_of_neg (by simpa using Ne.symm claimed)]
    rw [siblingFold, siblingFold, kept, entries, passed]

/-- No sibling is merged into one that has been absorbed. -/
theorem siblingFold_absorbed
    (absorbable : store.Absorbable (id :: ids))
    (absorbs : (store.absorb id).2 = true) :
    siblingFold (store.absorb id).1 ids id = some none := by
  obtain ⟨state, held⟩ := Option.isSome_iff_exists.1
    (absorbable.present id List.mem_cons_self)
  obtain ⟨entry, merges⟩ :=
    (absorb_snd_iff absorbable.first_apart held).1 absorbs
  have unclaimed : ∀ sibling ∈ ids,
      (store.absorb id).1.layout.canonical sibling ≠ id := by
    intro sibling member
    rw [layout_absorb]
    exact absorbable.apart sibling (List.mem_cons_of_mem id member) id
      List.mem_cons_self
  rw [siblingFold_of_unclaimed unclaimed,
    entry?_absorb absorbable.first_apart held merges, if_pos rfl]

/-- Absorbing siblings gets through when it does for each vertex. -/
theorem absorbAll_snd_iff (absorbable : store.Absorbable ids) :
    (store.absorbAll ids).2 = true ↔
      ∀ id, (store.siblingFold ids id).isSome := by
  induction ids generalizing store with
  | nil => simp [absorbAll, siblingFold, siblingEntries, mergeEntries]
  | cons id ids hypothesis =>
      rw [absorbAll_cons]
      by_cases absorbs : (store.absorb id).2 = true
      · rw [if_pos absorbs, hypothesis (absorbable.rest absorbs)]
        have kept := siblingFold_of_unclaimed fun sibling member =>
          absorbable.apart sibling member id List.mem_cons_self
        have taken := siblingFold_absorbed absorbable absorbs
        refine forall_congr' fun other => ?_
        by_cases same : other = id
        · rw [same, kept, taken]
          simp
        · rw [siblingFold_absorb absorbable absorbs same]
      · rw [if_neg absorbs]
        obtain ⟨state, held⟩ := Option.isSome_iff_exists.1
          (absorbable.present id List.mem_cons_self)
        have stuck : mergeEntry (store.entry? (store.layout.canonical id)) state =
            none := by
          rw [Option.eq_none_iff_forall_ne_some]
          intro entry merges
          exact absorbs
            ((absorb_snd_iff absorbable.first_apart held).2 ⟨entry, merges⟩)
        refine iff_of_false (by simp) fun through => ?_
        have here := through (store.layout.canonical id)
        rw [siblingFold_cons_canonical held, stuck] at here
        cases here

/-- What absorbing siblings leaves as the entry of a vertex: nothing of a sibling,
and what its siblings come to of any other. -/
theorem entry?_absorbAll
    (absorbable : store.Absorbable ids)
    (through : (store.absorbAll ids).2 = true)
    (other : VertexId) :
    entry? (store.absorbAll ids).1 other =
      if other ∈ ids then none else (store.siblingFold ids other).join := by
  induction ids generalizing store with
  | nil => simp [absorbAll, siblingFold, siblingEntries, mergeEntries]
  | cons id ids hypothesis =>
      rw [absorbAll_cons] at through ⊢
      split at through
      next absorbs =>
        rw [if_pos absorbs, hypothesis (absorbable.rest absorbs) through]
        by_cases later : other ∈ ids
        · rw [if_pos later, if_pos (List.mem_cons_of_mem id later)]
        · rw [if_neg later]
          by_cases here : other = id
          · rw [here, siblingFold_absorbed absorbable absorbs,
              if_pos List.mem_cons_self]
            rfl
          · rw [if_neg (by simp [here, later]),
              siblingFold_absorb absorbable absorbs here]
      next stops => simp at through

end Fold

/-! ## The final merge -/

theorem mergeSiblings_eq_mergeInOrder (store : StateStore σ) :
    store.mergeSiblings = store.mergeInOrder store.siblings := rfl

theorem mergeInOrder_eq (store : StateStore σ) (ids : List VertexId) :
    store.mergeInOrder ids =
      if (store.absorbAll ids).2 then
        (some ids.length, { (store.absorbAll ids).1 with merged := true })
      else (none, (store.absorbAll ids).1) := by
  rw [mergeInOrder]
  split
  · next next absorbed => simp [absorbed]
  · next next absorbed => simp [absorbed]

theorem mergeInOrder_of_through
    {store : StateStore σ}
    {ids : List VertexId}
    (through : (store.absorbAll ids).2 = true) :
    store.mergeInOrder ids =
      (some ids.length, { (store.absorbAll ids).1 with merged := true }) := by
  rw [mergeInOrder_eq, if_pos through]

/-- Merging has an answer when it gets through. -/
theorem isSome_mergeInOrder_iff
    {store : StateStore σ}
    {ids : List VertexId} :
    (store.mergeInOrder ids).1.isSome ↔ (store.absorbAll ids).2 = true := by
  rw [mergeInOrder_eq]
  split
  · next through => simp [through]
  · next stops => simp [stops]

theorem layout_mergeInOrder (store : StateStore σ) (ids : List VertexId) :
    (store.mergeInOrder ids).2.layout = store.layout := by
  rw [mergeInOrder_eq]
  split <;> exact store.layout_absorbAll ids

/-- A merge without an answer leaves the store as merged as it was. -/
theorem merged_mergeInOrder_eq (store : StateStore σ) (ids : List VertexId) :
    (store.mergeInOrder ids).2.merged =
      (store.merged || (store.mergeInOrder ids).1.isSome) := by
  rw [mergeInOrder_eq]
  split
  · exact (Bool.or_true _).symm
  · exact (store.merged_absorbAll ids).trans (Bool.or_false _).symm

/-- A store counts as merged once merging has had an answer. -/
theorem merged_mergeInOrder
    {store : StateStore σ}
    {ids : List VertexId}
    (answered : (store.mergeInOrder ids).1.isSome) :
    (store.mergeInOrder ids).2.merged = true := by
  rw [merged_mergeInOrder_eq, answered, Bool.or_true]

end AbsorbAll
end StateStore
end GraphSweep
