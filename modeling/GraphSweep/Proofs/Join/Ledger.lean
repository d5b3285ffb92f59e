import GraphSweep.Proofs.Join.Leading
import Mathlib.Algebra.Order.Ring.Nat

/-!
# What becomes of the items of the data streams

An item that a join takes from a data stream is attached to the view of its vertex,
discarded because its vertex does not exist any more, or dropped as an orphan. The
ledger of a lane tells what becomes of its items, one after another. A join that comes
to its end has one entry in the ledgers for every item that it has taken, counts the
orphans among them, and has dispatched views of exactly the items attached.
-/

namespace GraphSweep

/-- What becomes of an item that a join has taken from a data stream. -/
inductive Fate
  /-- Its entries join the view of a vertex. -/
  | attached (id : VertexId)
  /-- It is taken for a vertex that does not exist any more. -/
  | discarded (id : VertexId)
  /-- No vertex claims it. -/
  | orphaned
  deriving DecidableEq

/-- An item that a join has taken, and what has become of it. -/
structure Settled where
  item : Item
  fate : Fate
  deriving DecidableEq

/-- A vertex that the first stream names. -/
structure Probed where
  id : VertexId
  /-- Whether the vertex exists. -/
  live : Bool

/-- The vertex that an item of the first stream names. -/
def Item.probed (item : Item) : Probed := ⟨item.id, item.isLive⟩

/-- What becomes of an item that the vertex claims. -/
def Probed.fate (probed : Probed) : Fate :=
  if probed.live then .attached probed.id else .discarded probed.id

namespace Probed

variable {probed : Probed} {id : VertexId}

/-- Only a vertex that exists has items attached, and only to its own view. -/
theorem fate_eq_attached :
    probed.fate = .attached id ↔ probed.live = true ∧ probed.id = id := by
  cases live : probed.live <;> simp [fate, live]

/-- Items are discarded only at a vertex that does not exist. -/
theorem fate_eq_discarded :
    probed.fate = .discarded id ↔ probed.live = false ∧ probed.id = id := by
  cases live : probed.live <;> simp [fate, live]

end Probed

namespace Settled

/-- An item that no vertex claims. -/
def orphan (item : Item) : Settled := ⟨item, .orphaned⟩

/-- The number of items that no vertex claims. -/
def orphans (ledger : List Settled) : Nat :=
  ledger.countP fun settled => settled.fate = .orphaned

/-- The entries that an item brings to the view of a vertex, if it is attached to
it. -/
def entriesFor? (id : VertexId) (settled : Settled) : Option (List Entry) :=
  if settled.fate = .attached id then some settled.item.entries else none

/-- The entries that join the view of a vertex. -/
def entriesFor (id : VertexId) (ledger : List Settled) : List (List Entry) :=
  ledger.filterMap (entriesFor? id)

section Append

variable (ledger others : List Settled)

@[simp] theorem orphans_append :
    orphans (ledger ++ others) = orphans ledger + orphans others :=
  List.countP_append

@[simp] theorem entriesFor_append (id : VertexId) :
    entriesFor id (ledger ++ others) =
      entriesFor id ledger ++ entriesFor id others :=
  List.filterMap_append

theorem orphans_cons_orphan (item : Item) :
    orphans (orphan item :: ledger) = orphans ledger + 1 :=
  List.countP_cons_of_pos (decide_eq_true rfl)

theorem entriesFor_cons_orphan (id : VertexId) (item : Item) :
    entriesFor id (orphan item :: ledger) = entriesFor id ledger :=
  List.filterMap_cons_none rfl

end Append

end Settled

namespace Lane

/-- What becomes of some items as a lane goes through them for a vertex: the vertex
claims its own, and those of earlier vertices are orphans from then on. Nothing becomes
yet of the items from which the lane stops. -/
def fates (probed : Probed) : List Item -> List Settled
  | [] => []
  | item :: rest =>
      if item.id < probed.id then .orphan item :: fates probed rest
      else if item.id = probed.id then [⟨item, probed.fate⟩]
      else []

/-- What becomes of the item that a lane holds in the end. -/
def unclaimed (lane : Lane) : List Settled := lane.held.toList.map .orphan

/-- What becomes of the items of a lane that is advanced to some vertices, one after
another. -/
def ledger (policy : FailurePolicy) (lane : Lane) : List Probed -> List Settled
  | [] => lane.unclaimed
  | probed :: later =>
      fates probed lane.pending ++
        match lane.seek policy probed.id with
        | .error _ => []
        | .ok found => found.lane.ledger policy later

/-- What advancing a lane to a vertex has come to, by what became of its items. -/
structure Finds
    (probed : Probed)
    (items : List Item)
    (lane : Lane)
    (found : Sought) : Prop where
  query : found.lane.query = lane.query
  pending : items =
    (fates probed items).map Settled.item ++ found.lane.pending
  dropped : found.dropped = Settled.orphans (fates probed items)
  entries : probed.live ->
    found.entries.toList = Settled.entriesFor probed.id (fates probed items)

section Seek

variable
  {policy : FailurePolicy}
  {lane : Lane}
  {found : Sought}
  {probed : Probed}
  {later : List Probed}

/-- All that going over an item first can come to. -/
theorem seekItems_cases
    {id : VertexId}
    {item : Item}
    {rest : List Item}
    (seeks : lane.seekItems policy id (item :: rest) = .ok found) :
    (item.id < id ∧ ∃ others, lane.seekItems policy id rest = .ok others ∧
        found = { others with dropped := others.dropped + 1 }) ∨
      (item.id = id ∧
        found = ⟨some item.entries, { lane with held := none, rest := rest },
          0⟩) ∨
      (id < item.id ∧
        found = ⟨none, { lane with held := some item, rest := rest }, 0⟩) := by
  rw [seekItems] at seeks
  by_cases earlier : item.id < id
  · rw [if_pos earlier] at seeks
    obtain ⟨others, later, made⟩ := exists_of_bind_eq_ok seeks
    exact Or.inl ⟨earlier, others, later, (Except.ok.inj made).symm⟩
  · rw [if_neg earlier] at seeks
    right
    by_cases same : item.id = id
    · rw [if_pos same] at seeks
      exact Or.inl ⟨same, (Except.ok.inj seeks).symm⟩
    · rw [if_neg same] at seeks
      have beyond : id < item.id :=
        Int64.lt_of_le_of_ne (Int64.not_lt.1 earlier) (Ne.symm same)
      exact Or.inr ⟨beyond, (Except.ok.inj seeks).symm⟩

theorem fates_cons_of_lt
    {item : Item}
    {rest : List Item}
    (earlier : item.id < probed.id) :
    fates probed (item :: rest) = .orphan item :: fates probed rest := by
  rw [fates, if_pos earlier]

theorem fates_cons_of_eq
    {item : Item}
    {rest : List Item}
    (same : item.id = probed.id) :
    fates probed (item :: rest) = [⟨item, probed.fate⟩] := by
  rw [fates, if_neg (same ▸ Int64.lt_irrefl), if_pos same]

theorem fates_cons_of_gt
    {item : Item}
    {rest : List Item}
    (beyond : probed.id < item.id) :
    fates probed (item :: rest) = [] := by
  rw [fates, if_neg (Int64.lt_asymm beyond),
    if_neg (Ne.symm (Int64.ne_of_lt beyond))]

theorem finds_of_seekItems
    {items : List Item}
    (seeks : lane.seekItems policy probed.id items = .ok found) :
    lane.Finds probed items found := by
  induction items generalizing found with
  | nil =>
      obtain ⟨_, -, ended⟩ := exists_of_bind_eq_ok seeks
      cases ended
      exact ⟨rfl, rfl, rfl, fun _ => rfl⟩
  | cons item rest hypothesis =>
      rcases seekItems_cases seeks with
        ⟨earlier, others, later, rfl⟩ | ⟨same, rfl⟩ | ⟨beyond, rfl⟩
      · obtain ⟨query, pending, dropped, entries⟩ := hypothesis later
        have first : fates probed (item :: rest) =
            .orphan item :: fates probed rest := fates_cons_of_lt earlier
        refine ⟨query, ?_, ?_, fun live => ?_⟩
        · rw [first, List.map_cons, List.cons_append, ← pending]
          rfl
        · rw [first, Settled.orphans_cons_orphan, ← dropped]
        · rw [first, Settled.entriesFor_cons_orphan]
          exact entries live
      · have first : fates probed (item :: rest) = [⟨item, probed.fate⟩] :=
          fates_cons_of_eq same
        refine ⟨rfl, ?_, ?_, fun live => ?_⟩
        · rw [first]
          rfl
        · rw [first, Probed.fate]
          cases probed.live <;> rfl
        · rw [first, Probed.fate, if_pos live]
          simp [Settled.entriesFor, Settled.entriesFor?]
      · have none : fates probed (item :: rest) = [] := fates_cons_of_gt beyond
        refine ⟨rfl, ?_, ?_, fun _ => ?_⟩
        · rw [none]
          rfl
        · rw [none]
          rfl
        · rw [none]
          rfl

theorem finds_of_seek (seeks : lane.seek policy probed.id = .ok found) :
    lane.Finds probed lane.pending found :=
  finds_of_seekItems seeks

theorem ledger_cons (seeks : lane.seek policy probed.id = .ok found) :
    lane.ledger policy (probed :: later) =
      fates probed lane.pending ++ found.lane.ledger policy later := by
  rw [ledger, seeks]

/-- Items that a vertex is met with are its own, and no other is claimed. -/
theorem mem_fates
    {items : List Item}
    {settled : Settled}
    (member : settled ∈ fates probed items) :
    settled.fate = .orphaned ∨
      (settled.fate = probed.fate ∧ settled.item.id = probed.id) := by
  induction items with
  | nil => cases member
  | cons item rest hypothesis =>
      rw [fates] at member
      split at member
      · rcases List.mem_cons.1 member with rfl | behind
        · exact Or.inl rfl
        · exact hypothesis behind
      · split at member
        · next same =>
          rw [List.mem_singleton.1 member]
          exact Or.inr ⟨rfl, same⟩
        · cases member

/-- An item in the ledger of a lane is an orphan or has been claimed by its own
vertex. -/
theorem mem_ledger
    {visits : List Probed}
    {settled : Settled}
    (member : settled ∈ lane.ledger policy visits) :
    settled.fate = .orphaned ∨
      ∃ probed ∈ visits,
        settled.fate = probed.fate ∧ settled.item.id = probed.id := by
  induction visits generalizing lane with
  | nil =>
      obtain ⟨item, -, rfl⟩ := List.mem_map.1 member
      exact Or.inl rfl
  | cons probed later hypothesis =>
      rw [ledger] at member
      rcases List.mem_append.1 member with here | behind
      · rcases mem_fates here with orphaned | claimed
        · exact Or.inl orphaned
        · exact Or.inr ⟨probed, List.mem_cons_self, claimed⟩
      · split at behind
        · cases behind
        · rcases hypothesis behind with orphaned | ⟨other, among, claimed⟩
          · exact Or.inl orphaned
          · exact Or.inr ⟨other, List.mem_cons_of_mem probed among, claimed⟩

/-- Nothing joins the view of a vertex that is not met. -/
theorem entriesFor_ledger_eq_nil
    {visits : List Probed}
    {id : VertexId}
    (apart : ∀ probed ∈ visits, probed.id ≠ id) :
    Settled.entriesFor id (lane.ledger policy visits) = [] := by
  rw [Settled.entriesFor, List.filterMap_eq_nil_iff]
  intro settled member
  apply if_neg
  intro attached
  rcases mem_ledger member with orphaned | ⟨other, among, claimed, -⟩
  · rw [attached] at orphaned
    cases orphaned
  · rw [attached] at claimed
    exact apart other among (Probed.fate_eq_attached.1 claimed.symm).2

/-- What a lane goes through for a vertex does not join the view of another one. -/
theorem entriesFor_fates_eq_nil
    {items : List Item}
    {id : VertexId}
    (other : probed.id ≠ id) :
    Settled.entriesFor id (fates probed items) = [] := by
  rw [Settled.entriesFor, List.filterMap_eq_nil_iff]
  intro settled member
  apply if_neg
  intro attached
  rcases mem_fates member with orphaned | ⟨claimed, -⟩
  · rw [attached] at orphaned
    cases orphaned
  · rw [attached] at claimed
    exact other (Probed.fate_eq_attached.1 claimed.symm).2

/-- The item that a lane holds in the end is an orphan. -/
theorem orphans_unclaimed (lane : Lane) :
    Settled.orphans lane.unclaimed = if lane.held.isSome then 1 else 0 := by
  rw [unclaimed]
  cases lane.held <;> rfl

end Seek

/-- Lanes advanced to a vertex one after another. -/
def Seeks (policy : FailurePolicy) (id : VertexId) :
    List Lane -> List Sought -> Prop :=
  List.Forall₂ fun lane found => lane.seek policy id = .ok found

theorem seeks_of_seekAll
    {policy : FailurePolicy}
    {id : VertexId}
    {lanes : List Lane}
    {sought : List Sought}
    (seeks : seekAll policy id lanes = .ok sought) :
    Seeks policy id lanes sought := by
  induction lanes generalizing sought with
  | nil =>
      cases seeks
      exact List.Forall₂.nil
  | cons lane lanes hypothesis =>
      obtain ⟨found, first, seeks⟩ := exists_of_bind_eq_ok seeks
      obtain ⟨others, behind, made⟩ := exists_of_bind_eq_ok seeks
      cases made
      exact List.Forall₂.cons first (hypothesis behind)

/-- The number of orphans in the ledgers of some lanes. -/
def orphansOf
    (policy : FailurePolicy)
    (visits : List Probed)
    (lanes : List Lane) : Nat :=
  (lanes.map fun lane => Settled.orphans (lane.ledger policy visits)).sum

/-- What the ledgers of some lanes have for the view of a vertex, by query. -/
def entriesFor
    (policy : FailurePolicy)
    (visits : List Probed)
    (lanes : List Lane)
    (id : VertexId) : List (Slice × List Entry) :=
  lanes.flatMap fun lane =>
    (Settled.entriesFor id (lane.ledger policy visits)).map fun entries =>
      (lane.query, entries)

section Seeks

variable
  {policy : FailurePolicy}
  {probed : Probed}
  {visits : List Probed}
  {lanes : List Lane}
  {sought : List Sought}

/-- The items that lanes drop on the way to a vertex are the orphans by then. -/
theorem orphansOf_cons (seeks : Seeks policy probed.id lanes sought) :
    orphansOf policy (probed :: visits) lanes =
      Sought.totalDropped sought +
        orphansOf policy visits (sought.map Sought.lane) := by
  unfold orphansOf
  induction seeks with
  | nil => rfl
  | @cons lane found lanes sought head _ hypothesis =>
      rw [List.map_cons, List.sum_cons, hypothesis, ledger_cons head,
        Settled.orphans_append, ← (finds_of_seek head).dropped,
        Sought.totalDropped, List.map_cons, List.map_cons, List.sum_cons]
      omega

/-- What lanes have found for a vertex that exists joins its view, and no later vertex
adds to it. -/
theorem entriesFor_cons_self
    (seeks : Seeks policy probed.id lanes sought)
    (live : probed.live)
    (later : ∀ other ∈ visits, probed.id < other.id) :
    entriesFor policy (probed :: visits) lanes probed.id =
      Sought.fetched sought := by
  unfold entriesFor
  induction seeks with
  | nil => rfl
  | @cons lane found lanes sought head _ hypothesis =>
      have finds := finds_of_seek head
      have behind : Settled.entriesFor probed.id
          (found.lane.ledger policy visits) = [] :=
        entriesFor_ledger_eq_nil fun other among =>
          Ne.symm (Int64.ne_of_lt (later other among))
      rw [List.flatMap_cons, hypothesis, ledger_cons head,
        Settled.entriesFor_append, ← finds.entries live, behind,
        List.append_nil, Sought.fetched, Sought.fetched, List.filterMap_cons,
        finds.query]
      cases found.entries <;> rfl

/-- A vertex adds nothing to the views of others. -/
theorem entriesFor_cons_other
    {id : VertexId}
    (seeks : Seeks policy probed.id lanes sought)
    (other : probed.id ≠ id) :
    entriesFor policy (probed :: visits) lanes id =
      entriesFor policy visits (sought.map Sought.lane) id := by
  unfold entriesFor
  induction seeks with
  | nil => rfl
  | @cons lane found lanes sought head _ hypothesis =>
      rw [List.flatMap_cons, hypothesis, ledger_cons head,
        Settled.entriesFor_append, entriesFor_fates_eq_nil other,
        List.nil_append, List.map_cons, List.flatMap_cons,
        (finds_of_seek head).query]

/-- The items of a lane are those in its ledger and those not taken by the end. -/
def Exhausts
    (policy : FailurePolicy)
    (visits : List Probed)
    (lane final : Lane) : Prop :=
  lane.pending =
    (lane.ledger policy visits).map Settled.item ++ final.rest

/-- Where the lanes go on from a vertex, their ledgers do. -/
theorem exhausts_cons
    {finals : List Lane}
    (seeks : Seeks policy probed.id lanes sought)
    (taken : List.Forall₂ (Exhausts policy visits) (sought.map Sought.lane)
      finals) :
    List.Forall₂ (Exhausts policy (probed :: visits)) lanes finals := by
  induction seeks generalizing finals with
  | nil =>
      cases taken
      exact List.Forall₂.nil
  | @cons lane found lanes sought head _ hypothesis =>
      cases taken with
      | cons first others =>
          refine List.Forall₂.cons ?_ (hypothesis others)
          rw [Exhausts, ledger_cons head, List.map_append, List.append_assoc,
            ← first]
          exact (finds_of_seek head).pending

end Seeks

end Lane

namespace Account

/-- A vertex is past that does not come after the one met last. -/
theorem any_last (account : Account) (id : VertexId) :
    (account.last.any fun past => id ≤ past) = account.isPast id := by
  rw [isPast]
  cases account.last <;> rfl

end Account

namespace Course

/-- What the end of a join has to do with the ledgers of its lanes for the vertices
met on the way. -/
structure Settles
    (policy : FailurePolicy)
    (visits : List Probed)
    (course last : Course) : Prop where
  taken : List.Forall₂ (Lane.Exhausts policy visits) course.lanes last.lanes
  orphans : last.close.tally.orphans =
    course.account.tally.orphans + Lane.orphansOf policy visits course.lanes
  views : ∀ view ∈ last.account.views,
    view ∈ course.account.views ∨
      (view.id ∈ visits.map Probed.id ∧
        view.fetched = Lane.entriesFor policy visits course.lanes view.id)

section Settles

variable
  {policy : FailurePolicy}
  {visits : List Probed}
  {course last : Course}

/-- Nothing becomes of the items any more but of those held. -/
theorem Settles.nil (policy : FailurePolicy) (course : Course) :
    course.Settles policy [] course := by
  refine ⟨?_, ?_, fun view member => Or.inl member⟩
  · apply List.forall₂_same.2
    intro lane _
    rw [Lane.Exhausts, Lane.ledger, Lane.unclaimed, List.map_map, Lane.pending]
    cases lane.held <;> rfl
  · have held : (course.lanes.filter fun lane => lane.held.isSome).length =
        Lane.orphansOf policy [] course.lanes := by
      rw [Lane.orphansOf]
      induction course.lanes with
      | nil => rfl
      | cons lane lanes hypothesis =>
          rw [List.map_cons, List.sum_cons, ← hypothesis, Lane.ledger,
            Lane.orphans_unclaimed, List.filter_cons]
          cases lane.held.isSome
          · exact (Nat.zero_add _).symm
          · exact Nat.add_comm _ 1
    rw [← held]
    rfl

/-- A vertex met by all lanes before the rest of the join. -/
theorem Settles.meet
    {probed : Probed}
    {sought : List Sought}
    (seeks : Lane.Seeks policy probed.id course.lanes sought)
    (later : ∀ other ∈ visits, probed.id < other.id)
    (settles : Settles policy visits
      ⟨((course.account.meet probed.id).drop
          (Sought.totalDropped sought)).settle probed.live
            ⟨probed.id, Sought.fetched sought⟩,
        sought.map Sought.lane⟩ last) :
    course.Settles policy (probed :: visits) last := by
  obtain ⟨taken, orphans, views⟩ := settles
  refine ⟨Lane.exhausts_cons seeks taken, ?_, ?_⟩
  · rw [orphans, Lane.orphansOf_cons seeks, ← Nat.add_assoc]
    cases probed.live <;> rfl
  · intro view member
    rcases views view member with before | ⟨met, fetched⟩
    · cases live : probed.live with
      | false =>
          rw [live] at before
          exact Or.inl before
      | true =>
          rw [live] at before
          rcases List.mem_append.1 before with earlier | here
          · exact Or.inl earlier
          · rw [List.mem_singleton.1 here]
            exact Or.inr ⟨List.mem_cons_self,
              (Lane.entriesFor_cons_self seeks live later).symm⟩
    · obtain ⟨other, among, same⟩ := List.mem_map.1 met
      have apart : probed.id ≠ view.id :=
        same ▸ Int64.ne_of_lt (later other among)
      refine Or.inr ⟨List.mem_cons_of_mem probed.id met, ?_⟩
      rw [fetched, Lane.entriesFor_cons_other seeks apart]

/-- All that a step of a join can do, the program apart. -/
theorem step_cases
    {next : Course}
    {item : Item}
    (made : course.step policy item = .ok next) :
    (course.account.isPast item.id = true ∧
        next = { course with account := course.account.skip }) ∨
      (course.account.isPast item.id = false ∧
        ∃ sought, Lane.Seeks policy item.id course.lanes sought ∧
          next = ⟨((course.account.meet item.id).drop
              (Sought.totalDropped sought)).settle item.isLive
                ⟨item.id, Sought.fetched sought⟩,
            sought.map Sought.lane⟩) := by
  unfold step at made
  split at made
  · next past =>
    cases made
    exact Or.inl ⟨past, rfl⟩
  · next fresh =>
    obtain ⟨live, exist, made⟩ := exists_of_bind_eq_ok made
    obtain ⟨sought, seeks, made⟩ := exists_of_bind_eq_ok made
    cases made
    obtain ⟨-, rfl⟩ := Item.of_exists? exist
    exact Or.inr ⟨by simpa using fresh, sought, Lane.seeks_of_seekAll seeks,
      rfl⟩

/-- A join that has come to its end has settled the items of its lanes for the vertices
that it has handled. -/
theorem settles_of_run
    {ending : FeedEnd}
    {items : List Item}
    (runs : course.run policy ending items = .ok last) :
    course.Settles policy
      ((Item.handledAfter course.account.last items).map Item.probed) last := by
  induction items generalizing course with
  | nil =>
      obtain ⟨_, -, ended⟩ := exists_of_bind_eq_ok runs
      cases ended
      exact Settles.nil policy _
  | cons item rest hypothesis =>
      obtain ⟨next, made, runs⟩ := exists_of_bind_eq_ok runs
      have settles := hypothesis runs
      rcases step_cases made with
        ⟨past, rfl⟩ | ⟨fresh, sought, seeks, rfl⟩
      · rw [← course.account.any_last] at past
        rw [Item.handledAfter, if_pos past]
        exact ⟨settles.taken, settles.orphans, settles.views⟩
      · rw [← course.account.any_last] at fresh
        rw [Item.handledAfter, if_neg (by simp [fresh]), List.map_cons]
        refine Settles.meet seeks ?_ ?_
        · intro other among
          obtain ⟨named, later, rfl⟩ := List.mem_map.1 among
          exact Item.lt_of_mem_handledAfter later
        · have met : (((course.account.meet item.id).drop
              (Sought.totalDropped sought)).settle item.isLive
                ⟨item.id, Sought.fetched sought⟩).last = some item.id := by
            cases item.isLive <;> rfl
          rw [met] at settles
          exact settles

end Settles
end Course
end GraphSweep
