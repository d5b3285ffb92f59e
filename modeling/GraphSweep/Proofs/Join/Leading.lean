import GraphSweep.Proofs.Join.Ascending
import Mathlib.Data.List.Induction

/-!
# Joins of streams in any order

Whatever the order in which the first stream names vertices, a join handles an item
exactly when its vertex comes after those of all items before it. An item that is
handled is dispatched or counted as deleted, by what its probe says, and all others
are counted as out of order.
-/

namespace GraphSweep

namespace Item

/-- The items whose vertices come after those of all items before them. -/
def leading (items : List Item) : List Item :=
  (items.zipIdx.filter fun entry =>
    allBefore (items.take entry.2) entry.1.id).map Prod.fst

theorem allBefore_concat
    (items : List Item)
    (item : Item)
    (id : VertexId) :
    allBefore (items ++ [item]) id =
      (allBefore items id && decide (item.id < id)) := by
  simp [allBefore]

/-- Items that come before a vertex come before any later one. -/
theorem allBefore_trans
    {items : List Item}
    {id later : VertexId}
    (before : allBefore items id)
    (earlier : id < later) :
    allBefore items later := by
  rw [allBefore, List.all_eq_true] at before ⊢
  intro item member
  have first : item.id < id := by simpa using before item member
  simpa using Int64.lt_trans first earlier

/-- Whether an item is among the leading ones does not depend on those behind it. -/
theorem leading_concat (items : List Item) (item : Item) :
    leading (items ++ [item]) =
      leading items ++ if allBefore items item.id then [item] else [] := by
  have earlier : items.zipIdx.filter (fun entry =>
      allBefore ((items ++ [item]).take entry.2) entry.1.id) =
      items.zipIdx.filter fun entry =>
        allBefore (items.take entry.2) entry.1.id := by
    apply List.filter_congr
    intro entry member
    have within : entry.2 < items.length :=
      List.snd_lt_of_mem_zipIdx member
    rw [List.take_append_of_le_length (Nat.le_of_lt within)]
  have last : (items ++ [item]).take items.length = items :=
    List.take_left
  rw [leading, List.zipIdx_append, List.filter_append, earlier,
    List.map_append, ← leading, List.zipIdx_singleton, Nat.zero_add,
    List.filter_singleton, last]
  cases allBefore items item.id <;> rfl

/-- Leading items are items. -/
theorem mem_of_mem_leading
    {items : List Item}
    {item : Item}
    (member : item ∈ leading items) :
    item ∈ items := by
  obtain ⟨entry, among, rfl⟩ := List.mem_map.1 member
  exact List.fst_mem_of_mem_zipIdx (List.mem_of_mem_filter among)

/-- The vertices of leading items strictly ascend. -/
theorem ascend_leading (items : List Item) : Ascend (leading items) := by
  induction items using List.reverseRecOn with
  | nil => exact List.Pairwise.nil
  | append_singleton items item hypothesis =>
      rw [leading_concat]
      split
      · next before =>
        rw [Ascend, List.pairwise_append]
        refine ⟨hypothesis, List.pairwise_singleton _ _, ?_⟩
        intro other among here same
        rw [List.mem_singleton.1 same]
        rw [allBefore, List.all_eq_true] at before
        simpa using before other (mem_of_mem_leading among)
      · rw [List.append_nil]
        exact hypothesis

/-- The items that a join comes to handle which has met a vertex last: each of them
comes after those before it and after that vertex. -/
def handledAfter (last : Option VertexId) : List Item -> List Item
  | [] => []
  | item :: rest =>
      if last.any fun past => item.id ≤ past then handledAfter last rest
      else item :: handledAfter (some item.id) rest

/-- The first item is a leading one, and of the others those that come after it. -/
theorem leading_cons (item : Item) (rest : List Item) :
    leading (item :: rest) = item :: after (leading rest) item.id := by
  have numbered : rest.zipIdx 1 =
      rest.zipIdx.map fun entry => (entry.1, entry.2 + 1) :=
    List.zipIdx_succ
  have first : allBefore ([] : List Item) item.id = true := rfl
  rw [leading, List.zipIdx_cons, List.filter_cons, List.take_zero, first,
    if_pos rfl, List.map_cons, numbered, List.filter_map, List.map_map, after,
    leading, List.filter_map, List.filter_filter]
  rfl

/-- Where vertices ascend, all items are leading ones. -/
theorem leading_of_ascend {items : List Item} (ascend : Ascend items) :
    leading items = items := by
  induction items with
  | nil => rfl
  | cons item rest hypothesis =>
      obtain ⟨first, ascendRest⟩ := List.pairwise_cons.1 ascend
      have behind : after rest item.id = rest := by
        rw [after, List.filter_eq_self]
        intro other member
        exact decide_eq_true (first other member)
      rw [leading_cons, hypothesis ascendRest, behind]

theorem handledAfter_some (items : List Item) (past : VertexId) :
    handledAfter (some past) items = after (leading items) past := by
  induction items generalizing past with
  | nil => rfl
  | cons item rest hypothesis =>
      rw [handledAfter, leading_cons]
      by_cases reached : item.id ≤ past
      · have early : ¬past < item.id := Int64.not_lt.2 reached
        rw [if_pos (by simpa using reached), hypothesis, after, after,
          List.filter_cons_of_neg (by simpa using early), after,
          List.filter_filter]
        apply List.filter_congr
        intro other _
        by_cases later : past < other.id
        · simp [later, Int64.lt_of_le_of_lt reached later]
        · simp [later]
      · have later : past < item.id := Int64.not_le.1 reached
        rw [if_neg (by simpa using reached), hypothesis, after, after,
          List.filter_cons_of_pos (by simpa using later), List.filter_filter]
        congr 1
        apply List.filter_congr
        intro other _
        by_cases behind : item.id < other.id
        · simp [behind, Int64.lt_trans later behind]
        · simp [behind]

/-- A join handles the leading items. -/
theorem handledAfter_none (items : List Item) :
    handledAfter none items = leading items := by
  cases items with
  | nil => rfl
  | cons item rest =>
      rw [handledAfter, leading_cons, ← handledAfter_some]
      rfl

/-- The vertices handled come after the vertex met last. -/
theorem lt_of_mem_handledAfter
    {past : VertexId}
    {items : List Item}
    {item : Item}
    (member : item ∈ handledAfter (some past) items) :
    past < item.id := by
  rw [handledAfter_some] at member
  simpa using (List.mem_filter.1 member).2

end Item

namespace Account

/-- What is noted when some items of the first stream have been handled. -/
structure Covers (items : List Item) (account : Account) : Prop where
  past : ∀ id, account.isPast id = !Item.allBefore items id
  readable : ∀ item ∈ Item.leading items, item.failures = []
  views : account.views.map View.id =
    ((Item.leading items).filter Item.isLive).map Item.id
  dispatched : account.tally.dispatched = account.views.length
  deleted : account.tally.deleted =
    ((Item.leading items).filter fun item => !item.isLive).length
  disordered : account.tally.disordered + (Item.leading items).length =
    items.length
  partitioned : account.tally.sawPartitioned =
    account.views.any View.isPartitioned

namespace Covers

variable {account : Account} {items : List Item}

theorem blank : Account.blank.Covers [] := by
  refine ⟨fun id => rfl, ?_, rfl, rfl, rfl, rfl, rfl⟩
  intro item member
  cases member

theorem drop (covers : account.Covers items) (count : Nat) :
    (account.drop count).Covers items :=
  ⟨covers.past, covers.readable, covers.views, covers.dispatched,
    covers.deleted, covers.disordered, covers.partitioned⟩

/-- An item whose vertex is past is skipped. -/
theorem skip
    {item : Item}
    (covers : account.Covers items)
    (past : account.isPast item.id) :
    account.skip.Covers (items ++ [item]) := by
  rw [covers.past, Bool.not_eq_true'] at past
  have same : Item.leading (items ++ [item]) = Item.leading items := by
    rw [Item.leading_concat, past]
    exact List.append_nil _
  refine ⟨?_, ?_, ?_, covers.dispatched, ?_, ?_, covers.partitioned⟩
  · intro id
    have kept : account.skip.isPast id = account.isPast id := rfl
    rw [kept, covers.past, Item.allBefore_concat]
    by_cases later : item.id < id
    · simp [later]
    · have reached : Item.allBefore items id = false := by
        rw [Bool.eq_false_iff]
        intro before
        rcases Int64.lt_or_eq_of_le (Int64.not_lt.1 later) with earlier | equal
        · rw [Item.allBefore_trans before earlier] at past
          cases past
        · rw [equal, past] at before
          cases before
      simp [reached]
  · rw [same]
    exact covers.readable
  · rw [same]
    exact covers.views
  · rw [same]
    exact covers.deleted
  · have counted := covers.disordered
    rw [same, List.length_append, List.length_singleton, ← counted]
    exact Nat.add_right_comm _ 1 _

/-- An item whose vertex is not past is handled by what its probe says. -/
theorem settle
    {item : Item}
    {live : Bool}
    {view : View}
    (covers : account.Covers items)
    (fresh : account.isPast item.id = false)
    (exist : item.exists? = .ok live)
    (same : view.id = item.id)
    (count : Nat) :
    (((account.meet item.id).drop count).settle live view).Covers
      (items ++ [item]) := by
  rw [covers.past, Bool.not_eq_false'] at fresh
  have leading : Item.leading (items ++ [item]) =
      Item.leading items ++ [item] := by
    rw [Item.leading_concat, if_pos fresh]
  obtain ⟨readable, rfl⟩ := Item.of_exists? exist
  have past (settled : Account) (met : settled.last = some item.id) :
      ∀ id, settled.isPast id = !Item.allBefore (items ++ [item]) id := by
    intro id
    rw [Account.isPast, met, Item.allBefore_concat]
    by_cases later : item.id < id
    · have reached : ¬id ≤ item.id := Int64.not_le.2 later
      simp [later, reached, Item.allBefore_trans fresh later]
    · have reached : id ≤ item.id := Int64.not_lt.1 later
      simp [later, reached]
  have readableAll : ∀ other ∈ Item.leading (items ++ [item]),
      other.failures = [] := by
    rw [leading]
    intro other member
    rcases List.mem_append.1 member with earlier | here
    · exact covers.readable other earlier
    · rw [List.mem_singleton.1 here]
      exact readable
  have counted := covers.disordered
  cases live : item.isLive with
  | true =>
      refine ⟨past _ rfl, readableAll, ?_, ?_, ?_, ?_, ?_⟩
      · rw [leading, List.filter_append, List.map_append, ← covers.views]
        simp [Account.settle, Account.dispatch, Account.meet, Account.drop,
          live, same]
      · have dispatched := covers.dispatched
        simp [Account.settle, Account.dispatch, Account.meet, Account.drop,
          dispatched]
      · have deleted := covers.deleted
        rw [leading, List.filter_append]
        simpa [Account.settle, Account.dispatch, Account.meet, Account.drop,
          live] using deleted
      · rw [leading, List.length_append, List.length_append, ← counted]
        simp [Account.settle, Account.dispatch, Account.meet, Account.drop]
        omega
      · simp [Account.settle, Account.dispatch, Account.meet, Account.drop,
          covers.partitioned]
  | false =>
      refine ⟨past _ rfl, readableAll, ?_, covers.dispatched, ?_, ?_,
        covers.partitioned⟩
      · rw [leading, List.filter_append, List.map_append, ← covers.views]
        simp [Account.settle, Account.delete, Account.meet, Account.drop, live]
      · have deleted := covers.deleted
        rw [leading, List.filter_append]
        simp [Account.settle, Account.delete, Account.meet, Account.drop,
          live, deleted]
      · rw [leading, List.length_append, List.length_append, ← counted]
        simp [Account.settle, Account.delete, Account.meet, Account.drop]
        omega

/-- Handling one item more is noted. -/
theorem step
    {policy : FailurePolicy}
    {course next : Course}
    {item : Item}
    (covers : course.account.Covers items)
    (made : course.step policy item = .ok next) :
    next.account.Covers (items ++ [item]) := by
  unfold Course.step at made
  split at made
  · next past =>
    cases made
    exact covers.skip past
  · next fresh =>
    obtain ⟨live, exist, made⟩ := exists_of_bind_eq_ok made
    obtain ⟨sought, -, made⟩ := exists_of_bind_eq_ok made
    cases made
    exact covers.settle (by simpa using fresh) exist rfl _

/-- A join that has come to its end has noted all items of the first stream. -/
theorem run
    {policy : FailurePolicy}
    {ending : FeedEnd}
    {course last : Course}
    {rest : List Item}
    (covers : course.account.Covers items)
    (runs : course.run policy ending rest = .ok last) :
    last.account.Covers (items ++ rest) := by
  induction rest generalizing course items with
  | nil =>
      obtain ⟨_, -, ended⟩ := exists_of_bind_eq_ok runs
      cases ended
      rw [List.append_nil]
      exact covers
  | cons item rest hypothesis =>
      obtain ⟨next, made, runs⟩ := exists_of_bind_eq_ok runs
      rw [List.append_cons]
      exact hypothesis (covers.step made) runs

end Covers
end Account
end GraphSweep
