import GraphSweep.Proofs.GraphStore.Scan
import Mathlib.Data.List.Induction
import Mathlib.Data.List.Nodup
import Mathlib.Logic.Function.Basic

/-!
# What is done to cursors

Cursors of a transaction are opened, read, closed and dropped in any order, and the
transaction is rolled back. What has been done tells which of the cursors are open: those
that have been opened, and neither closed nor dropped since. The counts of the transaction
are what has been done. A cursor reads on as if nothing were done to any other one, until
it is closed.
-/

namespace GraphSweep

/-- What has been done by hand, with what it was answered with. -/
inductive CursorEvent
  | opened (name : String) (query : Slice)
  | refused (name : String) (query : Slice) (error : StorageError)
  | read (name : String) (answer : ReadAnswer)
  | closed (name : String)
  | dropped (name : String)
  | rolledBack

namespace CursorEvent

/-- The names that an event gives to a new cursor. -/
def opens : CursorEvent -> List String
  | opened name _ => [name]
  | refused _ _ _ | read _ _ | closed _ | dropped _ | rolledBack => []

/-- Whether an event drops the cursor of a name. Opening another one under it does. -/
def drops (name : String) : CursorEvent -> Bool
  | opened other _ | dropped other => name == other
  | refused _ _ _ | read _ _ | closed _ | rolledBack => false

/-- Whether an event closes the cursor of a name. Dropping it does. -/
def closes (name : String) : CursorEvent -> Bool
  | opened other _ | closed other | dropped other => name == other
  | refused _ _ _ | read _ _ | rolledBack => false

/-- Whether an event rolls the transaction back. -/
def releases : CursorEvent -> Bool
  | rolledBack => true
  | opened _ _ | refused _ _ _ | read _ _ | closed _ | dropped _ => false

/-- What an event reads of a name. -/
def answer? (name : String) : CursorEvent -> Option ReadAnswer
  | read other answer => if name = other then some answer else none
  | opened _ _ | refused _ _ _ | closed _ | dropped _ | rolledBack => none

/-- How many cursors have been opened. -/
def openings (events : List CursorEvent) : Nat :=
  (events.flatMap opens).length

/-- The names of the opened cursors that nothing has closed or dropped since. -/
def unclosed : List CursorEvent -> List String
  | [] => []
  | event :: later =>
      (event.opens.filter fun name => !later.any (closes name)) ++
        unclosed later

/-- What has been read of a name. -/
def answers (name : String) (events : List CursorEvent) : List ReadAnswer :=
  events.filterMap (answer? name)

variable {name : String} {event : CursorEvent}

theorem openings_concat (events : List CursorEvent) (event : CursorEvent) :
    openings (events ++ [event]) = openings events + event.opens.length := by
  simp [openings]

/-- A name that is given to a new cursor is taken from the one before. -/
theorem closes_of_mem_opens (opened : name ∈ event.opens) :
    event.closes name = true := by
  cases event with
  | opened other query =>
      rw [List.mem_singleton.1 opened]
      exact beq_self_eq_true other
  | refused | read | closed | dropped | rolledBack => cases opened

/-- What drops a cursor closes it. -/
theorem drops_of_closes
    (event : CursorEvent)
    (kept : event.closes name = false) :
    event.drops name = false := by
  cases event with
  | opened | dropped => exact kept
  | refused | read | closed | rolledBack => rfl

theorem nodup_opens (event : CursorEvent) : event.opens.Nodup := by
  cases event with
  | opened name query => exact List.nodup_singleton name
  | refused | read | closed | dropped | rolledBack => exact List.nodup_nil

/-- The last event takes the names that it closes and adds the one that it opens. -/
theorem unclosed_concat (events : List CursorEvent) (event : CursorEvent) :
    unclosed (events ++ [event]) =
      ((unclosed events).filter fun name => !event.closes name) ++
        event.opens := by
  induction events with
  | nil => simp [unclosed]
  | cons first rest hypothesis =>
      rw [List.cons_append, unclosed, unclosed, hypothesis, List.filter_append,
        List.append_assoc, List.filter_filter]
      congr 2
      funext name
      simp [Bool.and_comm]

theorem mem_unclosed_concat {events : List CursorEvent} :
    name ∈ unclosed (events ++ [event]) ↔
      name ∈ unclosed events ∧ event.closes name = false ∨
        name ∈ event.opens := by
  simp [unclosed_concat]

/-- No two of the cursors that are open share a name. -/
theorem nodup_unclosed (events : List CursorEvent) :
    (unclosed events).Nodup := by
  induction events using List.reverseRecOn with
  | nil => exact List.nodup_nil
  | append_singleton events event hypothesis =>
      rw [unclosed_concat, List.nodup_append]
      refine ⟨hypothesis.filter _, event.nodup_opens, ?_⟩
      rintro name member other opened rfl
      have kept := (List.mem_filter.1 member).2
      rw [closes_of_mem_opens opened] at kept
      cases kept

/-- An event that closes the cursor of one name makes one cursor less, if there is one. -/
theorem length_unclosed_concat
    (events : List CursorEvent)
    (closes : ∀ other, event.closes other = (other == name)) :
    (unclosed (events ++ [event])).length =
      (unclosed events).length + event.opens.length -
        (decide (name ∈ unclosed events)).toNat := by
  have erased : ((unclosed events).filter fun other => !event.closes other) =
      (unclosed events).erase name := by
    rw [(nodup_unclosed events).erase_eq_filter]
    congr 1
    funext other
    rw [closes]
    rfl
  rw [unclosed_concat, List.length_append, erased, List.length_erase]
  by_cases member : name ∈ unclosed events
  · have some := List.length_pos_of_mem member
    simp only [member, if_true, decide_true, Bool.toNat_true]
    omega
  · simp [member]

/-- An event that closes nothing leaves as many cursors open as there are. -/
theorem unclosed_concat_of_keeps
    (events : List CursorEvent)
    (closes : ∀ other, event.closes other = false)
    (opens : event.opens = []) :
    unclosed (events ++ [event]) = unclosed events := by
  simp [unclosed_concat, closes, opens]

end CursorEvent

/-! ## Closing -/

namespace Cursor

/-- The cursor once it is closed. -/
def shut (cursor : Cursor) : Cursor := { cursor with closed := true }

@[simp] theorem closed_pause (cursor : Cursor) :
    cursor.pause.2.closed = cursor.closed := by
  unfold pause
  split
  · split <;> rfl
  · rfl

@[simp] theorem closed_next (cursor : Cursor) :
    cursor.next.2.closed = cursor.closed := by
  unfold next
  split
  · rfl
  · split
    · rfl
    · split <;> rfl

/-- From a cursor that is closed nothing can be read. -/
theorem next_of_closed {cursor : Cursor} (closed : cursor.closed = true) :
    cursor.next.1 = .error (.closed .cursor) := by
  rw [next, if_pos closed]

end Cursor

namespace Transaction

variable (transaction : Transaction)

/-- The transaction once another cursor is opened. -/
def counted : Transaction :=
  { transaction with
    opened := transaction.opened + 1
    openNow := transaction.openNow + 1 }

/-- The transaction once a cursor is closed, if there is one. -/
def letGo : Option Cursor -> Transaction
  | none => transaction
  | some cursor => (transaction.closeCursor cursor).2

@[simp] theorem closeCursor_fst (cursor : Cursor) :
    (transaction.closeCursor cursor).1 = cursor.shut := by
  obtain ⟨query, pending, yielded, failsAfter, stall, closed⟩ := cursor
  cases closed <;> rfl

/-- Closing takes an open cursor off the count, and changes nothing else. -/
theorem letGo_eq (held : Option Cursor) :
    transaction.letGo held =
      { transaction with
        openNow := transaction.openNow -
          (held.any fun cursor => !cursor.closed).toNat } := by
  cases held with
  | none => rfl
  | some cursor =>
      rw [letGo, closeCursor]
      cases closed : cursor.closed <;> simp [closed]

variable {transaction}

theorem openCursor_of_released
    (released : transaction.released = true)
    (query : Slice) :
    transaction.openCursor query =
      (.error (.closed .transaction), transaction) := by
  rw [openCursor, if_pos released]

theorem openCursor_of_unreleased
    (unreleased : transaction.released = false)
    (query : Slice) :
    transaction.openCursor query =
      (.ok (transaction.cursor query), transaction.counted) := by
  rw [openCursor, if_neg (Bool.eq_false_iff.1 unreleased)]
  rfl

end Transaction

/-! ## What is held -/

/-- A transaction with those of its cursors that have not been dropped, by name. -/
structure Holding where
  transaction : Transaction
  cursors : String -> Option Cursor

namespace Holding

/-- A transaction without cursors. -/
def ofTransaction (transaction : Transaction) : Holding :=
  ⟨transaction, fun _ => none⟩

/-- What is held once a name has another cursor, or none any more. -/
def put
    (holding : Holding)
    (transaction : Transaction)
    (name : String)
    (held : Option Cursor) : Holding :=
  ⟨transaction, Function.update holding.cursors name held⟩

/-- Whether a name has a cursor that is open. -/
def hasOpen (holding : Holding) (name : String) : Bool :=
  (holding.cursors name).any fun cursor => !cursor.closed

/-- What something done by hand is answered with, and what it leaves. -/
inductive Turn (holding : Holding) : CursorEvent -> Holding -> Prop
  | opens
      (name : String)
      (query : Slice)
      (unreleased : holding.transaction.released = false) :
      Turn holding (.opened name query)
        (holding.put
          (holding.transaction.counted.letGo (holding.cursors name)) name
          (some (holding.transaction.cursor query)))
  | refuses
      (name : String)
      (query : Slice)
      (released : holding.transaction.released = true) :
      Turn holding (.refused name query (.closed .transaction)) holding
  | reads
      (name : String)
      (cursor : Cursor)
      (held : holding.cursors name = some cursor) :
      Turn holding (.read name (.ofNext cursor.pause.2.next.1))
        (holding.put holding.transaction name
          (some cursor.pause.2.next.2))
  | misses (name : String) (unheld : holding.cursors name = none) :
      Turn holding (.read name .drained) holding
  | closes (name : String) :
      Turn holding (.closed name)
        (holding.put (holding.transaction.letGo (holding.cursors name)) name
          ((holding.cursors name).map Cursor.shut))
  | drops (name : String) :
      Turn holding (.dropped name)
        (holding.put (holding.transaction.letGo (holding.cursors name)) name
          none)
  | releases :
      Turn holding .rolledBack
        ⟨holding.transaction.rollback, holding.cursors⟩

/-- What things done by hand one after another come to. -/
inductive Course : Holding -> List CursorEvent -> Holding -> Prop
  | nil (holding : Holding) : Course holding [] holding
  | cons
      {holding next last : Holding}
      {event : CursorEvent}
      {events : List CursorEvent}
      (turn : Turn holding event next)
      (course : Course next events last) :
      Course holding (event :: events) last

variable
  {holding next last : Holding}
  {event : CursorEvent}
  {events : List CursorEvent}
  {name : String}
  {cursor : Cursor}

@[simp] theorem put_cursors_self
    (holding : Holding)
    (transaction : Transaction)
    (name : String)
    (held : Option Cursor) :
    (holding.put transaction name held).cursors name = held := by
  simp [put]

theorem put_cursors_of_ne
    {other : String}
    (holding : Holding)
    (transaction : Transaction)
    (held : Option Cursor)
    (apart : other ≠ name) :
    (holding.put transaction name held).cursors other =
      holding.cursors other := by
  simp [put, apart]

theorem put_put
    (holding : Holding)
    (transaction changed : Transaction)
    (name : String)
    (first second : Option Cursor) :
    (holding.put transaction name first).put changed name second =
      holding.put changed name second := by
  rw [put, put, put, Function.update_idem]

theorem put_eq_self
    {held : Option Cursor}
    (same : holding.cursors name = held) :
    holding.put holding.transaction name held = holding := by
  rw [put, ← same, Function.update_eq_self]

theorem Course.append_inv
    {before after : List CursorEvent}
    (course : Course holding (before ++ after) last) :
    ∃ next, Course holding before next ∧ Course next after last := by
  induction before generalizing holding with
  | nil => exact ⟨holding, .nil holding, course⟩
  | cons event before hypothesis =>
      obtain _ | ⟨turn, course⟩ := course
      obtain ⟨next, first, second⟩ := hypothesis course
      exact ⟨next, .cons turn first, second⟩

/-! ### The counts -/

/-- What a transaction on a store has counted is what has been done. -/
structure Accounts
    (store : GraphStore)
    (past : List CursorEvent)
    (holding : Holding) : Prop where
  counts : holding.transaction =
    ⟨store.table, store.faults, CursorEvent.openings past,
      (CursorEvent.unclosed past).length, past.any CursorEvent.releases⟩
  holds : ∀ name, holding.hasOpen name =
    decide (name ∈ CursorEvent.unclosed past)

/-- Nothing has been done to a transaction that has just begun. -/
theorem accounts_begin (store : GraphStore) :
    Accounts store [] (ofTransaction (Transaction.begin store)) :=
  ⟨rfl, fun _ => rfl⟩

theorem hasOpen_put
    (transaction : Transaction)
    (held : Option Cursor)
    (other : String) :
    (holding.put transaction name held).hasOpen other =
      if other = name then held.any fun cursor => !cursor.closed
      else holding.hasOpen other := by
  rw [hasOpen]
  split
  · next same => rw [same, put_cursors_self]
  · next apart =>
    rw [put_cursors_of_ne holding transaction held apart]
    rfl

namespace Accounts

variable {store : GraphStore} {past : List CursorEvent}

/-- The counts are kept where the cursor of a name is closed, if there is one, and the
name is left with an open cursor only if that has just been opened. -/
theorem replace
    {held : Option Cursor}
    (accounts : Accounts store past holding)
    (closes : ∀ other, event.closes other = (other == name))
    (remains : event.releases = false)
    (opens : event.opens =
      if held.any fun cursor => !cursor.closed then [name] else []) :
    Accounts store (past ++ [event])
      (holding.put
        (Transaction.letGo
          { holding.transaction with
            opened := holding.transaction.opened + event.opens.length
            openNow := holding.transaction.openNow + event.opens.length }
          (holding.cursors name))
        name held) where
  counts := by
    have counted : (holding.cursors name).any (fun cursor => !cursor.closed) =
        decide (name ∈ CursorEvent.unclosed past) := accounts.holds name
    rw [put, Transaction.letGo_eq, counted, accounts.counts,
      CursorEvent.openings_concat,
      CursorEvent.length_unclosed_concat past closes, List.any_append]
    simp [remains]
  holds other := by
    have before := accounts.holds other
    rw [hasOpen_put, before, Bool.eq_iff_iff, decide_eq_true_iff,
      CursorEvent.mem_unclosed_concat, closes, opens]
    by_cases same : other = name
    · simp [same]
    · cases held.any fun cursor => !cursor.closed <;> simp [same]

/-- The counts are kept where no cursor is opened or closed. -/
theorem keep
    (accounts : Accounts store past holding)
    (closes : ∀ other, event.closes other = false)
    (opens : event.opens = [])
    (counted : next.transaction =
      { holding.transaction with
        released := holding.transaction.released || event.releases })
    (kept : ∀ other, next.hasOpen other = holding.hasOpen other) :
    Accounts store (past ++ [event]) next where
  counts := by
    rw [counted, accounts.counts, CursorEvent.openings_concat,
      CursorEvent.unclosed_concat_of_keeps past closes opens, opens]
    simp
  holds other := by
    rw [kept, accounts.holds,
      CursorEvent.unclosed_concat_of_keeps past closes opens]

/-- What is done next is counted. -/
theorem turn
    (accounts : Accounts store past holding)
    (turn : Turn holding event next) :
    Accounts store (past ++ [event]) next := by
  cases turn with
  | opens name query unreleased =>
      exact accounts.replace (fun _ => rfl) rfl rfl
  | closes name =>
      refine accounts.replace (fun _ => rfl) rfl ?_
      cases holding.cursors name <;> rfl
  | drops name => exact accounts.replace (fun _ => rfl) rfl rfl
  | refuses name query released | misses name unheld =>
      refine accounts.keep (fun _ => rfl) rfl ?_ fun _ => rfl
      simp [CursorEvent.releases]
  | reads name cursor held =>
      refine accounts.keep (fun _ => rfl) rfl ?_ fun other => ?_
      · simp [CursorEvent.releases, put]
      · rw [hasOpen_put]
        split
        · next same => simp [hasOpen, same, held]
        · rfl
  | releases =>
      refine accounts.keep (fun _ => rfl) rfl ?_ fun _ => rfl
      simp [CursorEvent.releases, Transaction.rollback]

/-- Whatever is done is counted. -/
theorem course
    (accounts : Accounts store past holding)
    (course : Course holding events last) :
    Accounts store (past ++ events) last := by
  -- The past takes up one event after another of what is still to come.
  induction course generalizing past with
  | nil holding => rwa [List.append_nil]
  | cons turn course hypothesis =>
      have whole := hypothesis (accounts.turn turn)
      rwa [List.append_assoc] at whole

end Accounts

/-! ### What is read -/

/-- A name that a cursor has been opened under has that cursor, a fresh one on the store as
it was when the transaction began. -/
theorem Course.exists_fresh_cursor
    {store : GraphStore}
    {before since : List CursorEvent}
    {query : Slice}
    (course : Course (ofTransaction (Transaction.begin store))
      (before ++ .opened name query :: since) last) :
    ∃ opened, Course opened since last ∧
      opened.cursors name = some ((Transaction.begin store).cursor query) := by
  obtain ⟨next, first, second⟩ := course.append_inv
  -- A fresh cursor is made of the snapshot and the planned faults, which nothing changes.
  have counts := ((accounts_begin store).course first).counts
  obtain _ | ⟨turn, rest⟩ := second
  refine ⟨_, rest, ?_⟩
  cases turn with
  | opens name query unreleased =>
      rw [put_cursors_self, counts]
      rfl

/-- A cursor that is not dropped is as it was, or has been read, or has been closed. -/
theorem Turn.cursor_cases
    (turn : Turn holding event next)
    (held : holding.cursors name = some cursor)
    (kept : event.drops name = false) :
    event.answer? name = none ∧ next.cursors name = some cursor ∨
      event.answer? name = some (.ofNext cursor.pause.2.next.1) ∧
        next.cursors name = some cursor.pause.2.next.2 ∨
      event.answer? name = none ∧ event.closes name = true ∧
        next.cursors name = some cursor.shut := by
  cases turn with
  | opens other query unreleased | drops other =>
      have apart : name ≠ other := beq_eq_false_iff_ne.1 kept
      exact .inl ⟨rfl, (put_cursors_of_ne _ _ _ apart).trans held⟩
  | refuses other query released => exact .inl ⟨rfl, held⟩
  | releases => exact .inl ⟨rfl, held⟩
  | reads other found among =>
      by_cases same : name = other
      · subst same
        obtain rfl : cursor = found := Option.some.inj (held.symm.trans among)
        exact .inr (.inl ⟨if_pos rfl, put_cursors_self _ _ _ _⟩)
      · exact .inl ⟨if_neg same, (put_cursors_of_ne _ _ _ same).trans held⟩
  | misses other unheld =>
      have apart : name ≠ other := by
        rintro rfl
        rw [held] at unheld
        cases unheld
      exact .inl ⟨if_neg apart, held⟩
  | closes other =>
      by_cases same : name = other
      · subst same
        refine .inr (.inr ⟨rfl, beq_self_eq_true name, ?_⟩)
        rw [put_cursors_self, held, Option.map_some]
      · exact .inl ⟨rfl, (put_cursors_of_ne _ _ _ same).trans held⟩

/-- A closing leaves a cursor that is closed. -/
theorem Turn.closed_of_closes
    (turn : Turn holding (.closed name) next)
    (held : holding.cursors name = some cursor) :
    next.cursors name = some cursor.shut := by
  cases turn with
  | closes => rw [put_cursors_self, held, Option.map_some]

/-- A name keeps a cursor as long as that is not dropped. -/
theorem Course.exists_cursor
    (course : Course holding events last)
    (held : holding.cursors name = some cursor)
    (kept : ∀ event ∈ events, event.drops name = false) :
    ∃ cursor, last.cursors name = some cursor := by
  induction course generalizing cursor with
  | nil holding => exact ⟨cursor, held⟩
  | cons turn course hypothesis =>
      obtain ⟨first, later⟩ := List.forall_mem_cons.1 kept
      obtain ⟨-, found⟩ | ⟨-, found⟩ | ⟨-, -, found⟩ :=
        turn.cursor_cases held first
      all_goals exact hypothesis found later

/-- Every read of a cursor that is closed fails. -/
theorem Course.answers_of_closed
    (course : Course holding events last)
    (held : holding.cursors name = some cursor)
    (closed : cursor.closed = true)
    (kept : ∀ event ∈ events, event.drops name = false) :
    ∀ answer ∈ CursorEvent.answers name events,
      answer = .failure (.closed .cursor) := by
  induction course generalizing cursor with
  | nil holding => exact nofun
  | @cons holding next last event events turn course hypothesis =>
      obtain ⟨first, later⟩ := List.forall_mem_cons.1 kept
      rw [CursorEvent.answers, List.filterMap_cons]
      obtain ⟨none, found⟩ | ⟨read, found⟩ | ⟨none, -, found⟩ :=
        turn.cursor_cases held first
      · rw [none]
        exact hypothesis found closed later
      · rw [read]
        have stays : cursor.pause.2.closed = true := by
          rw [Cursor.closed_pause, closed]
        refine List.forall_mem_cons.2 ⟨?_, hypothesis found ?_ later⟩
        · rw [Cursor.next_of_closed stays]
          rfl
        · rw [Cursor.closed_next, stays]
      · rw [none]
        exact hypothesis found rfl later

/-- The reads of a cursor that nothing closes are answered with what is left of it. -/
theorem Course.answers_of_leaves
    {records : List KeyedEntries}
    {ending : ReadAnswer}
    (course : Course holding events last)
    (held : holding.cursors name = some cursor)
    (leaves : cursor.Leaves records ending)
    (kept : ∀ event ∈ events, event.closes name = false) :
    CursorEvent.answers name events =
      ReadAnswer.recital records ending
        (CursorEvent.answers name events).length := by
  -- A read takes the first of what is left, and all else leaves the cursor as it is.
  induction course generalizing cursor records with
  | nil holding => rfl
  | @cons holding next last event events turn course hypothesis =>
      obtain ⟨first, later⟩ := List.forall_mem_cons.1 kept
      rw [CursorEvent.answers, List.filterMap_cons]
      obtain ⟨none, found⟩ | ⟨read, found⟩ | ⟨-, closes, -⟩ :=
        turn.cursor_cases held (event.drops_of_closes first)
      · rw [none]
        exact hypothesis found leaves later
      · rw [read]
        obtain ⟨answer, rest⟩ := leaves.pause.next
        rw [answer, List.length_cons, ReadAnswer.recital_succ]
        exact congrArg _ (hypothesis found rest later)
      · rw [first] at closes
        cases closes

end Holding
end GraphSweep
