import GraphSweep.Proofs.GraphStore.CursorHistory

/-!
# The accounts of a transaction

A transaction in a session counts the cursors that have been opened in it and those of
them that are open. Whatever is done by hand to the transaction and to its cursors, in any
order and as often as may be, the second number is how many of the cursors opened have
been neither closed nor dropped since. Cursors can be opened until the transaction is
rolled back. From a cursor that has been closed nothing can be read, and from any other
one what its query selects is read on as if nothing else were done.
-/

namespace GraphSweep

/-- What can be done by hand to a transaction and to the cursors opened in it. -/
inductive CursorAct
  | opening (name : String) (query : Slice)
  | reading (name : String)
  | closing (name : String)
  | dropping (name : String)
  | rollingBack
  deriving DecidableEq

namespace Session

variable
  {σ : Type}
  {session : Session σ}
  {transaction name : String}
  {position : Nat}
  {holding : Holding}

/-- Do something by hand to a transaction or to one of its cursors. -/
def act (session : Session σ) (transaction : String) :
    CursorAct -> Session σ × CursorEvent
  | .opening name query =>
      match session.openCursor transaction name query with
      | (moved, none) => (moved, .opened name query)
      | (moved, some error) => (moved, .refused name query error)
  | .reading name =>
      let (moved, answer) := session.next name
      (moved, .read name answer)
  | .closing name => ((session.close name).1, .closed name)
  | .dropping name => (session.drop name, .dropped name)
  | .rollingBack => ((session.rollback transaction).1, .rolledBack)

/-- Do several things by hand, one after another. -/
def perform (session : Session σ) (transaction : String) :
    List CursorAct -> Session σ × List CursorEvent
  | [] => (session, [])
  | act :: acts =>
      let done := session.act transaction act
      let rest := done.1.perform transaction acts
      (rest.1, done.2 :: rest.2)

/-- Whether the cursors held in a session are those of one snapshot, and no reader of a
job is asleep. -/
structure Holds
    (session : Session σ)
    (transaction : String)
    (position : Nat)
    (holding : Holding) : Prop where
  named : session.transactions.position? transaction = some position
  found : session.transactions.values[position]? =
    some (.snapshot holding.transaction)
  held : ∀ name, session.cursors.lookup name =
    (holding.cursors name).map (.snapshot position)
  calm : session.sleepers = []

/-- A name that is forgotten has no cursor, and all other names keep theirs. -/
theorem lookup_forget (session : Session σ) (name other : String) :
    (session.forget name).cursors.lookup other =
      if other = name then none else session.cursors.lookup other := by
  rw [forget]
  dsimp only
  split
  · next same =>
    rw [List.lookup_eq_none_iff]
    intro entry member
    have differs := (List.mem_filter.1 member).2
    rw [same]
    exact bne_iff_ne.2 (bne_iff_ne.1 differs).symm
  · next apart =>
    induction session.cursors with
    | nil => rfl
    | cons entry rest hypothesis =>
        rw [List.filter_cons]
        split
        · rw [List.lookup_cons, List.lookup_cons, hypothesis]
        · next gone =>
          have same : entry.1 = name := by simpa using gone
          have differs : (other == entry.1) = false :=
            beq_eq_false_iff_ne.2 (same ▸ apart)
          rw [hypothesis, List.lookup_cons, differs]

namespace Holds

/-- A transaction that begins has no cursors. -/
theorem begin
    (transaction : String)
    (unheld : session.cursors = [])
    (calm : session.sleepers = []) :
    (session.begin transaction).Holds transaction
      session.transactions.values.length
      (.ofTransaction (Transaction.begin session.store)) where
  named := by simp [Session.begin, Registry.add, Registry.position?]
  found := by
    simp [Session.begin, Registry.add, Holding.ofTransaction]
  held name := by simp [Session.begin, unheld, Holding.ofTransaction]
  calm := calm

/-- The transaction of a session is found by its name. -/
theorem find (holds : session.Holds transaction position holding) :
    session.transactions.find? transaction =
      some (.snapshot holding.transaction) := by
  rw [Registry.find?, holds.named]
  exact holds.found

theorem setAt
    (holds : session.Holds transaction position holding)
    (changed : Transaction) :
    Holds
      { session with
        transactions := session.transactions.setAt position
          (.snapshot changed) }
      transaction position ⟨changed, holding.cursors⟩ where
  named := holds.named
  found := by
    obtain ⟨within, -⟩ := List.getElem?_eq_some_iff.1 holds.found
    simp [Registry.setAt, within]
  held := holds.held
  calm := holds.calm

theorem forget
    (holds : session.Holds transaction position holding)
    (name : String) :
    (session.forget name).Holds transaction position
      (holding.put holding.transaction name none) where
  named := holds.named
  found := holds.found
  held other := by
    rw [lookup_forget]
    split
    · next same => rw [same, Holding.put_cursors_self, Option.map_none]
    · next apart =>
      rw [holding.put_cursors_of_ne _ _ apart, holds.held]
  calm := holds.calm

theorem setCursor
    (holds : session.Holds transaction position holding)
    (name : String)
    (cursor : Cursor) :
    (session.setCursor name (.snapshot position cursor)).Holds transaction
      position (holding.put holding.transaction name (some cursor)) where
  named := holds.named
  found := holds.found
  held other := by
    by_cases same : other = name
    · rw [same, lookup_setCursor, Holding.put_cursors_self, Option.map_some]
    · rw [Session.setCursor, holding.put_cursors_of_ne _ _ same]
      dsimp only
      rw [List.lookup_cons, beq_eq_false_iff_ne.2 same, lookup_forget,
        if_neg same]
      exact holds.held other
  calm := holds.calm

/-- No reader is woken up where none is asleep. -/
theorem wait
    (holds : session.Holds transaction position holding)
    (millis : Nat) :
    (session.wait millis).Holds transaction position holding := by
  have quiet : session.wait millis =
      { session with clock := session.clock + millis, sleepers := [] } := by
    simp [Session.wait, holds.calm]
  rw [quiet]
  exact ⟨holds.named, holds.found, holds.held, rfl⟩

theorem rollback (holds : session.Holds transaction position holding) :
    (session.rollback transaction).1.Holds transaction position
      ⟨holding.transaction.rollback, holding.cursors⟩ := by
  rw [Session.rollback, holds.named, holds.find]
  exact holds.setAt holding.transaction.rollback

theorem close
    (holds : session.Holds transaction position holding)
    (name : String) :
    (session.close name).1.Holds transaction position
      (holding.put (holding.transaction.letGo (holding.cursors name)) name
        ((holding.cursors name).map Cursor.shut)) := by
  rw [Session.close, holds.held]
  cases held : holding.cursors name with
  | none =>
      rw [Option.map_none, Option.map_none, Transaction.letGo,
        Holding.put_eq_self held]
      exact holds
  | some cursor =>
      have closed := (holds.setAt
        (holding.transaction.closeCursor cursor).2).setCursor name
          (holding.transaction.closeCursor cursor).1
      simp only [Option.map_some, holds.found]
      rw [← holding.transaction.closeCursor_fst cursor]
      exact closed

theorem drop
    (holds : session.Holds transaction position holding)
    (name : String) :
    (session.drop name).Holds transaction position
      (holding.put (holding.transaction.letGo (holding.cursors name)) name
        none) := by
  have forgotten := (holds.close name).forget name
  rw [Holding.put_put] at forgotten
  rw [Session.drop, holds.held]
  cases held : holding.cursors name with
  | none => exact holds.forget name
  | some cursor =>
      rw [held] at forgotten
      exact forgotten

/-- A transaction that has been rolled back opens no cursor. -/
theorem openCursor_of_released
    (holds : session.Holds transaction position holding)
    (released : holding.transaction.released = true)
    (name : String)
    (query : Slice) :
    session.openCursor transaction name query =
      (session, some (.closed .transaction)) := by
  rw [Session.openCursor, holds.named, holds.find]
  dsimp only
  rw [Transaction.openCursor_of_released released]

/-- A transaction that has not been rolled back opens a cursor, and the older one of the
name is dropped. -/
theorem openCursor_of_unreleased
    (holds : session.Holds transaction position holding)
    (unreleased : holding.transaction.released = false)
    (name : String)
    (query : Slice) :
    (session.openCursor transaction name query).2 = none ∧
      (session.openCursor transaction name query).1.Holds transaction
        position
        (holding.put
          (holding.transaction.counted.letGo (holding.cursors name)) name
          (some (holding.transaction.cursor query))) := by
  have opened := ((holds.setAt holding.transaction.counted).drop
    name).setCursor name (holding.transaction.cursor query)
  rw [Holding.put_put] at opened
  rw [Session.openCursor, holds.named, holds.find]
  dsimp only
  rw [Transaction.openCursor_of_unreleased unreleased]
  exact ⟨rfl, opened⟩

theorem next
    {cursor : Cursor}
    (holds : session.Holds transaction position holding)
    (held : holding.cursors name = some cursor) :
    (session.next name).1.Holds transaction position
      (holding.put holding.transaction name
        (some cursor.pause.2.next.2)) := by
  have moved := (holds.wait cursor.pause.1).setCursor name
    cursor.pause.2.next.2
  rw [Session.next, holds.held, held]
  dsimp only [Option.map_some]
  cases cursor.pause.2.next.1 with
  | error error => exact moved
  | ok found => cases found <;> exact moved

/-- Something done by hand is a turn of what is held. -/
theorem act
    (holds : session.Holds transaction position holding)
    (act : CursorAct) :
    ∃ next, (session.act transaction act).1.Holds transaction position next ∧
      holding.Turn (session.act transaction act).2 next := by
  cases act with
  | opening name query =>
      cases released : holding.transaction.released with
      | true =>
          rw [Session.act, holds.openCursor_of_released released]
          exact ⟨holding, holds, .refuses name query released⟩
      | false =>
          obtain ⟨succeeds, opened⟩ :=
            holds.openCursor_of_unreleased released name query
          rw [Session.act]
          cases outcome : session.openCursor transaction name query with
          | mk moved fault =>
              rw [outcome] at succeeds opened
              subst succeeds
              exact ⟨_, opened, .opens name query released⟩
  | reading name =>
      cases held : holding.cursors name with
      | none =>
          have drained : session.next name = (session, .drained) := by
            rw [Session.next, holds.held, held, Option.map_none]
          rw [Session.act, drained]
          exact ⟨holding, holds, .misses name held⟩
      | some cursor =>
          have here : session.cursors.lookup name =
              some (.snapshot position cursor) := by
            rw [holds.held, held, Option.map_some]
          refine ⟨_, holds.next held, ?_⟩
          rw [Session.act]
          dsimp only
          rw [(next_of_lookup here).1]
          exact .reads name cursor held
  | closing name => exact ⟨_, holds.close name, .closes name⟩
  | dropping name => exact ⟨_, holds.drop name, .drops name⟩
  | rollingBack => exact ⟨_, holds.rollback, .releases⟩

/-- What is done by hand one after another is a course of what is held. -/
theorem perform
    (holds : session.Holds transaction position holding)
    (acts : List CursorAct) :
    ∃ last, (session.perform transaction acts).1.Holds transaction position
        last ∧
      holding.Course (session.perform transaction acts).2 last := by
  induction acts generalizing session holding with
  | nil => exact ⟨holding, holds, .nil holding⟩
  | cons act acts hypothesis =>
      obtain ⟨next, held, turn⟩ := holds.act act
      obtain ⟨last, rest, course⟩ := hypothesis held
      exact ⟨last, rest, .cons turn course⟩

end Holds

/-- A rollback is one that has been asked for. -/
theorem any_releases_perform
    (session : Session σ)
    (transaction : String)
    (acts : List CursorAct) :
    (session.perform transaction acts).2.any CursorEvent.releases =
      decide (CursorAct.rollingBack ∈ acts) := by
  induction acts generalizing session with
  | nil => rfl
  | cons act acts hypothesis =>
      have first : (session.act transaction act).2.releases =
          decide (CursorAct.rollingBack = act) := by
        cases act with
        | opening name query =>
            rw [Session.act]
            split <;> rfl
        | reading | closing | dropping | rollingBack => rfl
      rw [perform, List.any_cons, hypothesis, first, ← Bool.decide_or,
        decide_eq_decide, List.mem_cons]

/-- Cursors are accounted for. Whatever is done by hand to a transaction and to its
cursors, the transaction tells how many cursors have been opened, how many of them have
been neither closed nor dropped since, and whether it has been rolled back. A cursor that
is held has not been closed exactly if it is one of those counted as open, so closing
takes no cursor off the count that is not in it. A cursor can be opened exactly if the
transaction has not been rolled back. Once a cursor has been closed, and as long as it is
not dropped, every read of it fails. As long as it is not closed, reading it again and
again gives what its query selects from the store as that was when the transaction began,
up to a planned failure: neither a rollback nor what is done to other cursors makes a
difference. -/
theorem cursors_are_accounted_for
    (session : Session σ)
    (transaction : String)
    (acts : List CursorAct)
    (unheld : session.cursors = [])
    (calm : session.sleepers = []) :
    let done := (session.begin transaction).perform transaction acts
    done.1.status? transaction = some (.snapshot
      (CursorEvent.openings done.2)
      (CursorEvent.unclosed done.2).length
      (decide (CursorAct.rollingBack ∈ acts))) ∧
    (∀ name owner cursor,
      done.1.cursors.lookup name = some (.snapshot owner cursor) ->
        (cursor.closed = false ↔ name ∈ CursorEvent.unclosed done.2)) ∧
    (∀ name query,
      (done.1.openCursor transaction name query).2 =
        if CursorAct.rollingBack ∈ acts then some (.closed .transaction)
        else none) ∧
    (∀ before name query since later,
      done.2 = before ++
        .opened name query :: (since ++ .closed name :: later) ->
      (∀ event ∈ since ++ later, event.drops name = false) ->
      ∀ answer ∈ CursorEvent.answers name later,
        answer = .failure (.closed .cursor)) ∧
    ∀ before name query since,
      done.2 = before ++ .opened name query :: since ->
      (∀ event ∈ since, event.closes name = false) ->
      CursorEvent.answers name since =
        ReadAnswer.planned (session.store.faults.failure? query)
          (Cursor.records query session.store.table.entries)
          (CursorEvent.answers name since).length := by
  intro done
  obtain ⟨last, holds, course⟩ :=
    (Holds.begin transaction unheld calm).perform acts
  have accounts := (Holding.accounts_begin session.store).course course
  rw [List.nil_append] at accounts
  have released : last.transaction.released =
      decide (CursorAct.rollingBack ∈ acts) := by
    rw [accounts.counts]
    exact any_releases_perform (session.begin transaction) transaction acts
  refine ⟨?counts, ?counted, ?opening, ?closed, ?opened⟩
  case counts =>
    rw [status?, holds.find, Option.map_some, OpenTransaction.status, released,
      accounts.counts]
  case counted =>
    intro name owner cursor here
    rw [holds.held] at here
    obtain ⟨held, among, same⟩ := Option.map_eq_some_iff.1 here
    cases same
    have counted := accounts.holds name
    rw [Holding.hasOpen, among, Option.any_some, Bool.eq_iff_iff,
      decide_eq_true_iff, Bool.not_eq_true'] at counted
    exact counted
  case opening =>
    intro name query
    by_cases rolled : CursorAct.rollingBack ∈ acts
    · rw [decide_eq_true rolled] at released
      rw [if_pos rolled, holds.openCursor_of_released released]
    · rw [decide_eq_false rolled] at released
      rw [if_neg rolled]
      exact (holds.openCursor_of_unreleased released name query).1
  case closed =>
    intro before name query since later history kept
    rw [history] at course
    obtain ⟨keptSince, keptLater⟩ := List.forall_mem_append.1 kept
    obtain ⟨opened, course, fresh⟩ := course.exists_fresh_cursor
    obtain ⟨next, reading, rest⟩ := course.append_inv
    obtain ⟨cursor, held⟩ := reading.exists_cursor fresh keptSince
    obtain _ | ⟨turn, rest⟩ := rest
    exact rest.answers_of_closed (turn.closed_of_closes held) rfl keptLater
  case opened =>
    intro before name query since history kept
    rw [history] at course
    obtain ⟨opened, course, fresh⟩ := course.exists_fresh_cursor
    obtain ⟨records, ending, leaves, recites⟩ :=
      Transaction.leaves_cursor (Transaction.begin session.store) query
    exact (course.answers_of_leaves fresh leaves kept).trans (recites _)

/-- A session on a store of two vertices. -/
def ofTwoVertices : Session Unit :=
  (Session.start IdLayout.standard).onStore fun store =>
    (store.addVertex 64).addVertex 128

/-- Two cursors side by side, of which one is closed twice before the rollback and the
other one is read on after it. -/
def sideBySide : List CursorAct :=
  [.opening "a" Slice.probe, .opening "b" Slice.probe, .reading "a",
    .reading "b", .closing "a", .closing "a", .reading "a", .rollingBack,
    .opening "b" Slice.probe, .reading "b", .reading "b"]

theorem cursors_side_by_side_are_accounted_for :
    let done := (ofTwoVertices.begin "tx").perform "tx" sideBySide
    ofTwoVertices.cursors = [] ∧ ofTwoVertices.sleepers = [] ∧
    done.1.status? "tx" = some (.snapshot 2 1 true) ∧
    (done.1.openCursor "tx" "c" Slice.probe).2 =
      some (.closed .transaction) ∧
    (∀ event ∈ (done.2.drop 1).take 3 ++ done.2.drop 5,
      event.drops "a" = false) ∧
    (∀ answer ∈ CursorEvent.answers "a" (done.2.drop 5),
      answer = .failure (.closed .cursor)) ∧
    (∀ event ∈ done.2.drop 2, event.closes "b" = false) ∧
    CursorEvent.answers "b" (done.2.drop 2) =
      [.record ⟨VertexId.key 64, [Relation.markerEntry]⟩,
        .record ⟨VertexId.key 128, [Relation.markerEntry]⟩, .drained] := by
  intro done
  obtain ⟨counts, -, opening, closed, opened⟩ :=
    cursors_are_accounted_for ofTwoVertices "tx" sideBySide rfl rfl
  have keptA : ∀ event ∈ (done.2.drop 1).take 3 ++ done.2.drop 5,
      event.drops "a" = false := by decide +kernel
  have keptB : ∀ event ∈ done.2.drop 2, event.closes "b" = false := by
    decide +kernel
  refine ⟨rfl, rfl, counts, opening "c" Slice.probe, keptA, ?_, keptB, ?_⟩
  · exact closed [] "a" Slice.probe ((done.2.drop 1).take 3)
      (done.2.drop 5) rfl keptA
  · exact opened [.opened "a" Slice.probe] "b" Slice.probe (done.2.drop 2)
      rfl keptB

end Session
end GraphSweep
