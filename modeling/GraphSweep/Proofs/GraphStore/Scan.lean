import GraphSweep.Proofs.GraphStore.Records
import GraphSweep.Session

/-!
# Reading a snapshot by hand

A cursor that is read again and again gives the records of its query in the order of
their keys, and then one answer over and over: that there are no more, or the failure
that was planned when its transaction began, if there are as many records before it. What
is done to the store after that makes no difference.
-/

namespace GraphSweep

namespace ReadAnswer

/-- What the next record of a cursor is answered with. -/
def ofNext : Except StorageError (Option KeyedEntries) -> ReadAnswer
  | .error error => .failure error
  | .ok none => .drained
  | .ok (some found) => .record found

/-- What the first reads are answered with where there are some records, and then the
same over and over. -/
def recital
    (records : List KeyedEntries)
    (ending : ReadAnswer)
    (count : Nat) : List ReadAnswer :=
  (List.range count).map fun turn => (records[turn]?).elim ending .record

/-- What the first reads of some records are answered with where reading may be planned to
fail after some of them. -/
def planned
    (failsAfter : Option Nat)
    (records : List KeyedEntries) : Nat -> List ReadAnswer :=
  match failsAfter with
  | none => recital records .drained
  | some count =>
      if count ≤ records.length then
        recital (records.take count) (.failure (.injected count))
      else recital records .drained

theorem recital_succ
    (records : List KeyedEntries)
    (ending : ReadAnswer)
    (count : Nat) :
    recital records ending (count + 1) =
      records.head?.elim ending .record ::
        recital records.tail ending count := by
  rw [recital, List.range_succ_eq_map, List.map_cons, List.map_map,
    List.head?_eq_getElem?]
  congr 1
  refine List.map_congr_left fun turn _ => ?_
  rw [List.getElem?_tail]
  rfl

end ReadAnswer

/-! ## Cursors -/

namespace Cursor

/-- The records that a cursor has not yielded yet, as long as reading does not fail. -/
def left (cursor : Cursor) : List KeyedEntries :=
  records cursor.query cursor.pending

/-- The records that a query selects are in the order of their keys. -/
theorem ascending_records (query : Slice) (table : Table) :
    (records query table.entries).Pairwise fun record other =>
      Bytes.precedes record.key other.key := by
  rw [Transaction.records_eq, List.pairwise_filterMap]
  refine table.ascending.imp ?_
  intro entry other before record found otherRecord otherFound
  rw [Transaction.recordOf?_eq_some found,
    Transaction.recordOf?_eq_some otherFound]
  exact before

/-- There is a record for each row from which the query selects anything. -/
theorem mem_records
    {query : Slice}
    {table : Table}
    {record : KeyedEntries} :
    record ∈ records query table.entries ↔ ∃ row,
      table.find? record.key = some row ∧
      record.entries = query.bound (query.range row) ∧
      record.entries ≠ [] := by
  rw [Transaction.records_eq, List.mem_filterMap]
  constructor
  · rintro ⟨⟨key, row⟩, member, found⟩
    have selected : query.select row ≠ [] := by
      intro none
      simp [Transaction.recordOf?, none] at found
    rw [Transaction.recordOf?_eq_some found]
    exact ⟨row, ByteMap.find?_eq_some_iff.2 member, query.select_eq row,
      selected⟩
  · rintro ⟨row, held, entries, some⟩
    rw [← Slice.select_eq] at entries
    refine ⟨(record.key, row), ByteMap.find?_eq_some_iff.1 held, ?_⟩
    rw [Transaction.recordOf?, if_neg (entries ▸ some), ← entries]

/-- The first record is that of the first row with entries in the query. -/
theorem records_eq_advance (query : Slice) (rows : List (Bytes × Row)) :
    records query rows =
      match advance query rows with
      | none => []
      | some (record, rest) => record :: records query rest := by
  induction rows with
  | nil => rfl
  | cons entry rows hypothesis =>
      obtain ⟨key, row⟩ := entry
      rw [records, advance]
      cases query.select row with
      | nil => exact hypothesis
      | cons first entries => rfl

/-- What is still read of a cursor that is open: some records, and then the same over and
over. -/
inductive Leaves (cursor : Cursor) : List KeyedEntries -> ReadAnswer -> Prop
  | drains
      (unclosed : cursor.closed = false)
      (unreached : ∀ count, cursor.failsAfter = some count ->
        cursor.yielded + cursor.left.length < count) :
      Leaves cursor cursor.left .drained
  | fails
      (count : Nat)
      (unclosed : cursor.closed = false)
      (planned : cursor.failsAfter = some (cursor.yielded + count))
      (reached : count ≤ cursor.left.length) :
      Leaves cursor (cursor.left.take count)
        (.failure (.injected (cursor.yielded + count)))

section Leaves

variable
  {cursor : Cursor}
  {records : List KeyedEntries}
  {ending : ReadAnswer}

/-- A cursor that has not come to its failure yields the next record, if there is one. The
records yielded and those left stay as many together. -/
theorem next_eq
    (unclosed : cursor.closed = false)
    (unfailing : cursor.failsAfter ≠ some cursor.yielded) :
    ReadAnswer.ofNext cursor.next.1 =
        cursor.left.head?.elim .drained .record ∧
      cursor.next.2.left = cursor.left.tail ∧
      cursor.next.2.closed = false ∧
      cursor.next.2.failsAfter = cursor.failsAfter ∧
      cursor.next.2.yielded + cursor.left.tail.length =
        cursor.yielded + cursor.left.length := by
  have first := records_eq_advance cursor.query cursor.pending
  rw [next, if_neg (by simp [unclosed]), if_neg unfailing]
  cases ahead : advance cursor.query cursor.pending with
  | none =>
      rw [ahead] at first
      have drained : cursor.left = [] := first
      rw [drained]
      exact ⟨rfl, rfl, unclosed, rfl, rfl⟩
  | some found =>
      rw [ahead] at first
      have more : cursor.left =
          found.1 :: Cursor.records cursor.query found.2 := first
      rw [more]
      refine ⟨rfl, rfl, unclosed, rfl, ?_⟩
      rw [List.tail_cons, List.length_cons]
      exact Nat.add_right_comm _ _ _

/-- A read is answered with what is left first, and leaves the rest. -/
theorem Leaves.next (leaves : cursor.Leaves records ending) :
    ReadAnswer.ofNext cursor.next.1 = records.head?.elim ending .record ∧
      cursor.next.2.Leaves records.tail ending := by
  cases leaves with
  | drains unclosed unreached =>
      have unfailing : cursor.failsAfter ≠ some cursor.yielded := by
        intro failing
        have beyond := unreached _ failing
        omega
      obtain ⟨answer, left, stays, plan, total⟩ := next_eq unclosed unfailing
      refine ⟨answer, left ▸ Leaves.drains stays ?_⟩
      intro count planned
      have beyond := unreached count (plan ▸ planned)
      rw [left]
      omega
  | fails count unclosed planned reached =>
      cases count with
      | zero =>
          have failing : cursor.failsAfter = some cursor.yielded := planned
          have failed : cursor.next =
              (.error (.injected cursor.yielded), cursor) := by
            rw [Cursor.next, if_neg (by simp [unclosed]), if_pos failing]
          rw [failed]
          exact ⟨rfl, Leaves.fails 0 unclosed planned reached⟩
      | succ count =>
          have unfailing : cursor.failsAfter ≠ some cursor.yielded := by
            rw [planned, ne_eq, Option.some.injEq]
            omega
          obtain ⟨answer, left, stays, plan, total⟩ :=
            next_eq unclosed unfailing
          cases more : cursor.left with
          | nil =>
              rw [more] at reached
              cases reached
          | cons record rest =>
              rw [more] at answer left reached total
              have onward : cursor.yielded + (count + 1) =
                  cursor.next.2.yielded + count := by
                rw [List.tail_cons, List.length_cons] at total
                omega
              refine ⟨answer, ?_⟩
              rw [onward, List.take_succ_cons, List.tail_cons]
              rw [List.tail_cons] at left
              rw [← left]
              refine Leaves.fails count stays (plan.trans ?_) ?_
              · rw [planned, onward]
              · rw [left]
                exact Nat.le_of_succ_le_succ reached

/-- A pause changes nothing of what is read. -/
theorem Leaves.pause (leaves : cursor.Leaves records ending) :
    cursor.pause.2.Leaves records ending := by
  unfold Cursor.pause
  split
  · split
    · cases leaves with
      | drains unclosed unreached => exact Leaves.drains unclosed unreached
      | fails count unclosed planned reached =>
          exact Leaves.fails count unclosed planned reached
    · exact leaves
  · exact leaves

end Leaves

end Cursor

namespace Transaction

/-- All that a query selects is left of a fresh cursor, up to the failure that is planned
for the query. -/
theorem leaves_cursor (transaction : Transaction) (query : Slice) :
    ∃ records ending, (transaction.cursor query).Leaves records ending ∧
      ∀ count, ReadAnswer.recital records ending count =
        ReadAnswer.planned (transaction.faults.failure? query)
          (Cursor.records query transaction.snapshot.entries) count := by
  have plan : (transaction.cursor query).failsAfter =
      transaction.faults.failure? query := rfl
  have all : (transaction.cursor query).left =
      Cursor.records query transaction.snapshot.entries := rfl
  have fresh (count : Nat) :
      (transaction.cursor query).yielded + count = count := Nat.zero_add count
  rw [← plan, ← all]
  cases planned : (transaction.cursor query).failsAfter with
  | none =>
      refine ⟨_, _, Cursor.Leaves.drains rfl ?_, fun _ => rfl⟩
      intro count failing
      rw [planned] at failing
      cases failing
  | some count =>
      by_cases reached : count ≤ (transaction.cursor query).left.length
      · refine ⟨_, _, Cursor.Leaves.fails count rfl ?_ reached, ?_⟩
        · rw [planned, fresh]
        · intro turns
          rw [ReadAnswer.planned, if_pos reached, fresh]
      · refine ⟨_, _, Cursor.Leaves.drains rfl ?_, ?_⟩
        · intro other failing
          rw [planned] at failing
          cases failing
          rw [fresh]
          exact Nat.lt_of_not_le reached
        · intro turns
          rw [ReadAnswer.planned, if_neg reached]

end Transaction

/-! ## Sessions -/

namespace Session

variable {σ : Type}

@[simp] theorem lookup_setCursor
    (session : Session σ)
    (name : String)
    (cursor : OpenCursor) :
    (session.setCursor name cursor).cursors.lookup name = some cursor := by
  simp [setCursor]

/-- Reading a cursor of a snapshot moves that cursor. -/
theorem next_of_lookup
    {session : Session σ}
    {name : String}
    {owner : Nat}
    {cursor : Cursor}
    (held : session.cursors.lookup name = some (.snapshot owner cursor)) :
    (session.next name).2 = ReadAnswer.ofNext cursor.pause.2.next.1 ∧
      (session.next name).1.cursors.lookup name =
        some (.snapshot owner cursor.pause.2.next.2) := by
  unfold next
  rw [held]
  dsimp only
  cases answer : cursor.pause.2.next.1 with
  | error error => exact ⟨rfl, lookup_setCursor _ _ _⟩
  | ok found =>
      cases found <;> exact ⟨rfl, lookup_setCursor _ _ _⟩

/-- A cursor is opened in a transaction that has just begun, whatever has been done to
the store since. -/
theorem lookup_openCursor
    (session : Session σ)
    (transaction name : String)
    (query : Slice)
    (change : GraphStore -> GraphStore) :
    let opened := ((session.begin transaction).onStore change).openCursor
      transaction name query
    opened.2 = none ∧ ∃ owner, opened.1.cursors.lookup name =
      some (.snapshot owner ((Transaction.begin session.store).cursor query)) := by
  intro opened
  have position : ((session.begin transaction).onStore
      change).transactions.position? transaction =
        some session.transactions.values.length := by
    simp [begin, onStore, Registry.add, Registry.position?]
  have found : ((session.begin transaction).onStore
      change).transactions.find? transaction =
        some (.snapshot (Transaction.begin session.store)) := by
    rw [Registry.find?, position]
    simp [begin, onStore, Registry.add]
  have opens : (Transaction.begin session.store).openCursor query =
      (.ok ((Transaction.begin session.store).cursor query), _) := rfl
  simp only [opened, openCursor, position, found, opens]
  exact ⟨trivial, _, lookup_setCursor _ _ _⟩

/-- What reads of a cursor are answered with where the store is changed before each of
them. -/
def scan
    (session : Session σ)
    (name : String) : List (GraphStore -> GraphStore) -> List ReadAnswer
  | [] => []
  | change :: changes =>
      let read := (session.onStore change).next name
      read.2 :: read.1.scan name changes

/-- What is left of a cursor is read, whatever becomes of the store. -/
theorem scan_of_lookup
    {session : Session σ}
    {name : String}
    {owner : Nat}
    {cursor : Cursor}
    {records : List KeyedEntries}
    {ending : ReadAnswer}
    (held : session.cursors.lookup name = some (.snapshot owner cursor))
    (leaves : cursor.Leaves records ending)
    (changes : List (GraphStore -> GraphStore)) :
    session.scan name changes =
      ReadAnswer.recital records ending changes.length := by
  induction changes generalizing session cursor records with
  | nil => rfl
  | cons change changes hypothesis =>
      have held : (session.onStore change).cursors.lookup name =
          some (.snapshot owner cursor) := held
      obtain ⟨answer, moved⟩ := next_of_lookup held
      obtain ⟨first, rest⟩ := leaves.pause.next
      rw [scan, List.length_cons, ReadAnswer.recital_succ, ← first, ← answer,
        ← hypothesis moved rest]

/-- Scans are exact. A cursor that is opened in a transaction on a store, whatever the
store holds and whatever is done to it before the opening and between the reads, reads in
the order of the keys one record for each row of the store as it was when the transaction
began from which the query selects anything: as many as the query allows of the entries
that it contains, in the order of their columns. From then on it reads that there are no
more. If reading was planned to fail after some records, and there are as many, it reads
those and from then on the failure. -/
theorem scan_of_fresh_cursor
    (session : Session σ)
    (transaction name : String)
    (query : Slice)
    (change : GraphStore -> GraphStore) :
    let opened := ((session.begin transaction).onStore change).openCursor
      transaction name query
    opened.2 = none ∧
    ∃ records : List KeyedEntries,
      (records.Pairwise fun record other =>
        Bytes.precedes record.key other.key) ∧
      (∀ record, record ∈ records ↔ ∃ row,
        session.store.table.find? record.key = some row ∧
        record.entries = query.bound (query.range row) ∧
        record.entries ≠ []) ∧
      (∀ record ∈ records, record.entries.Pairwise fun entry other =>
        Bytes.precedes entry.column other.column) ∧
      ∀ changes, opened.1.scan name changes =
        ReadAnswer.planned (session.store.faults.failure? query) records
          changes.length := by
  intro opened
  obtain ⟨fault, owner, held⟩ :=
    lookup_openCursor session transaction name query change
  obtain ⟨records, ending, leaves, recites⟩ :=
    Transaction.leaves_cursor (Transaction.begin session.store) query
  refine ⟨fault, Cursor.records query session.store.table.entries,
    ?_, ?_, ?_, ?_⟩
  · exact Cursor.ascending_records query session.store.table
  · exact fun record => Cursor.mem_records
  · intro record member
    obtain ⟨row, -, entries, -⟩ := Cursor.mem_records.1 member
    rw [entries]
    exact (Slice.ascending_range query row).sublist
      (query.bound_sublist _)
  · intro changes
    rw [scan_of_lookup held leaves, recites]
    rfl

end Session
end GraphSweep
