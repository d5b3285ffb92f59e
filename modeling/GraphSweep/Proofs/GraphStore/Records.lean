import GraphSweep.Proofs.GraphStore.History
import GraphSweep.Proofs.IdLayout
import GraphSweep.Proofs.Job.Streams
import GraphSweep.Transaction

/-!
# What a snapshot delivers

A query over a snapshot delivers for each vertex that is not hidden the entries of its
row in the range of the query, in ascending order and as many as the query allows, and
passes over vertices of which it selects nothing. The probe, which takes the first
entry of a row only, finds the mark of every marked vertex, and of no other vertex
anything that it could be mistaken for.
-/

namespace GraphSweep

namespace Slice

/-- The entries of a row in the range of a query, in ascending column order. -/
def range (query : Slice) (row : Row) : List Entry :=
  (row.entries.filter fun entry => query.contains entry.1).map fun entry =>
    ⟨entry.1, entry.2⟩

section Closed

variable
  {α : Type}
  {order : α -> α -> Prop}
  {entries : List α}
  {keep : α -> Bool}

/-- In an ordered list, a condition that holds before each element where it holds picks
what comes first. -/
theorem takeWhile_eq_filter
    (ordered : entries.Pairwise order)
    (closed : ∀ entry other, order entry other -> keep other -> keep entry) :
    entries.takeWhile keep = entries.filter keep ∧
      entries.dropWhile keep = entries.filter fun entry => !keep entry := by
  induction entries with
  | nil => exact ⟨rfl, rfl⟩
  | cons first rest hypothesis =>
      obtain ⟨earlier, orderedRest⟩ := List.pairwise_cons.1 ordered
      obtain ⟨taken, dropped⟩ := hypothesis orderedRest
      cases kept : keep first with
      | true => simp [kept, taken, dropped]
      | false =>
          have none : ∀ entry ∈ rest, keep entry = false := by
            intro entry member
            rw [Bool.eq_false_iff]
            intro keeps
            rw [closed first entry (earlier entry member) keeps] at kept
            cases kept
          have picked : rest.filter keep = [] := by
            rw [List.filter_eq_nil_iff]
            intro entry member
            simp [none entry member]
          have left : (rest.filter fun entry => !keep entry) = rest := by
            rw [List.filter_eq_self]
            intro entry member
            simp [none entry member]
          simp [kept, picked, left]

end Closed

/-- A query selects what is in its range, as many entries as it allows. -/
theorem select_eq (query : Slice) (row : Row) :
    query.select row = query.bound (query.range row) := by
  have closed (bound : Bytes) (entry other : Bytes × Bytes)
      (before : Bytes.precedes entry.1 other.1)
      (below : Bytes.precedes other.1 bound) :
      Bytes.precedes entry.1 bound :=
    Bytes.precedes_trans before below
  have reached := (takeWhile_eq_filter row.ascending (closed query.start)).2
  have within := (takeWhile_eq_filter
    (row.ascending.filter fun entry =>
      !Bytes.precedes entry.1 query.start) (closed query.stop)).1
  rw [select, reached, within, List.filter_filter, range]
  congr 3
  funext entry
  rw [contains, Bool.and_comm]

/-- Bounding entries keeps some of the first. -/
theorem bound_sublist (query : Slice) (entries : List Entry) :
    (query.bound entries).Sublist entries := by
  unfold bound
  split
  · exact List.Sublist.refl _
  · exact List.take_sublist _ _

/-- What is in the range of a query is what the row holds in columns that the query
contains. -/
theorem mem_range {query : Slice} {row : Row} {entry : Entry} :
    entry ∈ query.range row ↔
      query.contains entry.column ∧
        row.find? entry.column = some entry.value := by
  rw [ByteMap.find?_eq_some_iff, range, List.mem_map]
  constructor
  · rintro ⟨held, member, rfl⟩
    obtain ⟨among, contained⟩ := List.mem_filter.1 member
    exact ⟨contained, among⟩
  · rintro ⟨contained, among⟩
    exact ⟨(entry.column, entry.value),
      List.mem_filter.2 ⟨among, contained⟩, rfl⟩

/-- The entries in the range of a query ascend. -/
theorem ascending_range (query : Slice) (row : Row) :
    (query.range row).Pairwise fun entry other =>
      Bytes.precedes entry.column other.column := by
  rw [range, List.pairwise_map]
  exact row.ascending.filter _

end Slice

namespace GraphStore

/-- A row of a table with a row put into it is that row, or was there before. -/
theorem find?_insert_cases
    {table : Table}
    {vertex : VertexId}
    {row held : Row}
    {key : Bytes}
    (found : (table.insert (VertexId.key vertex) row).find? key = some held) :
    key = VertexId.key vertex ∨ table.find? key = some held := by
  rw [ByteMap.find?_insert] at found
  split at found
  · next same => exact .inl same.symm
  · exact .inr found

/-- Every row of a store is that of a vertex. -/
def Keyed (store : GraphStore) : Prop :=
  ∀ key row, store.table.find? key = some row ->
    ∃ vertex : VertexId, key = VertexId.key vertex

theorem Keyed.insert
    {store : GraphStore}
    (keyed : store.Keyed)
    (vertex : VertexId)
    (row : Row) :
    Keyed { store with
      table := store.table.insert (VertexId.key vertex) row } := by
  intro key held found
  rcases find?_insert_cases found with here | before
  · exact ⟨vertex, here⟩
  · exact keyed key held before

/-- A store as it can be made: out of an empty one, by putting entries into rows, taking
marks of existence away, and planning and forgetting faults. -/
inductive Assembled : GraphStore -> Prop
  | empty (layout : IdLayout) : Assembled (GraphStore.empty layout)
  | insert
      {store : GraphStore}
      (assembled : Assembled store)
      (vertex : VertexId)
      (entry : Entry) :
      Assembled (store.insert vertex entry)
  | unmark
      {store : GraphStore}
      (assembled : Assembled store)
      (vertex : VertexId) :
      Assembled (store.unmark vertex)
  | planFailure
      {store : GraphStore}
      (assembled : Assembled store)
      (query : Slice)
      (after : Nat) :
      Assembled (store.planFailure query after)
  | planStall
      {store : GraphStore}
      (assembled : Assembled store)
      (query : Slice)
      (stall : Stall) :
      Assembled (store.planStall query stall)
  | forgetFaults
      {store : GraphStore}
      (assembled : Assembled store) :
      Assembled store.forgetFaults

/-- Whatever makes a store leaves rows of vertices only. -/
theorem Assembled.keyed
    {store : GraphStore}
    (assembled : store.Assembled) :
    store.Keyed := by
  induction assembled with
  | empty layout =>
      intro key row found
      cases found
  | insert assembled vertex entry keyed => exact keyed.insert vertex _
  | unmark assembled vertex keyed =>
      rw [GraphStore.unmark]
      split
      · exact keyed
      · exact keyed.insert vertex _
  | planFailure | planStall | forgetFaults => assumption

/-- Entries that are put into rows one after another make a store. -/
theorem Assembled.inserts
    {store : GraphStore}
    (assembled : store.Assembled)
    (puts : List (VertexId × Entry)) :
    Assembled (puts.foldl (fun current put => current.insert put.1 put.2)
      store) := by
  induction puts generalizing store with
  | nil => exact assembled
  | cons put puts hypothesis => exact hypothesis (assembled.insert put.1 put.2)

/-- All writes make stores. -/
theorem Assembled.perform
    {store : GraphStore}
    (assembled : store.Assembled)
    (write : Write) :
    Assembled (store.perform write) := by
  by_cases puts : ∀ taken, write ≠ .unmark taken
  · rw [perform_eq_inserts puts]
    exact assembled.inserts _
  · simp only [not_forall, not_not] at puts
    obtain ⟨taken, rfl⟩ := puts
    exact assembled.unmark taken

/-- Every row of a store is that of a vertex that is not negative. -/
def Named (store : GraphStore) : Prop :=
  ∀ key row, store.table.find? key = some row ->
    ∃ vertex : VertexId, 0 ≤ vertex ∧ key = VertexId.key vertex

theorem Named.keyed
    {store : GraphStore}
    (named : store.Named) :
    store.Keyed := by
  intro key row found
  obtain ⟨vertex, -, same⟩ := named key row found
  exact ⟨vertex, same⟩

theorem Named.insert
    {store : GraphStore}
    {vertex : VertexId}
    (named : store.Named)
    (natural : 0 ≤ vertex)
    (row : Row) :
    Named { store with
      table := store.table.insert (VertexId.key vertex) row } := by
  intro key held found
  rcases find?_insert_cases found with here | before
  · exact ⟨vertex, natural, here⟩
  · exact named key held before

/-- Where a query selects something of a vertex, there is a row for it. -/
theorem find?_of_select
    {store : GraphStore}
    {query : Slice}
    {vertex : VertexId}
    (selected : query.select (store.row vertex) ≠ []) :
    store.table.find? (VertexId.key vertex) = some (store.row vertex) := by
  cases held : store.table.find? (VertexId.key vertex) with
  | some row =>
      rw [GraphStore.row, held]
      rfl
  | none =>
      have empty : store.row vertex = ByteMap.empty := by
        rw [GraphStore.row, held]
        rfl
      have nothing : query.select ByteMap.empty = [] := by
        rw [Slice.select_eq, Slice.bound]
        cases query.limit with
        | none => rfl
        | some limit => exact List.take_nil
      rw [empty] at selected
      exact absurd nothing selected

/-- Where no negative vertex has a row, queries select nothing of negative vertices. -/
theorem Named.natural_of_select
    {store : GraphStore}
    {query : Slice}
    {vertex : VertexId}
    (named : store.Named)
    (selected : query.select (store.row vertex) ≠ []) :
    0 ≤ vertex := by
  obtain ⟨other, natural, same⟩ := named _ _ (find?_of_select selected)
  exact VertexId.key_injective same ▸ natural

/-- A write that names no negative vertex puts nothing into the row of one. -/
theorem Write.Natural.of_puts
    {layout : IdLayout}
    {write : Write}
    {vertex : VertexId}
    {entry : Entry}
    (natural : write.Natural)
    (puts : (vertex, entry) ∈ write.puts layout) :
    0 ≤ vertex := by
  cases write with
  | addVertex marked =>
      obtain ⟨rfl, -⟩ := Prod.mk.inj (List.mem_singleton.1 puts)
      exact natural
  | addPartitioned count partitions =>
      obtain ⟨sibling, member, same⟩ := List.mem_map.1 puts
      obtain ⟨rfl, -⟩ := Prod.mk.inj same
      obtain ⟨partition, -, rfl⟩ := List.mem_map.1 member
      exact VertexId.natural_of_word_lt (layout.word_compose_lt _ _ _)
  | unmark taken => cases puts
  | addEdge label source target =>
      rcases List.mem_cons.1 puts with here | later
      · obtain ⟨rfl, -⟩ := Prod.mk.inj here
        exact natural.1
      · obtain ⟨rfl, -⟩ := Prod.mk.inj (List.mem_singleton.1 later)
        exact natural.2
  | putProperty owner type value =>
      obtain ⟨rfl, -⟩ := Prod.mk.inj (List.mem_singleton.1 puts)
      exact natural

theorem Named.perform
    {store : GraphStore}
    {write : Write}
    (named : store.Named)
    (natural : write.Natural) :
    Named (store.perform write) := by
  have inserts (puts : List (VertexId × Entry))
      (natural : ∀ put ∈ puts, 0 ≤ put.1) :
      Named (puts.foldl (fun current put => current.insert put.1 put.2)
        store) := by
    induction puts generalizing store with
    | nil => exact named
    | cons put puts hypothesis =>
        have first := named.insert (natural put List.mem_cons_self)
          ((store.row put.1).insert put.2.column put.2.value)
        exact hypothesis first fun other member =>
          natural other (List.mem_cons_of_mem put member)
  by_cases puts : ∀ taken, write ≠ .unmark taken
  · rw [perform_eq_inserts puts]
    exact inserts _ fun put member => natural.of_puts member
  · simp only [not_forall, not_not] at puts
    obtain ⟨taken, rfl⟩ := puts
    rw [GraphStore.perform, unmark]
    split
    · exact named
    · exact named.insert natural _

/-- Writes that name no negative vertex leave rows of vertices that are not negative
only. -/
theorem named_ofWrites
    (layout : IdLayout)
    {writes : List Write}
    (natural : ∀ write ∈ writes, write.Natural) :
    Named (ofWrites layout writes) := by
  induction writes using List.reverseRecOn with
  | nil =>
      intro key row found
      cases found
  | append_singleton writes write hypothesis =>
      rw [ofWrites_concat]
      exact (hypothesis fun other member =>
        natural other (List.mem_append_left _ member)).perform
          (natural write (List.mem_append_right _
            (List.mem_singleton_self _)))

end GraphStore

/-! ## Streams -/

namespace Transaction

/-- The stream that a query opens on a fresh snapshot of a store. -/
def streamOf (store : GraphStore) (query : Slice) : KeyStream :=
  Cursor.stream ((begin store).cursor query)

variable {store : GraphStore}

/-- A query reads the records of all rows where no faults are planned. -/
theorem streamOf_eq
    (faultless : store.faults = Faults.empty)
    (query : Slice) :
    streamOf store query =
      ⟨(Cursor.records query store.table.entries).map .record, none⟩ := by
  simp [streamOf, Cursor.stream, cursor, begin, faultless, Faults.failure?,
    Faults.stall?, Faults.empty]

/-- The record that a query has of a row, if it selects something of it. -/
def recordOf? (query : Slice) (entry : Bytes × Row) : Option KeyedEntries :=
  if query.select entry.2 = [] then none
  else some ⟨entry.1, query.select entry.2⟩

theorem records_eq (query : Slice) (rows : List (Bytes × Row)) :
    Cursor.records query rows = rows.filterMap (recordOf? query) := by
  induction rows with
  | nil => rfl
  | cons entry rows hypothesis =>
      obtain ⟨key, row⟩ := entry
      rw [Cursor.records, List.filterMap_cons, recordOf?, hypothesis]
      cases query.select row <;> rfl

/-- The item that a query has of a row, if it selects something of it and the vertex is
not hidden. -/
def itemOf? (query : Slice) (entry : Bytes × Row) : Option Item :=
  (recordOf? query entry).bind fun record => Read.item? (.record record)

theorem recordOf?_eq_some
    {query : Slice}
    {entry : Bytes × Row}
    {record : KeyedEntries}
    (found : recordOf? query entry = some record) :
    record = ⟨entry.1, query.select entry.2⟩ := by
  rw [recordOf?] at found
  split at found
  · cases found
  · exact (Option.some.inj found).symm

/-- A read of a row succeeds unless the vertex is negative. -/
theorem isNone_fault?_record (vertex : VertexId) (entries : List Entry) :
    (Read.fault? (.record ⟨VertexId.key vertex, entries⟩)).isNone ↔
      0 ≤ vertex := by
  by_cases natural : 0 ≤ vertex
  · rw [Read.fault?_of_ofKey (VertexId.ofKey_key natural)]
    exact iff_of_true rfl natural
  · rw [Read.fault?_of_ofKey_error (VertexId.ofKey_key_of_negative natural)]
    exact iff_of_false Bool.false_ne_true natural

/-- Where a read of a snapshot succeeds, so do all reads before it. -/
theorem reads_closed
    (keyed : store.Keyed)
    (query : Slice) :
    ((Cursor.records query store.table.entries).map Read.record).Pairwise
      fun read other => other.fault?.isNone -> read.fault?.isNone := by
  rw [List.pairwise_map, records_eq, List.pairwise_filterMap]
  refine store.table.ascending.imp_of_mem ?_
  rintro ⟨key, row⟩ ⟨otherKey, otherRow⟩ member otherMember before record found
    other otherFound
  obtain ⟨vertex, rfl⟩ := keyed key row (ByteMap.find?_eq_some_iff.2 member)
  obtain ⟨otherVertex, rfl⟩ :=
    keyed otherKey otherRow (ByteMap.find?_eq_some_iff.2 otherMember)
  rw [recordOf?_eq_some found, recordOf?_eq_some otherFound,
    isNone_fault?_record, isNone_fault?_record]
  exact VertexId.natural_of_precedes_key before

/-- No read of a snapshot fails where no vertex is negative. -/
theorem fault?_streamOf
    (named : store.Named)
    (faultless : store.faults = Faults.empty)
    (query : Slice) :
    (streamOf store query).fault? = none := by
  rw [streamOf_eq faultless, KeyStream.fault?, List.findSome?_eq_none_iff]
  intro read member
  obtain ⟨record, among, rfl⟩ := List.mem_map.1 member
  rw [records_eq] at among
  obtain ⟨⟨key, row⟩, held, selected⟩ := List.mem_filterMap.1 among
  obtain ⟨vertex, natural, rfl⟩ :=
    named key row (ByteMap.find?_eq_some_iff.2 held)
  rw [recordOf?_eq_some selected]
  exact Read.fault?_of_ofKey (VertexId.ofKey_key natural) _

/-- A snapshot delivers the items of its rows. -/
theorem delivered_eq
    (keyed : store.Keyed)
    (faultless : store.faults = Faults.empty)
    (query : Slice) :
    (streamOf store query).delivered =
      store.table.entries.filterMap (itemOf? query) := by
  have succeeds : Read.beforeFault
      ((Cursor.records query store.table.entries).map .record) =
      ((Cursor.records query store.table.entries).map .record).filter
        fun read => read.fault?.isNone :=
    (Slice.takeWhile_eq_filter (reads_closed keyed query)
      fun read other closed kept => closed kept).1
  have shown (read : Read) :
      (if read.fault?.isNone then read.item? else none) = read.item? := by
    cases fault : read.fault? with
    | none => rfl
    | some error => exact (Read.item?_of_fault fault).symm
  rw [streamOf_eq faultless, KeyStream.delivered]
  dsimp only
  rw [succeeds, List.filterMap_filter]
  simp only [shown]
  rw [List.filterMap_map, records_eq, List.filterMap_filterMap]
  rfl

/-- An item that a query has of a row is that of the vertex of the row. -/
theorem itemOf?_eq_some
    {query : Slice}
    {vertex : VertexId}
    {row : Row}
    {item : Item} :
    itemOf? query (VertexId.key vertex, row) = some item ↔
      0 ≤ vertex ∧ VertexId.isHidden vertex = false ∧
        query.select row ≠ [] ∧ item = ⟨vertex, query.select row⟩ := by
  rw [itemOf?, recordOf?]
  dsimp only
  by_cases selected : query.select row = []
  · rw [if_pos selected, Option.bind_none]
    exact iff_of_false (fun none => by cases none) fun found =>
      found.2.2.1 selected
  rw [if_neg selected, Option.bind_some]
  by_cases natural : 0 ≤ vertex
  · rw [Read.item?_of_ofKey (VertexId.ofKey_key natural)]
    by_cases hidden : VertexId.isHidden vertex
    · rw [if_pos hidden]
      exact iff_of_false (fun none => by cases none) fun found => by
        rw [hidden] at found
        cases found.2.1
    · rw [if_neg hidden, Option.some.injEq]
      have shown : VertexId.isHidden vertex = false := by simpa using hidden
      exact ⟨fun same => ⟨natural, shown, selected, same.symm⟩, fun found =>
        found.2.2.2.symm⟩
  · rw [Read.item?_of_fault (Read.fault?_of_ofKey_error
      (VertexId.ofKey_key_of_negative natural) _)]
    exact iff_of_false (fun none => by cases none) fun found =>
      natural found.1

/-- What a snapshot delivers: what the query selects of each vertex that is neither
negative nor hidden, where that is anything. -/
theorem mem_delivered
    (keyed : store.Keyed)
    (faultless : store.faults = Faults.empty)
    {query : Slice}
    {item : Item} :
    item ∈ (streamOf store query).delivered ↔
      0 ≤ item.id ∧ VertexId.isHidden item.id = false ∧
        query.select (store.row item.id) ≠ [] ∧
        item.entries = query.select (store.row item.id) := by
  rw [delivered_eq keyed faultless, List.mem_filterMap]
  constructor
  · rintro ⟨⟨key, row⟩, member, found⟩
    have held := ByteMap.find?_eq_some_iff.2 member
    obtain ⟨vertex, rfl⟩ := keyed key row held
    obtain ⟨natural, shown, selected, rfl⟩ := itemOf?_eq_some.1 found
    have same : store.row vertex = row := by
      rw [GraphStore.row, held]
      rfl
    rw [same]
    exact ⟨natural, shown, selected, rfl⟩
  · rintro ⟨natural, shown, selected, entries⟩
    have held := GraphStore.find?_of_select selected
    refine ⟨(VertexId.key item.id, store.row item.id),
      ByteMap.find?_eq_some_iff.1 held, ?_⟩
    rw [itemOf?_eq_some]
    refine ⟨natural, shown, selected, ?_⟩
    rw [← entries]

/-- A snapshot delivers its vertices in ascending order. -/
theorem ascends_streamOf
    (keyed : store.Keyed)
    (faultless : store.faults = Faults.empty)
    (query : Slice) :
    (streamOf store query).Ascends := by
  rw [KeyStream.Ascends, delivered_eq keyed faultless, Item.Ascend,
    List.pairwise_filterMap]
  refine store.table.ascending.imp_of_mem ?_
  rintro ⟨key, row⟩ ⟨otherKey, otherRow⟩ member otherMember before item found
    other otherFound
  obtain ⟨vertex, rfl⟩ := keyed key row (ByteMap.find?_eq_some_iff.2 member)
  obtain ⟨otherVertex, rfl⟩ :=
    keyed otherKey otherRow (ByteMap.find?_eq_some_iff.2 otherMember)
  obtain ⟨natural, -, -, rfl⟩ := itemOf?_eq_some.1 found
  obtain ⟨otherNatural, -, -, rfl⟩ := itemOf?_eq_some.1 otherFound
  rw [VertexId.precedes_key natural otherNatural] at before
  exact of_decide_eq_true before

end Transaction

/-! ## The probe -/

namespace Item

/-- What the first entry of an item tells of it. -/
theorem of_relation
    {item : Item}
    {relation : Relation}
    {rest : List Entry}
    (first : item.entries = relation.entry :: rest) :
    item.failures = [] ∧
      item.isLive = (relation.type == Relation.markerType) := by
  rw [failures, isLive, first]
  dsimp only
  rw [Relation.ofEntry_entry]
  exact ⟨rfl, rfl⟩

end Item

namespace GraphStore

section Probe

variable
  {layout : IdLayout}
  {writes : List Write}
  {id : VertexId}

/-- The mark of existence as a relation. -/
def marker : Relation := ⟨Relation.markerType, .property, [1]⟩

/-- The probe of a marked vertex finds the mark, whatever else the row holds. -/
theorem probe_of_marked
    (admissible : ∀ write ∈ writes, write.Admissible)
    (marked : Marked layout writes id) :
    Slice.probe.select (row (ofWrites layout writes) id) =
      [Relation.markerEntry] := by
  have held := (find?_marker_ofWrites admissible).2 ⟨rfl, marked⟩
  have member : Relation.markerEntry ∈
      Slice.probe.range (row (ofWrites layout writes) id) :=
    Slice.mem_range.2 ⟨by decide, held⟩
  have ascending := Slice.ascending_range Slice.probe
    (row (ofWrites layout writes) id)
  rw [Slice.select_eq]
  cases range : Slice.probe.range (row (ofWrites layout writes) id) with
  | nil =>
      rw [range] at member
      cases member
  | cons first rest =>
      have among : first ∈
          Slice.probe.range (row (ofWrites layout writes) id) := by
        rw [range]
        exact List.mem_cons_self
      rw [range] at member ascending
      have head : first = Relation.markerEntry := by
        rcases row_cases admissible (Slice.mem_range.1 among).2 with
          ⟨same, -⟩ | ⟨relation, same, free⟩
        · exact same
        · -- The mark would be behind something of a type that is not reserved.
          rcases List.mem_cons.1 member with here | later
          · exact here.symm
          · have before := (List.pairwise_cons.1 ascending).1 _ later
            have column : first.column = relation.column :=
              congrArg Entry.column same
            have lower : marker.type < relation.type :=
              UInt64.lt_of_lt_of_le (by decide) free
            have never := Bytes.not_precedes_of_precedes
              (Relation.precedes_column lower)
            rw [column] at before
            exact absurd (before.symm.trans never) Bool.noConfusion
      rw [head]
      rfl

/-- The probe of a vertex that is not marked finds nothing of a reserved type. -/
theorem probe_of_unmarked
    (admissible : ∀ write ∈ writes, write.Admissible)
    (unmarked : ¬Marked layout writes id)
    {entry : Entry}
    (member : entry ∈
      Slice.probe.select (row (ofWrites layout writes) id)) :
    ∃ relation : Relation, entry = relation.entry ∧
      Relation.firstFreeType ≤ relation.type := by
  rw [Slice.select_eq] at member
  have among : entry ∈
      Slice.probe.range (row (ofWrites layout writes) id) :=
    List.mem_of_mem_take member
  rcases row_cases admissible (Slice.mem_range.1 among).2 with
    ⟨-, marked⟩ | free
  · exact absurd marked unmarked
  · exact free

/-- The probe of a delivered vertex can be read. -/
theorem readable_probe
    {item : Item}
    (entries : item.entries =
      Slice.probe.select (row (ofWrites layout writes) item.id))
    (selected : Slice.probe.select (row (ofWrites layout writes) item.id) ≠ []) :
    item.failures = [] := by
  cases first : item.entries with
  | nil => exact absurd (entries ▸ first) selected
  | cons entry rest =>
      have member : entry ∈
          Slice.probe.select (row (ofWrites layout writes) item.id) := by
        rw [← entries, first]
        exact List.mem_cons_self
      rw [Slice.select_eq] at member
      have among : entry ∈
          Slice.probe.range (row (ofWrites layout writes) item.id) :=
        List.mem_of_mem_take member
      obtain ⟨relation, same⟩ :=
        exists_relation_of_row (Slice.mem_range.1 among).2
      have same : entry = relation.entry := same
      rw [same] at first
      exact (Item.of_relation first).1

/-- The probe of a delivered vertex tells whether the vertex is marked. -/
theorem probe_tells
    (admissible : ∀ write ∈ writes, write.Admissible)
    {item : Item}
    (entries : item.entries =
      Slice.probe.select (row (ofWrites layout writes) item.id))
    (selected : Slice.probe.select (row (ofWrites layout writes) item.id) ≠ []) :
    item.isLive = true ↔ Marked layout writes item.id := by
  by_cases marked : Marked layout writes item.id
  · rw [probe_of_marked admissible marked] at entries
    refine iff_of_true ?_ marked
    rw [(@Item.of_relation item marker [] entries).2]
    rfl
  · cases first : item.entries with
    | nil => exact absurd (entries ▸ first) selected
    | cons entry rest =>
        have member : entry ∈
            Slice.probe.select (row (ofWrites layout writes) item.id) := by
          rw [← entries, first]
          exact List.mem_cons_self
        obtain ⟨relation, rfl, free⟩ :=
          probe_of_unmarked admissible marked member
        refine iff_of_false ?_ marked
        rw [(Item.of_relation first).2, Bool.not_eq_true, beq_eq_false_iff_ne]
        intro same
        rw [same] at free
        exact absurd free (by decide)

end Probe

end GraphStore
end GraphSweep
