import GraphSweep.GraphStore
import GraphSweep.Proofs.GraphStore.KeyOrder
import Mathlib.Data.List.Induction

/-!
# What writes leave in a store

A store that has been written to holds in each column of a row what was written there
last. Only taking the mark of existence from a vertex takes anything away, and then
only the mark. So a vertex is marked when it has been marked and the mark has not been
taken from it since.
-/

namespace GraphSweep

namespace Entry

/-- The last of some entries that is in a column. -/
def latest? (entries : List Entry) (column : Bytes) : Option Entry :=
  entries.reverse.find? fun entry => entry.column = column

@[simp] theorem latest?_nil (column : Bytes) : latest? [] column = none := rfl

/-- What comes later is looked at first. -/
theorem latest?_append
    (earlier later : List Entry)
    (column : Bytes) :
    latest? (earlier ++ later) column =
      (latest? later column).or (latest? earlier column) := by
  rw [latest?, List.reverse_append, List.find?_append]
  rfl

theorem latest?_singleton (entry : Entry) (column : Bytes) :
    latest? [entry] column =
      if entry.column = column then some entry else none := by
  by_cases here : entry.column = column <;> simp [latest?, here]

/-- The last entry in a column is one of the entries and is in the column. -/
theorem of_latest?_eq_some
    {entries : List Entry}
    {column : Bytes}
    {entry : Entry}
    (latest : latest? entries column = some entry) :
    entry ∈ entries ∧ entry.column = column := by
  refine ⟨List.mem_reverse.1 (List.mem_of_find?_eq_some latest), ?_⟩
  simpa using List.find?_some latest

/-- There is a last entry in a column if there is any. -/
theorem exists_latest?
    {entries : List Entry}
    {entry : Entry}
    (member : entry ∈ entries) :
    ∃ last, latest? entries entry.column = some last := by
  rw [← Option.isSome_iff_exists, latest?, List.find?_isSome]
  exact ⟨entry, List.mem_reverse.2 member, by simp⟩

/-- Where columns tell the entries apart, the last one in a column is the one there. -/
theorem latest?_eq_some_iff
    {entries : List Entry}
    {entry : Entry}
    (told : ∀ one ∈ entries, ∀ other ∈ entries,
      one.column = other.column -> one = other) :
    latest? entries entry.column = some entry ↔ entry ∈ entries := by
  constructor
  · intro latest
    exact (of_latest?_eq_some latest).1
  · intro member
    obtain ⟨last, latest⟩ := exists_latest? member
    obtain ⟨among, same⟩ := of_latest?_eq_some latest
    rw [latest, told last among entry member same]

end Entry

namespace GraphStore

/-- A write to a store. -/
inductive Write
  | addVertex (vertex : VertexId)
  | addPartitioned (count : UInt64) (partitions : UInt32)
  | unmark (vertex : VertexId)
  | addEdge (label : UInt64) (source target : VertexId)
  | putProperty (vertex : VertexId) (type : UInt64) (value : Bytes)
  deriving DecidableEq

namespace Write

/-- The entries that a write puts into rows, in order. -/
def puts (layout : IdLayout) : Write -> List (VertexId × Entry)
  | addVertex vertex => [(vertex, Relation.markerEntry)]
  | addPartitioned count partitions =>
      (layout.siblings count partitions).map (·, Relation.markerEntry)
  | unmark _ => []
  | addEdge label source target =>
      [(source, ⟨Relation.columnOfEdge label .outgoing target, []⟩),
        (target, ⟨Relation.columnOfEdge label .incoming source, []⟩)]
  | putProperty vertex type value =>
      [(vertex, ⟨Relation.columnOfProperty type, value⟩)]

/-- Whether a write marks a vertex as existing. -/
def Marks (layout : IdLayout) (id : VertexId) : Write -> Prop
  | addVertex vertex => vertex = id
  | addPartitioned count partitions => id ∈ layout.siblings count partitions
  | unmark _ | addEdge _ _ _ | putProperty _ _ _ => False

/-- Whether a write names no negative vertex. -/
def Natural : Write -> Prop
  | addVertex vertex | unmark vertex | putProperty vertex _ _ => 0 ≤ vertex
  | addPartitioned _ _ => True
  | addEdge _ source target => 0 ≤ source ∧ 0 ≤ target

/-- Whether a write names no negative vertex and no reserved type. -/
def Admissible : Write -> Prop
  | addVertex vertex => 0 ≤ vertex
  | addPartitioned _ _ => True
  | unmark vertex => 0 ≤ vertex
  | addEdge label source target =>
      Relation.firstFreeType ≤ label ∧ 0 ≤ source ∧ 0 ≤ target
  | putProperty vertex type _ => Relation.firstFreeType ≤ type ∧ 0 ≤ vertex

instance (write : Write) : Decidable write.Admissible :=
  match write with
  | addVertex vertex => inferInstanceAs (Decidable (0 ≤ vertex))
  | addPartitioned _ _ => inferInstanceAs (Decidable True)
  | unmark vertex => inferInstanceAs (Decidable (0 ≤ vertex))
  | addEdge label source target => inferInstanceAs
      (Decidable (Relation.firstFreeType ≤ label ∧ 0 ≤ source ∧ 0 ≤ target))
  | putProperty vertex type _ => inferInstanceAs
      (Decidable (Relation.firstFreeType ≤ type ∧ 0 ≤ vertex))

theorem Admissible.natural
    {write : Write}
    (admissible : write.Admissible) :
    write.Natural := by
  cases write with
  | addVertex | addPartitioned | unmark => exact admissible
  | addEdge | putProperty => exact admissible.2

end Write

/-- Write to a store. -/
def perform (store : GraphStore) : Write -> GraphStore
  | .addVertex vertex => store.addVertex vertex
  | .addPartitioned count partitions => store.addPartitioned count partitions
  | .unmark vertex => store.unmark vertex
  | .addEdge label source target => store.addEdge label source target
  | .putProperty vertex type value => store.putProperty vertex type value

/-- The store that some writes leave, one after another. -/
def ofWrites (layout : IdLayout) (writes : List Write) : GraphStore :=
  writes.foldl perform (empty layout)

/-- The entries for a vertex among some that are put into rows. -/
def entriesFor (vertex : VertexId) (puts : List (VertexId × Entry)) :
    List Entry :=
  (puts.filter fun put => put.1 = vertex).map Prod.snd

/-- The entries that some writes put into the row of a vertex, in order. -/
def written
    (layout : IdLayout)
    (writes : List Write)
    (vertex : VertexId) : List Entry :=
  entriesFor vertex (writes.flatMap (Write.puts layout))

/-- A vertex has been marked as existing, and no write since has taken the mark from
it. -/
def Marked
    (layout : IdLayout)
    (writes : List Write)
    (id : VertexId) : Prop :=
  ∃ before write after, writes = before ++ write :: after ∧
    write.Marks layout id ∧ Write.unmark id ∉ after

/-! ## One write -/

@[simp] theorem entriesFor_append
    (vertex : VertexId)
    (first second : List (VertexId × Entry)) :
    entriesFor vertex (first ++ second) =
      entriesFor vertex first ++ entriesFor vertex second := by
  rw [entriesFor, List.filter_append, List.map_append]
  rfl

theorem mem_entriesFor
    {vertex : VertexId}
    {puts : List (VertexId × Entry)}
    {entry : Entry} :
    entry ∈ entriesFor vertex puts ↔ (vertex, entry) ∈ puts := by
  simp [entriesFor]

theorem written_concat
    (layout : IdLayout)
    (writes : List Write)
    (write : Write)
    (vertex : VertexId) :
    written layout (writes ++ [write]) vertex =
      written layout writes vertex ++
        entriesFor vertex (write.puts layout) := by
  rw [written, List.flatMap_append, entriesFor_append, List.flatMap_singleton]
  rfl

/-- A vertex is marked after a write if the write marks it, or if it was marked before
and the write does not take the mark from it. -/
theorem marked_concat
    (layout : IdLayout)
    (writes : List Write)
    (write : Write)
    (id : VertexId) :
    Marked layout (writes ++ [write]) id ↔
      write.Marks layout id ∨
        (write ≠ .unmark id ∧ Marked layout writes id) := by
  constructor
  · rintro ⟨before, marker, after, split, marks, kept⟩
    rcases List.eq_nil_or_concat after with rfl | ⟨others, last, rfl⟩
    · obtain ⟨-, same⟩ := List.append_inj' split rfl
      rw [← List.singleton_inj.1 same] at marks
      exact Or.inl marks
    · rw [List.concat_eq_append, ← List.cons_append,
        ← List.append_assoc] at split
      obtain ⟨rfl, same⟩ := List.append_inj' split rfl
      rw [← List.singleton_inj.1 same, List.concat_eq_append, List.mem_append,
        not_or] at kept
      refine Or.inr ⟨fun taken => kept.2 ?_, before, marker, others, rfl, marks,
        kept.1⟩
      rw [taken]
      exact List.mem_singleton_self _
  · rintro (marks | ⟨kept, before, marker, after, rfl, marks, untouched⟩)
    · exact ⟨writes, write, [], rfl, marks, List.not_mem_nil⟩
    · refine ⟨before, marker, after ++ [write], by simp, marks, ?_⟩
      rw [List.mem_append, not_or]
      exact ⟨untouched, fun here => kept (List.mem_singleton.1 here).symm⟩

/-- Writes that mark nothing leave the marks that they do not take away. -/
theorem marked_append
    {layout : IdLayout}
    {writes later : List Write}
    {id : VertexId}
    (quiet : ∀ write ∈ later, ¬write.Marks layout id) :
    Marked layout (writes ++ later) id ↔
      .unmark id ∉ later ∧ Marked layout writes id := by
  induction later using List.reverseRecOn with
  | nil => simp
  | append_singleton later write hypothesis =>
      have marks := quiet write
        (List.mem_append_right _ (List.mem_singleton_self write))
      rw [← List.append_assoc, marked_concat, hypothesis fun other member =>
        quiet other (List.mem_append_left _ member), List.mem_append,
        List.mem_singleton, not_or, or_iff_right marks, ← and_assoc,
        and_comm (a := write ≠ .unmark id), ne_comm (a := write)]

/-- Where no mark is taken away, whatever marks a vertex leaves it marked. -/
theorem marked_iff_of_kept
    {layout : IdLayout}
    {writes : List Write}
    {id : VertexId}
    (kept : .unmark id ∉ writes) :
    Marked layout writes id ↔ ∃ write ∈ writes, write.Marks layout id := by
  constructor
  · rintro ⟨before, write, after, rfl, marks, -⟩
    exact ⟨write, List.mem_append_right _ List.mem_cons_self, marks⟩
  · rintro ⟨write, member, marks⟩
    obtain ⟨before, after, split⟩ := List.append_of_mem member
    refine ⟨before, write, after, split, marks, fun taken => kept ?_⟩
    rw [split]
    exact List.mem_append_right _ (List.mem_cons_of_mem _ taken)

section Rows

variable {store : GraphStore} {vertex other : VertexId} {column : Bytes}

/-- Putting an entry into a row changes the one column of the one row. -/
theorem find?_row_insert (entry : Entry) :
    (row (store.insert vertex entry) other).find? column =
      if vertex = other ∧ entry.column = column then some entry.value
      else (store.row other).find? column := by
  by_cases same : vertex = other
  · subst same
    simp [row, insert]
  · have apart : VertexId.key vertex ≠ VertexId.key other := fun equal =>
      same (VertexId.key_injective equal)
    simp [row, insert, same, apart]

/-- Putting some entries into rows leaves in each column what was put there last. -/
theorem find?_row_inserts (puts : List (VertexId × Entry)) :
    (row (puts.foldl (fun current put => current.insert put.1 put.2) store)
      vertex).find? column =
      ((Entry.latest? (entriesFor vertex puts) column).map Entry.value).or
        ((store.row vertex).find? column) := by
  induction puts using List.reverseRecOn with
  | nil => rfl
  | append_singleton puts put hypothesis =>
      rw [List.foldl_append, List.foldl_cons, List.foldl_nil, find?_row_insert,
        hypothesis, entriesFor_append]
      by_cases same : put.1 = vertex
      · have here : entriesFor vertex [put] = [put.2] := by
          simp [entriesFor, same]
        rw [here, Entry.latest?_append, Entry.latest?_singleton]
        by_cases found : put.2.column = column <;> simp [same, found]
      · have elsewhere : entriesFor vertex [put] = [] := by
          simp [entriesFor, same]
        rw [elsewhere, List.append_nil, if_neg (by simp [same])]

/-- Taking the mark from a vertex changes nothing else. -/
theorem find?_row_unmark :
    (row (store.unmark vertex) other).find? column =
      if vertex = other ∧
          column = Relation.columnOfProperty Relation.markerType then none
      else (store.row other).find? column := by
  unfold unmark
  cases found : store.table.find? (VertexId.key vertex) with
  | none =>
      dsimp only
      split
      · next here =>
        rw [← here.1, row, found]
        rfl
      · rfl
  | some held =>
      by_cases same : vertex = other
      · subst same
        simp [row, found, eq_comm]
      · have apart : VertexId.key vertex ≠ VertexId.key other := fun equal =>
          same (VertexId.key_injective equal)
        simp [row, same, apart]

/-- A write puts its entries into rows unless it takes a mark away. -/
theorem perform_eq_inserts
    {write : Write}
    (puts : ∀ taken, write ≠ .unmark taken) :
    store.perform write =
      (write.puts store.layout).foldl
        (fun current put => current.insert put.1 put.2) store := by
  cases write with
  | unmark taken => exact absurd rfl (puts taken)
  | addPartitioned count partitions =>
      rw [Write.puts, List.foldl_map]
      rfl
  | addVertex | addEdge | putProperty => rfl

/-- What a write leaves in a column. -/
theorem find?_row_perform (write : Write) :
    (row (store.perform write) vertex).find? column =
      if write = .unmark vertex ∧
          column = Relation.columnOfProperty Relation.markerType then none
      else
        ((Entry.latest? (entriesFor vertex (write.puts store.layout))
          column).map Entry.value).or ((store.row vertex).find? column) := by
  by_cases puts : ∀ taken, write ≠ .unmark taken
  · rw [perform_eq_inserts puts, find?_row_inserts,
      if_neg fun taken => puts vertex taken.1]
  · simp only [not_forall, not_not] at puts
    obtain ⟨taken, rfl⟩ := puts
    have unmarked := @find?_row_unmark store taken vertex column
    rw [perform, unmarked]
    simp [Write.puts, entriesFor]

end Rows

/-- Writes leave the layout and the planned faults alone. -/
theorem perform_frame (store : GraphStore) (write : Write) :
    (store.perform write).layout = store.layout ∧
      (store.perform write).faults = store.faults := by
  have inserts (puts : List (VertexId × Entry)) :
      GraphStore.layout (puts.foldl
        (fun current put => current.insert put.1 put.2) store) = store.layout ∧
      GraphStore.faults (puts.foldl
        (fun current put => current.insert put.1 put.2) store) =
          store.faults := by
    induction puts generalizing store with
    | nil => exact ⟨rfl, rfl⟩
    | cons put puts hypothesis => exact hypothesis (store.insert put.1 put.2)
  by_cases puts : ∀ taken, write ≠ .unmark taken
  · rw [perform_eq_inserts puts]
    exact inserts _
  · simp only [not_forall, not_not] at puts
    obtain ⟨taken, rfl⟩ := puts
    rw [perform, unmark]
    split <;> exact ⟨rfl, rfl⟩

/-! ## All writes -/

theorem ofWrites_concat
    (layout : IdLayout)
    (writes : List Write)
    (write : Write) :
    ofWrites layout (writes ++ [write]) =
      (ofWrites layout writes).perform write := by
  rw [ofWrites, List.foldl_append]
  rfl

/-- A store that has been written to has the layout that it was made with, and no
faults are planned in it. -/
theorem ofWrites_frame (layout : IdLayout) (writes : List Write) :
    (ofWrites layout writes).layout = layout ∧
      (ofWrites layout writes).faults = Faults.empty := by
  induction writes using List.reverseRecOn with
  | nil => exact ⟨rfl, rfl⟩
  | append_singleton writes write hypothesis =>
      rw [ofWrites_concat, (perform_frame _ write).1, (perform_frame _ write).2]
      exact hypothesis

/-- Whatever a write puts into a row is the entry of a relation. -/
theorem Write.exists_relation
    {layout : IdLayout}
    {write : Write}
    {vertex : VertexId}
    {entry : Entry}
    (puts : (vertex, entry) ∈ write.puts layout) :
    ∃ relation : Relation, entry = relation.entry := by
  cases write with
  | addVertex marked =>
      obtain ⟨-, rfl⟩ := Prod.mk.inj (List.mem_singleton.1 puts)
      exact ⟨⟨Relation.markerType, .property, [1]⟩, rfl⟩
  | addPartitioned count partitions =>
      obtain ⟨sibling, -, same⟩ := List.mem_map.1 puts
      obtain ⟨-, rfl⟩ := Prod.mk.inj same
      exact ⟨⟨Relation.markerType, .property, [1]⟩, rfl⟩
  | unmark taken => cases puts
  | addEdge label source target =>
      rcases List.mem_cons.1 puts with here | later
      · obtain ⟨-, rfl⟩ := Prod.mk.inj here
        exact ⟨⟨label, .edge .outgoing target, []⟩, rfl⟩
      · obtain ⟨-, rfl⟩ := Prod.mk.inj (List.mem_singleton.1 later)
        exact ⟨⟨label, .edge .incoming source, []⟩, rfl⟩
  | putProperty owner type value =>
      obtain ⟨-, rfl⟩ := Prod.mk.inj (List.mem_singleton.1 puts)
      exact ⟨⟨type, .property, value⟩, rfl⟩

/-- An admissible write puts the mark of existence into its column, or something of a
type that is not reserved into the column of that. -/
theorem Write.Admissible.put_cases
    {layout : IdLayout}
    {write : Write}
    {vertex : VertexId}
    {entry : Entry}
    (admissible : write.Admissible)
    (puts : (vertex, entry) ∈ write.puts layout) :
    (entry = Relation.markerEntry ∧ write.Marks layout vertex) ∨
      ∃ relation : Relation, entry = relation.entry ∧
        Relation.firstFreeType ≤ relation.type := by
  cases write with
  | addVertex marked =>
      obtain ⟨rfl, rfl⟩ := Prod.mk.inj (List.mem_singleton.1 puts)
      exact Or.inl ⟨rfl, rfl⟩
  | addPartitioned count partitions =>
      obtain ⟨sibling, member, same⟩ := List.mem_map.1 puts
      obtain ⟨rfl, rfl⟩ := Prod.mk.inj same
      exact Or.inl ⟨rfl, member⟩
  | unmark taken => cases puts
  | addEdge label source target =>
      right
      rcases List.mem_cons.1 puts with here | later
      · obtain ⟨-, rfl⟩ := Prod.mk.inj here
        exact ⟨⟨label, .edge .outgoing target, []⟩, rfl, admissible.1⟩
      · obtain ⟨-, rfl⟩ := Prod.mk.inj (List.mem_singleton.1 later)
        exact ⟨⟨label, .edge .incoming source, []⟩, rfl, admissible.1⟩
  | putProperty owner type value =>
      right
      obtain ⟨-, rfl⟩ := Prod.mk.inj (List.mem_singleton.1 puts)
      exact ⟨⟨type, .property, value⟩, rfl, admissible.1⟩

/-- A write that marks a vertex puts the mark into its row. -/
theorem Write.Marks.puts
    {layout : IdLayout}
    {write : Write}
    {id : VertexId}
    (marks : write.Marks layout id) :
    (id, Relation.markerEntry) ∈ write.puts layout := by
  cases write with
  | addVertex vertex =>
      cases marks
      exact List.mem_singleton_self _
  | addPartitioned count partitions =>
      exact List.mem_map.2 ⟨id, marks, rfl⟩
  | unmark | addEdge | putProperty => cases marks

/-- Only the mark of existence is in its column. -/
theorem column_ne_marker
    {relation : Relation}
    (free : Relation.firstFreeType ≤ relation.type) :
    relation.column ≠ Relation.columnOfProperty Relation.markerType := by
  intro same
  have marker : relation.column =
      Relation.column ⟨Relation.markerType, .property, []⟩ := same
  have type := (Relation.column_injective marker).1
  rw [type] at free
  exact absurd free (by decide)

section Writes

variable
  {layout : IdLayout}
  {writes : List Write}
  {vertex : VertexId}
  {column value : Bytes}

/-- A store holds in a column what was written there last, but for the mark. -/
theorem find?_row_ofWrites
    (other : column ≠ Relation.columnOfProperty Relation.markerType) :
    (row (ofWrites layout writes) vertex).find? column =
      (Entry.latest? (written layout writes vertex) column).map
        Entry.value := by
  induction writes using List.reverseRecOn with
  | nil => rfl
  | append_singleton writes write hypothesis =>
      rw [ofWrites_concat, find?_row_perform, hypothesis, written_concat,
        Entry.latest?_append, Option.map_or,
        (ofWrites_frame layout writes).1, if_neg fun taken => other taken.2]

/-- Whatever a store holds in a row is the entry of a relation. -/
theorem exists_relation_of_row
    (found : (row (ofWrites layout writes) vertex).find? column =
      some value) :
    ∃ relation : Relation, (⟨column, value⟩ : Entry) = relation.entry := by
  induction writes using List.reverseRecOn with
  | nil => cases found
  | append_singleton writes write hypothesis =>
      rw [ofWrites_concat, find?_row_perform] at found
      split at found
      · cases found
      · rcases Option.or_eq_some_iff.1 found with put | ⟨-, before⟩
        · obtain ⟨entry, latest, rfl⟩ := Option.map_eq_some_iff.1 put
          obtain ⟨member, rfl⟩ := Entry.of_latest?_eq_some latest
          exact Write.exists_relation (mem_entriesFor.1 member)
        · exact hypothesis before

/-- A store holds the mark of a vertex exactly when the vertex is marked. -/
theorem find?_marker_ofWrites
    (admissible : ∀ write ∈ writes, write.Admissible) :
    (row (ofWrites layout writes) vertex).find?
        (Relation.columnOfProperty Relation.markerType) = some value ↔
      value = Relation.markerEntry.value ∧ Marked layout writes vertex := by
  induction writes using List.reverseRecOn with
  | nil =>
      constructor
      · intro found
        cases found
      · rintro ⟨-, before, write, after, split, -⟩
        simp at split
  | append_singleton writes write hypothesis =>
      have others : ∀ write ∈ writes, write.Admissible := fun write member =>
        admissible write (List.mem_append_left _ member)
      have last : write.Admissible :=
        admissible write (List.mem_append_right _ (List.mem_singleton_self _))
      rw [ofWrites_concat, find?_row_perform, marked_concat,
        (ofWrites_frame layout writes).1]
      by_cases taken : write = .unmark vertex
      · rw [if_pos ⟨taken, rfl⟩]
        simp [taken, Write.Marks]
      · rw [if_neg fun both => taken both.1]
        by_cases marks : write.Marks layout vertex
        · obtain ⟨entry, latest⟩ :=
            Entry.exists_latest? (mem_entriesFor.2 marks.puts)
          obtain ⟨member, same⟩ := Entry.of_latest?_eq_some latest
          have marker : entry = Relation.markerEntry := by
            rcases last.put_cases (mem_entriesFor.1 member) with
              ⟨marker, -⟩ | ⟨relation, rfl, free⟩
            · exact marker
            · exact absurd same (column_ne_marker free)
          have found : Entry.latest? (entriesFor vertex (write.puts layout))
              (Relation.columnOfProperty Relation.markerType) =
                some Relation.markerEntry := marker ▸ latest
          rw [found]
          simp [marks, eq_comm]
        · have none : Entry.latest? (entriesFor vertex (write.puts layout))
              (Relation.columnOfProperty Relation.markerType) = none := by
            rw [Option.eq_none_iff_forall_ne_some]
            intro entry latest
            obtain ⟨member, same⟩ := Entry.of_latest?_eq_some latest
            rcases last.put_cases (mem_entriesFor.1 member) with
              ⟨-, marked⟩ | ⟨relation, rfl, free⟩
            · exact marks marked
            · exact column_ne_marker free same
          rw [none, Option.map_none, Option.none_or, hypothesis others]
          simp [marks, taken]

/-- A store holds in every column of a marked vertex what was written there last. -/
theorem find?_row_of_marked
    (admissible : ∀ write ∈ writes, write.Admissible)
    (marked : Marked layout writes vertex) :
    (row (ofWrites layout writes) vertex).find? column =
      (Entry.latest? (written layout writes vertex) column).map
        Entry.value := by
  by_cases other : column = Relation.columnOfProperty Relation.markerType
  · subst other
    rw [(find?_marker_ofWrites admissible).2 ⟨rfl, marked⟩]
    obtain ⟨before, write, after, rfl, marks, -⟩ := marked
    have member : Relation.markerEntry ∈
        written layout (before ++ write :: after) vertex := by
      rw [written, mem_entriesFor, List.mem_flatMap]
      exact ⟨write, List.mem_append_right _ List.mem_cons_self, marks.puts⟩
    obtain ⟨entry, latest⟩ := Entry.exists_latest? member
    obtain ⟨among, same⟩ := Entry.of_latest?_eq_some latest
    rw [written, mem_entriesFor, List.mem_flatMap] at among
    obtain ⟨putter, wrote, puts⟩ := among
    rcases (admissible putter wrote).put_cases puts with
      ⟨marker, -⟩ | ⟨relation, rfl, free⟩
    · have found : Entry.latest?
          (written layout (before ++ write :: after) vertex)
          (Relation.columnOfProperty Relation.markerType) =
            some Relation.markerEntry := marker ▸ latest
      rw [found]
      rfl
    · exact absurd same (column_ne_marker free)
  · exact find?_row_ofWrites other

/-- A store holds nothing in a row but the mark and what is not of a reserved type. -/
theorem row_cases
    (admissible : ∀ write ∈ writes, write.Admissible)
    (found : (row (ofWrites layout writes) vertex).find? column =
      some value) :
    ((⟨column, value⟩ : Entry) = Relation.markerEntry ∧
        Marked layout writes vertex) ∨
      ∃ relation : Relation, (⟨column, value⟩ : Entry) = relation.entry ∧
        Relation.firstFreeType ≤ relation.type := by
  by_cases marker : column = Relation.columnOfProperty Relation.markerType
  · subst marker
    obtain ⟨rfl, marked⟩ := (find?_marker_ofWrites admissible).1 found
    exact Or.inl ⟨rfl, marked⟩
  · rw [find?_row_ofWrites marker] at found
    obtain ⟨entry, latest, rfl⟩ := Option.map_eq_some_iff.1 found
    obtain ⟨member, rfl⟩ := Entry.of_latest?_eq_some latest
    rw [written, mem_entriesFor, List.mem_flatMap] at member
    obtain ⟨write, wrote, puts⟩ := member
    rcases (admissible write wrote).put_cases puts with
      ⟨rfl, -⟩ | ⟨relation, same, free⟩
    · exact absurd rfl marker
    · exact Or.inr ⟨relation, same, free⟩

end Writes

end GraphStore
end GraphSweep
