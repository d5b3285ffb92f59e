import GraphSweep.Proofs.GraphStore.Columns
import GraphSweep.View

/-!
# Looking up properties

The value of a property is looked for in the lists that were fetched for a vertex, one
list after another, up to the first entry that is of the property or cannot be read. In
what order the lists are gone through is not determined. An order cannot change what the
value is, nor make up a value or an error that no list has; but where one list has the
value and another one an entry that cannot be read, the order decides which of the two is
told.
-/

namespace GraphSweep
namespace View

/-! ## In one list -/

/-- A look-up of a property goes past an entry that can be read and is not of the
property. -/
def Passes (vertex : VertexId) (type : UInt64) (entry : Entry) : Prop :=
  (∃ relation, Relation.ofEntry vertex entry = .ok relation) ∧
    entry.column ≠ Relation.columnOfProperty type

/-- A look-up of a property in a list gets to an entry. -/
def Reaches
    (vertex : VertexId)
    (type : UInt64)
    (entries : List Entry)
    (entry : Entry) : Prop :=
  ∃ before after,
    entries = before ++ entry :: after ∧
      ∀ other ∈ before, Passes vertex type other

section Lists

variable
  {vertex : VertexId}
  {type : UInt64}
  {entry first : Entry}
  {entries rest : List Entry}
  {value : Bytes}
  {error : StorageError}

/-- The entry of a property can be read. -/
theorem ofEntry_of_column_eq
    (property : entry.column = Relation.columnOfProperty type) :
    Relation.ofEntry vertex entry = .ok ⟨type, .property, entry.value⟩ :=
  Relation.ofEntry_eq_ok_iff.2 ⟨property.symm, rfl⟩

/-- What is read from an entry that is gone past is not the property. -/
theorem Passes.not_property
    (passes : Passes vertex type entry)
    {relation : Relation}
    (read : Relation.ofEntry vertex entry = .ok relation) :
    ¬(relation.type = type ∧ relation.kind = .property) := by
  intro property
  obtain ⟨column, -⟩ := Relation.ofEntry_eq_ok_iff.1 read
  have same : relation.column = Relation.column ⟨type, .property, []⟩ :=
    Relation.column_eq_iff.2 property
  exact passes.2 (column.symm.trans same)

theorem findProperty_cons_of_passes (passes : Passes vertex type first) :
    findProperty vertex type (first :: rest) = findProperty vertex type rest := by
  obtain ⟨relation, read⟩ := passes.1
  rw [findProperty, read]
  exact if_neg (passes.not_property read)

/-- Entries that are gone past change nothing. -/
theorem findProperty_append_of_passes
    {before : List Entry}
    (passes : ∀ other ∈ before, Passes vertex type other) :
    findProperty vertex type (before ++ rest) = findProperty vertex type rest := by
  induction before with
  | nil => rfl
  | cons first before hypothesis =>
      rw [List.cons_append, findProperty_cons_of_passes
        (passes first List.mem_cons_self)]
      exact hypothesis fun other member =>
        passes other (List.mem_cons_of_mem first member)

/-- The look-up ends with the value of the property where it gets to one. -/
theorem findProperty_of_reaches_property
    (reaches : Reaches vertex type entries
      ⟨Relation.columnOfProperty type, value⟩) :
    findProperty vertex type entries = .ok (some value) := by
  obtain ⟨before, after, rfl, past⟩ := reaches
  rw [findProperty_append_of_passes past, findProperty, ofEntry_of_column_eq rfl]
  exact if_pos ⟨rfl, rfl⟩

/-- The look-up fails where it gets to an entry that cannot be read. -/
theorem findProperty_of_reaches_unreadable
    (reaches : Reaches vertex type entries entry)
    (unreadable : Relation.ofEntry vertex entry = .error error) :
    findProperty vertex type entries = .error error := by
  obtain ⟨before, after, rfl, past⟩ := reaches
  rw [findProperty_append_of_passes past, findProperty, unreadable]
  rfl

theorem findProperty_of_passes
    (past : ∀ entry ∈ entries, Passes vertex type entry) :
    findProperty vertex type entries = .ok none := by
  rw [← List.append_nil entries, findProperty_append_of_passes past]
  rfl

theorem Reaches.cons
    (reaches : Reaches vertex type rest entry)
    (passes : Passes vertex type first) :
    Reaches vertex type (first :: rest) entry := by
  obtain ⟨before, after, rfl, past⟩ := reaches
  exact ⟨first :: before, after, rfl, List.forall_mem_cons.2 ⟨passes, past⟩⟩

theorem reaches_head : Reaches vertex type (first :: rest) first :=
  ⟨[], rest, rfl, fun _ member => absurd member List.not_mem_nil⟩

/-- A look-up goes past all entries of a list, or it gets to the property, or to an entry
that cannot be read. -/
theorem passes_or_reaches (vertex : VertexId) (type : UInt64) (entries : List Entry) :
    (∀ entry ∈ entries, Passes vertex type entry) ∨
      (∃ value, Reaches vertex type entries
        ⟨Relation.columnOfProperty type, value⟩) ∨
      ∃ entry error, Reaches vertex type entries entry ∧
        Relation.ofEntry vertex entry = .error error := by
  induction entries with
  | nil => exact Or.inl fun entry member => absurd member List.not_mem_nil
  | cons first rest hypothesis =>
      cases read : Relation.ofEntry vertex first with
      | error error => exact Or.inr (Or.inr ⟨first, error, reaches_head, read⟩)
      | ok relation =>
          by_cases property : first.column = Relation.columnOfProperty type
          · exact Or.inr (Or.inl ⟨first.value, property ▸ reaches_head⟩)
          · have passes : Passes vertex type first := ⟨⟨relation, read⟩, property⟩
            rcases hypothesis with past | ⟨value, reaches⟩ | ⟨entry, error, reaches, fails⟩
            · exact Or.inl (List.forall_mem_cons.2 ⟨passes, past⟩)
            · exact Or.inr (Or.inl ⟨value, reaches.cons passes⟩)
            · exact Or.inr (Or.inr ⟨entry, error, reaches.cons passes, fails⟩)

/-- Nothing is found in a list exactly if all of its entries are gone past. -/
theorem findProperty_eq_none_iff :
    findProperty vertex type entries = .ok none ↔
      ∀ entry ∈ entries, Passes vertex type entry := by
  refine ⟨fun nothing => ?_, findProperty_of_passes⟩
  rcases passes_or_reaches vertex type entries with
    past | ⟨value, reaches⟩ | ⟨entry, error, reaches, fails⟩
  · exact past
  · cases (findProperty_of_reaches_property reaches).symm.trans nothing
  · cases (findProperty_of_reaches_unreadable reaches fails).symm.trans nothing

/-- A value is found in a list exactly if the look-up gets to the entry that has it. -/
theorem findProperty_eq_some_iff :
    findProperty vertex type entries = .ok (some value) ↔
      Reaches vertex type entries ⟨Relation.columnOfProperty type, value⟩ := by
  refine ⟨fun found => ?_, findProperty_of_reaches_property⟩
  rcases passes_or_reaches vertex type entries with
    past | ⟨other, reaches⟩ | ⟨entry, error, reaches, fails⟩
  · cases (findProperty_of_passes past).symm.trans found
  · cases (findProperty_of_reaches_property reaches).symm.trans found
    exact reaches
  · cases (findProperty_of_reaches_unreadable reaches fails).symm.trans found

/-- A look-up in a list fails exactly if it gets to an entry that cannot be read. -/
theorem findProperty_eq_error_iff :
    findProperty vertex type entries = .error error ↔
      ∃ entry, Reaches vertex type entries entry ∧
        Relation.ofEntry vertex entry = .error error := by
  refine ⟨fun failed => ?_, fun ⟨entry, reaches, fails⟩ =>
    findProperty_of_reaches_unreadable reaches fails⟩
  rcases passes_or_reaches vertex type entries with
    past | ⟨value, reaches⟩ | ⟨entry, reason, reaches, fails⟩
  · cases (findProperty_of_passes past).symm.trans failed
  · cases (findProperty_of_reaches_property reaches).symm.trans failed
  · cases (findProperty_of_reaches_unreadable reaches fails).symm.trans failed
    exact ⟨entry, reaches, fails⟩

end Lists

/-! ## In several lists -/

/-- Entries that are fetched with one column have one value, in whichever lists they
are. -/
def Consistent (view : View) : Prop :=
  ∀ list ∈ view.fetched, ∀ entry ∈ list.2,
    ∀ other ∈ view.fetched, ∀ twin ∈ other.2,
      entry.column = twin.column -> entry.value = twin.value

/-- A list that was fetched has a value of a property, behind entries that are gone
past. -/
def Tells (view : View) (type : UInt64) (value : Bytes) : Prop :=
  ∃ list ∈ view.fetched, Reaches view.id type list.2
    ⟨Relation.columnOfProperty type, value⟩

/-- A list that was fetched has an entry that cannot be read, behind entries that are gone
past. -/
def Breaks (view : View) (type : UInt64) (error : StorageError) : Prop :=
  ∃ list ∈ view.fetched, ∃ entry, Reaches view.id type list.2 entry ∧
    Relation.ofEntry view.id entry = .error error

/-- The view with its lists gone through in another order. -/
def reordered (view : View) (order : List (Slice × List Entry)) : View :=
  { view with fetched := order }

section Orders

variable
  {view : View}
  {type : UInt64}
  {entry : Entry}
  {entries rest : List Entry}
  {order : List (Slice × List Entry)}

/-- What a look-up gets to in one list after another, it gets to in one of them. -/
theorem Reaches.of_append
    {vertex : VertexId}
    (reaches : Reaches vertex type (entries ++ rest) entry) :
    Reaches vertex type entries entry ∨ Reaches vertex type rest entry := by
  obtain ⟨before, after, split, past⟩ := reaches
  induction entries generalizing before with
  | nil => exact Or.inr ⟨before, after, split, past⟩
  | cons first entries hypothesis =>
      cases before with
      | nil =>
          obtain ⟨rfl, -⟩ := List.cons.inj split
          exact Or.inl reaches_head
      | cons head before =>
          obtain ⟨rfl, behind⟩ := List.cons.inj split
          obtain ⟨passes, past⟩ := List.forall_mem_cons.1 past
          exact (hypothesis before behind past).imp_left fun reaches =>
            reaches.cons passes

theorem Reaches.append_right
    {vertex : VertexId}
    (reaches : Reaches vertex type entries entry) :
    Reaches vertex type (entries ++ rest) entry := by
  obtain ⟨before, after, rfl, past⟩ := reaches
  exact ⟨before, after ++ rest, List.append_assoc _ _ _, past⟩

theorem Reaches.of_flatMap
    {vertex : VertexId}
    (reaches : Reaches vertex type (order.flatMap Prod.snd) entry) :
    ∃ list ∈ order, Reaches vertex type list.2 entry := by
  induction order with
  | nil =>
      obtain ⟨before, after, split, -⟩ := reaches
      simp at split
  | cons list order hypothesis =>
      rw [List.flatMap_cons] at reaches
      rcases reaches.of_append with here | later
      · exact ⟨list, List.mem_cons_self, here⟩
      · obtain ⟨other, member, reaches⟩ := hypothesis later
        exact ⟨other, List.mem_cons_of_mem list member, reaches⟩

/-- Some order lets a look-up get to an entry exactly if it gets to it in one of the
lists, which that order puts first. -/
theorem exists_order_reaches_iff :
    (∃ order : List (Slice × List Entry), order.Perm view.fetched ∧
        Reaches view.id type (order.flatMap Prod.snd) entry) ↔
      ∃ list ∈ view.fetched, Reaches view.id type list.2 entry := by
  constructor
  · rintro ⟨order, same, reaches⟩
    obtain ⟨list, member, reaches⟩ := reaches.of_flatMap
    exact ⟨list, same.mem_iff.1 member, reaches⟩
  · rintro ⟨list, member, reaches⟩
    obtain ⟨front, back, split⟩ := List.append_of_mem member
    refine ⟨list :: (front ++ back), ?_, reaches.append_right⟩
    rw [split]
    exact List.perm_middle.symm

/-- A value is told in some order exactly if one of the lists tells it. -/
theorem exists_order_eq_some_iff {value : Bytes} :
    (∃ order, order.Perm view.fetched ∧
        (view.reordered order).property type = .ok (some value)) ↔
      view.Tells type value := by
  simp only [property, reordered, findProperty_eq_some_iff]
  exact exists_order_reaches_iff

/-- An error is told in some order exactly if one of the lists breaks with it. -/
theorem exists_order_eq_error_iff {error : StorageError} :
    (∃ order, order.Perm view.fetched ∧
        (view.reordered order).property type = .error error) ↔
      view.Breaks type error := by
  simp only [property, reordered, findProperty_eq_error_iff]
  constructor
  · rintro ⟨order, same, entry, reaches, fails⟩
    obtain ⟨list, member, reaches⟩ :=
      exists_order_reaches_iff.1 ⟨order, same, reaches⟩
    exact ⟨list, member, entry, reaches, fails⟩
  · rintro ⟨list, member, entry, reaches, fails⟩
    obtain ⟨order, same, reaches⟩ :=
      exists_order_reaches_iff.2 ⟨list, member, reaches⟩
    exact ⟨order, same, entry, reaches, fails⟩

/-- In every order nothing is told exactly if all entries of all lists are gone past. -/
theorem property_reordered_eq_none_iff (same : order.Perm view.fetched) :
    (view.reordered order).property type = .ok none ↔
      ∀ list ∈ view.fetched, ∀ entry ∈ list.2, Passes view.id type entry := by
  rw [property, findProperty_eq_none_iff]
  constructor
  · intro past list member entry within
    exact past entry (List.mem_flatMap.2 ⟨list, same.mem_iff.2 member, within⟩)
  · intro past entry member
    obtain ⟨list, among, within⟩ := List.mem_flatMap.1 member
    exact past list (same.mem_iff.1 among) entry within

theorem Reaches.mem
    {vertex : VertexId}
    (reaches : Reaches vertex type entries entry) :
    entry ∈ entries := by
  obtain ⟨before, after, rfl, -⟩ := reaches
  exact List.mem_append_right before List.mem_cons_self

/-- Consistent lists tell one value. -/
theorem Tells.unique
    (consistent : view.Consistent)
    {value other : Bytes}
    (tells : view.Tells type value)
    (tellsOther : view.Tells type other) :
    value = other := by
  obtain ⟨list, member, reaches⟩ := tells
  obtain ⟨twin, memberTwin, reachesTwin⟩ := tellsOther
  exact consistent list member _ reaches.mem twin memberTwin _ reachesTwin.mem rfl

/-- Where something is told in an order, it is a value that a list tells or an error that
one breaks with. -/
theorem tells_or_breaks
    (same : order.Perm view.fetched)
    (told : (view.reordered order).property type ≠ .ok none) :
    (∃ value, view.Tells type value ∧
        (view.reordered order).property type = .ok (some value)) ∨
      ∃ error, view.Breaks type error ∧
        (view.reordered order).property type = .error error := by
  cases outcome : (view.reordered order).property type with
  | error error =>
      exact Or.inr ⟨error, exists_order_eq_error_iff.1 ⟨order, same, outcome⟩, rfl⟩
  | ok found =>
      cases found with
      | none => exact absurd outcome told
      | some value =>
          exact Or.inl ⟨value, exists_order_eq_some_iff.1 ⟨order, same, outcome⟩, rfl⟩

/-- All orders agree exactly if no list tells a value where another one breaks, and no two
lists break with different errors. -/
theorem orders_agree_iff (consistent : view.Consistent) :
    (∀ order, order.Perm view.fetched ->
        (view.reordered order).property type = view.property type) ↔
      (∀ value error, view.Tells type value -> ¬view.Breaks type error) ∧
        ∀ error other, view.Breaks type error -> view.Breaks type other ->
          error = other := by
  constructor
  · intro agree
    refine ⟨fun value error tells breaks => ?_, fun error other breaks breaksOther => ?_⟩
    · obtain ⟨one, same, told⟩ := exists_order_eq_some_iff.2 tells
      obtain ⟨two, sameTwo, failed⟩ := exists_order_eq_error_iff.2 breaks
      rw [agree one same] at told
      rw [agree two sameTwo, told] at failed
      cases failed
    · obtain ⟨one, same, failed⟩ := exists_order_eq_error_iff.2 breaks
      obtain ⟨two, sameTwo, failedOther⟩ := exists_order_eq_error_iff.2 breaksOther
      rw [agree one same] at failed
      rw [agree two sameTwo, failed] at failedOther
      exact Except.error.inj failedOther
  · rintro ⟨apart, unique⟩ order same
    have refl := List.Perm.refl view.fetched
    change _ = (view.reordered view.fetched).property type
    by_cases nothing : (view.reordered view.fetched).property type = .ok none
    · rw [nothing, property_reordered_eq_none_iff same,
        ← property_reordered_eq_none_iff refl, nothing]
    · have something : (view.reordered order).property type ≠ .ok none := by
        rwa [Ne, property_reordered_eq_none_iff same,
          ← property_reordered_eq_none_iff refl]
      rcases tells_or_breaks same something with
        ⟨value, tells, one⟩ | ⟨error, breaks, one⟩
      · rcases tells_or_breaks refl nothing with
          ⟨other, tellsOther, two⟩ | ⟨error, breaks, -⟩
        · rw [one, two, tells.unique consistent tellsOther]
        · exact absurd breaks (apart value error tells)
      · rcases tells_or_breaks refl nothing with
          ⟨value, tells, -⟩ | ⟨other, breaksOther, two⟩
        · exact absurd breaks (apart value error tells)
        · rw [one, two, unique error other breaks breaksOther]

/-- The order in which consistent lists are gone through decides between a value that one
list tells and the errors that others break with, and between these, and nothing else: in
some order each of them is told, in every order nothing if there are none of them, and no
two values are. So all orders agree exactly if no list breaks where another one tells the
value and all that break do so with one error; in particular they do where every entry can
be read. -/
theorem order_decides_between_value_and_errors
    {view : View}
    (consistent : view.Consistent)
    (type : UInt64) :
    (∀ value,
      (∃ order, order.Perm view.fetched ∧
        (view.reordered order).property type = .ok (some value)) ↔
      view.Tells type value) ∧
    (∀ error,
      (∃ order, order.Perm view.fetched ∧
        (view.reordered order).property type = .error error) ↔
      view.Breaks type error) ∧
    (∀ order, order.Perm view.fetched ->
      ((view.reordered order).property type = .ok none ↔
        ∀ list ∈ view.fetched, ∀ entry ∈ list.2, Passes view.id type entry)) ∧
    (∀ value other, view.Tells type value -> view.Tells type other ->
      value = other) ∧
    ((∀ order, order.Perm view.fetched ->
        (view.reordered order).property type = view.property type) ↔
      (∀ value error, view.Tells type value -> ¬view.Breaks type error) ∧
        ∀ error other, view.Breaks type error -> view.Breaks type other ->
          error = other) ∧
    ((∀ list ∈ view.fetched, ∀ entry ∈ list.2,
        ∃ relation, Relation.ofEntry view.id entry = .ok relation) ->
      ∀ order, order.Perm view.fetched ->
        (view.reordered order).property type = view.property type) := by
  refine ⟨fun value => exists_order_eq_some_iff,
    fun error => exists_order_eq_error_iff,
    fun order same => property_reordered_eq_none_iff same,
    fun value other tells tellsOther => tells.unique consistent tellsOther,
    orders_agree_iff consistent, fun readable => ?_⟩
  have whole (error : StorageError) : ¬view.Breaks type error := by
    rintro ⟨list, member, entry, reaches, fails⟩
    obtain ⟨relation, read⟩ := readable list member entry reaches.mem
    cases read.symm.trans fails
  exact (orders_agree_iff consistent).2
    ⟨fun value error tells => whole error,
      fun error other breaks => absurd breaks (whole error)⟩

end Orders

/-- A view with a property in one list and a column that cannot be read in another. -/
def torn : View :=
  ⟨64, [(.ofType 65, [⟨Relation.columnOfProperty 65, [7]⟩]),
    (⟨[0], [0, 0], none⟩, [⟨[0], []⟩])]⟩

theorem consistent_torn : torn.Consistent := by
  unfold Consistent
  decide

/-- The value of the property is told if the list that has it is gone through first, and
otherwise the error of the other list. -/
theorem order_of_torn_decides :
    torn.Consistent ∧
      torn.fetched.reverse.Perm torn.fetched ∧
      torn.property 65 = .ok (some [7]) ∧
      (torn.reordered torn.fetched.reverse).property 65 =
        .error (.decode (.columnTooShort 64 1)) :=
  ⟨consistent_torn, List.reverse_perm _, rfl, rfl⟩

theorem orders_of_torn_tell_value_or_error :
    torn.Consistent ∧
      (∃ order, order.Perm torn.fetched ∧
        (torn.reordered order).property 65 = .ok (some [7])) ∧
      (∃ order, order.Perm torn.fetched ∧
        (torn.reordered order).property 65 =
          .error (.decode (.columnTooShort 64 1))) ∧
      ¬∀ order, order.Perm torn.fetched ->
        (torn.reordered order).property 65 = torn.property 65 := by
  obtain ⟨values, errors, -, -, agree, -⟩ :=
    order_decides_between_value_and_errors consistent_torn 65
  have tells : torn.Tells 65 [7] :=
    ⟨_, List.mem_cons_self, reaches_head⟩
  have breaks : torn.Breaks 65 (.decode (.columnTooShort 64 1)) :=
    ⟨_, List.mem_cons_of_mem _ List.mem_cons_self, _, reaches_head, rfl⟩
  refine ⟨consistent_torn, (values [7]).2 tells, (errors _).2 breaks, ?_⟩
  intro same
  exact (agree.1 same).1 _ _ tells breaks

end View
end GraphSweep
