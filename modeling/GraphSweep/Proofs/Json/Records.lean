import GraphSweep.Proofs.Json.Tokens
import Mathlib.Data.List.Forall2
import Mathlib.Data.List.Nodup

/-!
# Records with fields left out

A record may leave out fields that have their usual value. What is read for a field of
the record is then the value of the field, or nothing where the value is the usual one.
-/

namespace GraphSweep
namespace JsonValue

/-- Fields are given in order, but for some that have their usual value. -/
structure Abridges (usual full short : List (String × JsonValue)) : Prop where
  kept : short.Sublist full
  omitted : ∀ field ∈ full, field ∈ short ∨ field ∈ usual

/-- A document of a record that leaves out some fields that have their usual value, or
none. -/
def AbridgedRecord
    (usual full : List (String × JsonValue))
    (document : JsonValue) : Prop :=
  ∃ short, Abridges usual full short ∧ document = record short

/-- What is given for a field: its value, or nothing if the value is the usual one. -/
def Gives
    (usual : List (String × JsonValue))
    (field : String × JsonValue)
    (given : Option JsonValue) : Prop :=
  given = some field.2 ∨ given = none ∧ field ∈ usual

section Reading

variable {α : Type}

theorem asWord64?_natural (word : UInt64) :
    (natural word.toNat).asWord64? = some word := by
  rw [asWord64?, asNatural?, if_pos word.toNat_lt]
  exact congrArg some (UInt64.ofNat_toNat)

theorem asWord32?_natural (word : UInt32) :
    (natural word.toNat).asWord32? = some word := by
  rw [asWord32?, asNatural?, if_pos word.toNat_lt]
  exact congrArg some (UInt32.ofNat_toNat)

/-- An array of documents is read as what they are documents of. -/
theorem asList?_array
    {read : JsonValue -> Option α}
    {values : List α}
    {documents : List JsonValue}
    (reads : List.Forall₂ (fun value document => read document = some value)
      values documents) :
    (array documents).asList? read = some values := by
  change documents.mapM read = some values
  induction reads with
  | nil => rfl
  | cons first _ hypothesis =>
      rw [List.mapM_cons, first, hypothesis]
      rfl

variable
  {read : JsonValue -> Option α}
  {usual : List (String × JsonValue)}
  {name : String}
  {value : JsonValue}
  {given : Option JsonValue}

/-- A field that is never left out is read from its value. -/
theorem required_of_gives
    (gives : Gives usual (name, value) given)
    (needed : name ∉ usual.map Prod.fst) :
    JsonRecord.required read given = read value := by
  rcases gives with rfl | ⟨rfl, member⟩
  · rfl
  · exact absurd (List.mem_map_of_mem member) needed

/-- A field is read from its value, whether it is left out or not, where its usual value
is read as the value that it has by default. -/
theorem withDefault_of_gives
    (gives : Gives usual (name, value) given)
    (distinct : (usual.map Prod.fst).Nodup)
    {standard : JsonValue}
    (known : (name, standard) ∈ usual)
    {fallback : α}
    (reads : read standard = some fallback) :
    JsonRecord.withDefault read fallback given = read value := by
  rcases gives with rfl | ⟨rfl, member⟩
  · rfl
  · have same : (name, standard) = (name, value) :=
      List.inj_on_of_nodup_map distinct known member rfl
    cases same
    exact reads.symm

end Reading

section Lookup

variable
  {fields usual full short : List (String × JsonValue)}
  {name : String}
  {value : JsonValue}

/-- The fields of an object, as an object keeps them. -/
abbrev keyed (fields : List (String × JsonValue)) :
    List (Option String × JsonValue) :=
  fields.map fun field => (some field.1, field.2)

theorem valuesOf_cons_self :
    valuesOf name (keyed ((name, value) :: fields)) =
      value :: valuesOf name (keyed fields) :=
  List.filterMap_cons_some (if_pos rfl)

theorem valuesOf_cons_of_ne
    {field : String × JsonValue}
    (other : field.1 ≠ name) :
    valuesOf name (keyed (field :: fields)) = valuesOf name (keyed fields) := by
  have different : some field.1 ≠ some name := fun same => other (Option.some.inj same)
  exact List.filterMap_cons_none (if_neg different)

/-- Nothing is given for a name that no field has. -/
theorem valuesOf_of_notMem (absent : name ∉ fields.map Prod.fst) :
    valuesOf name (keyed fields) = [] := by
  induction fields with
  | nil => rfl
  | cons field fields hypothesis =>
      rw [List.map_cons, List.mem_cons, not_or] at absent
      rw [valuesOf_cons_of_ne (Ne.symm absent.1), hypothesis absent.2]

/-- Where the names differ, the value of a field is all that is given for its name. -/
theorem valuesOf_of_mem
    (distinct : (fields.map Prod.fst).Nodup)
    (member : (name, value) ∈ fields) :
    valuesOf name (keyed fields) = [value] := by
  induction fields with
  | nil => exact absurd member List.not_mem_nil
  | cons field fields hypothesis =>
      obtain ⟨absent, distinct⟩ := List.nodup_cons.1 distinct
      rcases List.mem_cons.1 member with rfl | member
      · rw [valuesOf_cons_self, valuesOf_of_notMem absent]
      · have other : field.1 ≠ name := by
          intro same
          have named := List.mem_map_of_mem (f := Prod.fst) member
          exact absent (same ▸ named)
        rw [valuesOf_cons_of_ne other, hypothesis distinct member]

/-- In a record that is abridged, a field is given or has its usual value. -/
theorem Abridges.exists_valueOf?
    (abridges : Abridges usual full short)
    (distinct : (full.map Prod.fst).Nodup)
    {field : String × JsonValue}
    (member : field ∈ full) :
    ∃ given, valueOf? (keyed short) field.1 = some given ∧ Gives usual field given := by
  by_cases present : field ∈ short
  · have values := valuesOf_of_mem (distinct.sublist (abridges.kept.map Prod.fst)) present
    refine ⟨some field.2, ?_, .inl rfl⟩
    rw [valueOf?, values]
  · have absent : field.1 ∉ short.map Prod.fst := by
      intro named
      obtain ⟨other, kept, same⟩ := List.mem_map.1 named
      have equal : other = field :=
        List.inj_on_of_nodup_map distinct (abridges.kept.subset kept) member same
      exact present (equal ▸ kept)
    have usually := (abridges.omitted field member).resolve_left present
    refine ⟨none, ?_, .inr ⟨rfl, usually⟩⟩
    rw [valueOf?, valuesOf_of_notMem absent]

/-- Some fields are looked for in a record that is abridged, one after another. -/
theorem Abridges.exists_values
    (abridges : Abridges usual full short)
    (distinct : (full.map Prod.fst).Nodup)
    (within : fields ⊆ full) :
    ∃ values, (fields.map Prod.fst).mapM (valueOf? (keyed short)) = some values ∧
      List.Forall₂ (Gives usual) fields values := by
  induction fields with
  | nil => exact ⟨[], rfl, .nil⟩
  | cons field fields hypothesis =>
      obtain ⟨member, within⟩ := List.cons_subset.1 within
      obtain ⟨given, told, gives⟩ := abridges.exists_valueOf? distinct member
      obtain ⟨values, others, give⟩ := hypothesis within
      refine ⟨given :: values, ?_, .cons gives give⟩
      rw [List.map_cons, List.mapM_cons, told, others]
      rfl

/-- A document of a record gives each of its fields, or nothing where the field has its
usual value. -/
theorem AbridgedRecord.exists_asRecord?
    {document : JsonValue}
    (abridged : AbridgedRecord usual full document)
    (distinct : (full.map Prod.fst).Nodup) :
    ∃ values, document.asRecord? (full.map Prod.fst) = some ⟨values, false⟩ ∧
      List.Forall₂ (Gives usual) full values := by
  obtain ⟨short, abridges, rfl⟩ := abridged
  obtain ⟨values, told, give⟩ := abridges.exists_values distinct (List.Subset.refl full)
  have named : (keyed short).all (fun field => field.1.isSome) = true := by
    rw [List.all_map]
    exact List.all_eq_true.2 fun _ _ => rfl
  refine ⟨values, ?_, give⟩
  rw [record, asRecord?, if_pos named, told]
  rfl

/-- A document of a record of values that text spells without loss is such a value. -/
theorem AbridgedRecord.plain
    {document : JsonValue}
    (abridged : AbridgedRecord usual full document)
    (plain : ∀ field ∈ full, field.2.Plain) :
    document.Plain := by
  obtain ⟨short, abridges, rfl⟩ := abridged
  refine .object ?_ ?_
  all_goals
    intro field member
    obtain ⟨origin, kept, rfl⟩ := List.mem_map.1 member
  · rfl
  · exact plain origin (abridges.kept.subset kept)

/-- The document with all fields leaves none out. -/
theorem abridgedRecord_self : AbridgedRecord usual full (record full) :=
  ⟨full, ⟨List.Sublist.refl full, fun _ member => .inl member⟩, rfl⟩

end Lookup
end JsonValue
end GraphSweep
