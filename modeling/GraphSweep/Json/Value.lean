/-!
# JSON values

A JSON document is a tree of values. Whole numbers without a sign are kept by
value, all other numbers by their spelling, as nothing reads them. A string may
spell no text, when one of its escapes names half a surrogate pair; such a string
may stand only where nobody reads it.
-/

namespace GraphSweep

/-- A JSON value. -/
inductive JsonValue
  | null
  | bool (value : Bool)
  | natural (value : Nat)
  | number (spelling : String)
  /-- A string, with the text that it spells if it spells one. -/
  | string (text : Option String)
  | array (items : List JsonValue)
  | object (fields : List (Option String × JsonValue))

/-- The fields of a record, as a document gives them. -/
structure JsonRecord where
  /-- The values of the named fields, in the order of the names. -/
  values : List (Option JsonValue)
  /-- Whether the fields are given by position. -/
  positional : Bool

namespace JsonValue

/-- A string that spells a text. -/
def text (text : String) : JsonValue := string (some text)

/-- An object with named fields. -/
def record (fields : List (String × JsonValue)) : JsonValue :=
  object (fields.map fun field => (some field.1, field.2))

/-- A truth value. -/
def asBool? : JsonValue -> Option Bool
  | bool value => some value
  | _ => none

/-- A natural number below a bound. -/
def asNatural? (bound : Nat) : JsonValue -> Option Nat
  | natural value => if value < bound then some value else none
  | _ => none

/-- A number that fits in 64 bits. -/
def asWord64? (value : JsonValue) : Option UInt64 :=
  (value.asNatural? UInt64.size).map UInt64.ofNat

/-- A number that fits in 32 bits. -/
def asWord32? (value : JsonValue) : Option UInt32 :=
  (value.asNatural? UInt32.size).map UInt32.ofNat

/-- A number that fits in a byte. -/
def asByte? (value : JsonValue) : Option UInt8 :=
  (value.asNatural? UInt8.size).map UInt8.ofNat

/-- An array of values of one sort. -/
def asList? {α : Type} (read : JsonValue -> Option α) :
    JsonValue -> Option (List α)
  | array items => items.mapM read
  | _ => none

/-- A value that may be null. -/
def asOption? {α : Type} (read : JsonValue -> Option α) :
    JsonValue -> Option (Option α)
  | null => some none
  | value => (read value).map some

/-- The values given for a name, in order. -/
def valuesOf
    (name : String)
    (fields : List (Option String × JsonValue)) : List JsonValue :=
  fields.filterMap fun field =>
    if field.1 = some name then some field.2 else none

/-- The value given for a name, if it is given at most once. -/
def valueOf?
    (fields : List (Option String × JsonValue))
    (name : String) : Option (Option JsonValue) :=
  match valuesOf name fields with
  | [] => some none
  | [value] => some (some value)
  | _ => none

/-- The fields of a record. They may be given in an object, each at most once and
with others beside them, or by position in an array. -/
def asRecord? (names : List String) : JsonValue -> Option JsonRecord
  | object fields =>
      if fields.all fun field => field.1.isSome then
        (names.mapM (valueOf? fields)).map fun values => ⟨values, false⟩
      else none
  | array items =>
      if items.length ≤ names.length then
        some ⟨items.map some ++
          List.replicate (names.length - items.length) none, true⟩
      else none
  | _ => none

/-- One of some names, as a string or as an object that gives it null. -/
def asName? : JsonValue -> Option String
  | string text => text
  | object [(some name, null)] => some name
  | _ => none

end JsonValue

namespace JsonRecord

/-- The value of a field that has to be given. -/
def required {α : Type} (read : JsonValue -> Option α) :
    Option JsonValue -> Option α
  | some value => read value
  | none => none

/-- The value of a field that has a value where it is not given. -/
def withDefault {α : Type} (read : JsonValue -> Option α) (fallback : α) :
    Option JsonValue -> Option α
  | some value => read value
  | none => some fallback

end JsonRecord
end GraphSweep
