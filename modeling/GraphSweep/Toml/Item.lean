/-!
# TOML items

A document is a tree of tables. How a table came to be decides what may still be
added to it: one with a header is complete when its section ends, one that a
dotted key made is open to dotted keys of the same section, and one that only
stands above the table of a header may still get a header of its own.
-/

namespace GraphSweep

/-- How a table came to be. -/
inductive TableOrigin
  | header
  /-- It holds the table of a header and has none yet. -/
  | parent
  | dotted
  | inline
  deriving DecidableEq

/-- A value of a document. -/
inductive TomlItem
  | string (text : String)
  | integer (value : Int)
  | boolean (value : Bool)
  | float (spelling : String)
  /-- A date, a time, or both. -/
  | moment (spelling : String)
  | array (items : List TomlItem)
  | table (origin : TableOrigin) (fields : List (String × TomlItem))
  /-- The tables that headers in double brackets add under one name. -/
  | tables (items : List (List (String × TomlItem)))

/-- The fields of a table. -/
abbrev TomlFields := List (String × TomlItem)

namespace TomlFields

/-- The item under a name. -/
def get? (fields : TomlFields) (name : String) : Option TomlItem :=
  fields.lookup name

/-- The fields with an item under a name, in place of the one there. -/
def set (name : String) (item : TomlItem) : TomlFields -> TomlFields
  | [] => [(name, item)]
  | (other, held) :: rest =>
      if other = name then (name, item) :: rest
      else (other, held) :: set name item rest

/-- The last of some tables, and the ones before it. -/
def last? : List TomlFields -> Option (List TomlFields × TomlFields)
  | [] => none
  | [fields] => some ([], fields)
  | fields :: rest =>
      (last? rest).map fun (earlier, last) => (fields :: earlier, last)

/-- Put an item under a name that is free, below some tables that dotted keys
made or now make. -/
def put (name : String) (item : TomlItem) :
    List String -> TomlFields -> Option TomlFields
  | [], fields =>
      if (fields.get? name).isSome then none
      else some (fields.set name item)
  | step :: rest, fields =>
      match fields.get? step with
      | none => do
          let below <- put name item rest []
          return fields.set step (.table .dotted below)
      | some (.table origin held) =>
          if origin = .dotted ∨ (origin = .parent ∧ rest ≠ []) then do
            let below <- put name item rest held
            return fields.set step (.table origin below)
          else none
      | some (.tables items) =>
          if rest = [] then none
          else do
            let (earlier, last) <- last? items
            let below <- put name item rest last
            return fields.set step (.tables (earlier ++ [below]))
      | some _ => none

/-- Change what is under the name at the end of a path, where the tables on the
path are made if there are none. -/
def alter (change : Option TomlItem -> Option TomlItem) (name : String) :
    List String -> TomlFields -> Option TomlFields
  | [], fields => do
      let item <- change (fields.get? name)
      return fields.set name item
  | step :: rest, fields =>
      match fields.get? step with
      | none => do
          let below <- alter change name rest []
          return fields.set step (.table .parent below)
      | some (.table origin held) =>
          if origin = .inline then none
          else do
            let below <- alter change name rest held
            return fields.set step (.table origin below)
      | some (.tables items) => do
          let (earlier, last) <- last? items
          let below <- alter change name rest last
          return fields.set step (.tables (earlier ++ [below]))
      | some _ => none

end TomlFields

namespace TomlItem

/-- A whole number. -/
def asInteger? : TomlItem -> Option Int
  | integer value => some value
  | _ => none

/-- Whether an item holds others and has none of them. -/
def isEmptyHolder : TomlItem -> Bool
  | array items => items.isEmpty
  | table _ fields => fields.isEmpty
  | _ => false

/-- One of some names, as a string or as a table that gives it nothing. -/
def asName? : TomlItem -> Option String
  | string text => some text
  | table _ [(name, item)] => if item.isEmptyHolder then some name else none
  | _ => none

end TomlItem
end GraphSweep
