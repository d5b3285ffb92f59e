import GraphSweep.Json.Value

/-!
# Writing JSON

A value is written either without any blanks, or with a line for each item and
two blanks for each level. An empty array or object takes no lines in either
form.
-/

namespace GraphSweep

namespace JsonValue

/-- The characters by which a character in a string is written. -/
def escape (char : Char) : List Char :=
  if char = '"' then ['\\', '"']
  else if char = '\\' then ['\\', '\\']
  else if char.toNat = 8 then ['\\', 'b']
  else if char.toNat = 12 then ['\\', 'f']
  else if char = '\n' then ['\\', 'n']
  else if char = '\r' then ['\\', 'r']
  else if char = '\t' then ['\\', 't']
  else if char.toNat < 32 then
    ['\\', 'u', '0', '0', Char.ofNat (48 + char.toNat / 16),
      (Nat.digitChar (char.toNat % 16))]
  else [char]

/-- A text as a JSON string. -/
def quote (text : String) : String :=
  "\"" ++ String.ofList (text.toList.flatMap escape) ++ "\""

/-- How values are set out. -/
structure Style where
  /-- What separates a key from its value. -/
  colon : String
  /-- What stands before an item at a level. -/
  lineBreak : Nat -> String

/-- Everything on one line, without blanks. -/
def compact : Style := ⟨":", fun _ => ""⟩

/-- A line for each item, two blanks for each level. -/
def pretty : Style :=
  ⟨": ", fun level => "\n" ++ String.ofList (List.replicate (2 * level) ' ')⟩

/-- Items between brackets, each on a line of its own if the style says so. -/
def enclose
    (style : Style)
    (level : Nat)
    (opening closing : String)
    (items : List String) : String :=
  match items with
  | [] => opening ++ closing
  | items =>
      opening ++ style.lineBreak (level + 1) ++
        String.intercalate ("," ++ style.lineBreak (level + 1)) items ++
        style.lineBreak level ++ closing

mutual

/-- The text of a value at a level. -/
def render (style : Style) (level : Nat) : JsonValue -> String
  | null => "null"
  | bool value => if value then "true" else "false"
  | natural value => toString value
  | number spelling => spelling
  | string text => quote (text.getD "")
  | array items =>
      enclose style level "[" "]" (renderItems style (level + 1) items)
  | object fields =>
      enclose style level "\x7b" "\x7d" (renderFields style (level + 1) fields)

/-- The texts of the items of an array. -/
def renderItems (style : Style) (level : Nat) : List JsonValue -> List String
  | [] => []
  | item :: rest => render style level item :: renderItems style level rest

/-- The texts of the fields of an object. -/
def renderFields (style : Style) (level : Nat) :
    List (Option String × JsonValue) -> List String
  | [] => []
  | (key, value) :: rest =>
      (quote (key.getD "") ++ style.colon ++ render style level value) ::
        renderFields style level rest

end

/-- The text of a value without blanks. -/
def toCompact (value : JsonValue) : String := value.render compact 0

/-- The text of a value with a line for each item. -/
def toPretty (value : JsonValue) : String := value.render pretty 0

end JsonValue
end GraphSweep
