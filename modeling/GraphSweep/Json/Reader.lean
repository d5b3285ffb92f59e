import GraphSweep.Bytes
import GraphSweep.Json.Value

/-!
# Reading JSON

Text is read in two passes. The first passes over the characters and cuts them
into tokens, the second over the tokens with a stack of the arrays and objects
that are open. Both look at one thing at a time, so arrays may nest without
bound. Only the four blanks that the format names may stand between tokens.
-/

namespace GraphSweep

/-- A piece of JSON text that stands for itself. -/
inductive JsonToken
  | openArray
  | closeArray
  | openObject
  | closeObject
  | comma
  | colon
  | string (text : Option String)
  /-- A number, a truth value or null. -/
  | scalar (value : JsonValue)

namespace JsonToken

/-- A string that is being read. -/
structure OpenString where
  /-- The characters so far, last one first. -/
  reversed : List Char
  /-- The first half of a surrogate pair that waits for the second. -/
  half : Option Nat
  /-- Whether the string spells no text. -/
  broken : Bool

/-- How far a number has been read. -/
inductive NumberStage
  | sign
  | zero
  | whole
  | point
  | fraction
  | exponent
  | exponentSign
  | exponentDigits
  deriving DecidableEq

/-- Where in a token the first pass is. -/
inductive Stage
  | between
  | inString (content : OpenString)
  | inEscape (content : OpenString)
  /-- In the digits of an escape, of which some are still to come. -/
  | inUnicode (content : OpenString) (missing value : Nat)
  | inNumber (stage : NumberStage) (reversed : List Char)
  | inWord (rest : List Char) (value : JsonValue)

/-- A blank that may stand between tokens. -/
def isBlank (char : Char) : Bool :=
  char = ' ' || char = '\t' || char = '\n' || char = '\r'

namespace OpenString

/-- A string of which nothing has been read. -/
def start : OpenString := ⟨[], none, false⟩

/-- The string with a character more. -/
def push (content : OpenString) (char : Char) : OpenString :=
  ⟨char :: content.reversed, none, content.broken || content.half.isSome⟩

/-- The string with a unit of an escape more: a character, or half of one. -/
def pushUnit (content : OpenString) (unit : Nat) : OpenString :=
  if 0xD800 ≤ unit ∧ unit < 0xDC00 then
    ⟨content.reversed, some unit, content.broken || content.half.isSome⟩
  else if 0xDC00 ≤ unit ∧ unit < 0xE000 then
    match content.half with
    | some high =>
        ⟨Char.ofNat (0x10000 + (high - 0xD800) * 0x400 + (unit - 0xDC00)) ::
          content.reversed, none, content.broken⟩
    | none => ⟨content.reversed, none, true⟩
  else content.push (Char.ofNat unit)

/-- The text of the string, if it spells one. -/
def finish (content : OpenString) : Option String :=
  if content.broken || content.half.isSome then none
  else some (String.ofList content.reversed.reverse)

end OpenString

/-- The character that a short escape stands for. -/
def shortEscape? (char : Char) : Option Char :=
  match char with
  | '"' => some '"'
  | '\\' => some '\\'
  | '/' => some '/'
  | 'b' => some (Char.ofNat 8)
  | 'f' => some (Char.ofNat 12)
  | 'n' => some '\n'
  | 'r' => some '\r'
  | 't' => some '\t'
  | _ => none

/-- How a number goes on with a character, if it does. -/
def NumberStage.next? (stage : NumberStage) (char : Char) : Option NumberStage :=
  match stage with
  | .sign =>
      if char = '0' then some .zero
      else if char.isDigit then some .whole
      else none
  | .zero =>
      if char = '.' then some .point
      else if char = 'e' ∨ char = 'E' then some .exponent
      else none
  | .whole =>
      if char.isDigit then some .whole
      else if char = '.' then some .point
      else if char = 'e' ∨ char = 'E' then some .exponent
      else none
  | .point => if char.isDigit then some .fraction else none
  | .fraction =>
      if char.isDigit then some .fraction
      else if char = 'e' ∨ char = 'E' then some .exponent
      else none
  | .exponent =>
      if char.isDigit then some .exponentDigits
      else if char = '+' ∨ char = '-' then some .exponentSign
      else none
  | .exponentSign => if char.isDigit then some .exponentDigits else none
  | .exponentDigits => if char.isDigit then some .exponentDigits else none

/-- Whether a number may end where it is. -/
def NumberStage.isComplete : NumberStage -> Bool
  | .zero | .whole | .fraction | .exponentDigits => true
  | _ => false

/-- The number that digits spell. -/
def digitsValue (digits : List Char) : Nat :=
  digits.foldl (fun value digit => value * 10 + (digit.toNat - 48)) 0

/-- The number that has been read, if it may end where it is. -/
def finishNumber?
    (stage : NumberStage)
    (reversed : List Char) : Option JsonToken :=
  if stage.isComplete then
    let spelling := reversed.reverse
    if spelling.all Char.isDigit then
      some (.scalar (.natural (digitsValue spelling)))
    else some (.scalar (.number (String.ofList spelling)))
  else none

/-- Begin a token, or pass over a blank. -/
def begin? (char : Char) : Option (Stage × List JsonToken) :=
  match char with
  | '[' => some (.between, [.openArray])
  | ']' => some (.between, [.closeArray])
  | '\x7b' => some (.between, [.openObject])
  | '\x7d' => some (.between, [.closeObject])
  | ',' => some (.between, [.comma])
  | ':' => some (.between, [.colon])
  | '"' => some (.inString .start, [])
  | 't' => some (.inWord ['r', 'u', 'e'] (.bool true), [])
  | 'f' => some (.inWord ['a', 'l', 's', 'e'] (.bool false), [])
  | 'n' => some (.inWord ['u', 'l', 'l'] .null, [])
  | '-' => some (.inNumber .sign ['-'], [])
  | '0' => some (.inNumber .zero ['0'], [])
  | _ =>
      if isBlank char then some (.between, [])
      else if char.isDigit then some (.inNumber .whole [char], [])
      else none

/-- Go on with a character; tokens that it completes come out. -/
def step? (stage : Stage) (char : Char) : Option (Stage × List JsonToken) :=
  match stage with
  | .between => begin? char
  | .inString content =>
      if char = '"' then some (.between, [.string content.finish])
      else if char = '\\' then some (.inEscape content, [])
      else if char.toNat < 32 then none
      else some (.inString (content.push char), [])
  | .inEscape content =>
      if char = 'u' then some (.inUnicode content 4 0, [])
      else (shortEscape? char).map fun escaped =>
        (.inString (content.push escaped), [])
  | .inUnicode content missing value => do
      let digit <- Bytes.hexValue? char
      let unit := value * 16 + digit
      if missing ≤ 1 then some (.inString (content.pushUnit unit), [])
      else some (.inUnicode content (missing - 1) unit, [])
  | .inNumber stage reversed =>
      match stage.next? char with
      | some next => some (.inNumber next (char :: reversed), [])
      | none => do
          let token <- finishNumber? stage reversed
          let (next, tokens) <- begin? char
          return (next, token :: tokens)
  | .inWord rest value =>
      match rest with
      | [] => none
      | [last] =>
          if char = last then some (.between, [.scalar value]) else none
      | expected :: others =>
          if char = expected then some (.inWord others value, []) else none

/-- The tokens of a text from a stage on, in order. -/
def scanFrom (stage : Stage) : List Char -> Option (List JsonToken)
  | [] =>
      match stage with
      | .between => some []
      | .inNumber stage reversed =>
          (finishNumber? stage reversed).map fun token => [token]
      | _ => none
  | char :: rest => do
      let (next, tokens) <- step? stage char
      let others <- scanFrom next rest
      return tokens ++ others

/-- The tokens of a text. -/
def scan? (chars : List Char) : Option (List JsonToken) :=
  scanFrom .between chars

end JsonToken

namespace JsonValue

/-- An array or object that is open, with what it holds so far, last one
first. -/
inductive Frame
  | array (reversed : List JsonValue)
  | object
      (reversed : List (Option String × JsonValue))
      (key : Option String)

/-- What may come next. -/
inductive Expected
  | value
  /-- A value, or the end of the array just opened. -/
  | firstItem
  /-- A key, or the end of the object just opened. -/
  | firstKey (reversed : List (Option String × JsonValue))
  | key (reversed : List (Option String × JsonValue))
  | colon (reversed : List (Option String × JsonValue)) (key : Option String)
  /-- A comma or the end of what is open, or else nothing. -/
  | after (value : JsonValue)

/-- Put a token in its place. -/
def accept? (stack : List Frame) (expected : Expected) (token : JsonToken) :
    Option (List Frame × Expected) :=
  match expected, token with
  | .value, .openArray => some (.array [] :: stack, .firstItem)
  | .value, .openObject => some (stack, .firstKey [])
  | .value, .string text => some (stack, .after (.string text))
  | .value, .scalar value => some (stack, .after value)
  | .firstItem, .closeArray =>
      match stack with
      | .array reversed :: rest => some (rest, .after (.array reversed.reverse))
      | _ => none
  | .firstItem, .openArray => some (.array [] :: stack, .firstItem)
  | .firstItem, .openObject => some (stack, .firstKey [])
  | .firstItem, .string text => some (stack, .after (.string text))
  | .firstItem, .scalar value => some (stack, .after value)
  | .firstKey reversed, .closeObject =>
      some (stack, .after (.object reversed.reverse))
  | .firstKey reversed, .string key => some (stack, .colon reversed key)
  | .key reversed, .string key => some (stack, .colon reversed key)
  | .colon reversed key, .colon =>
      some (.object reversed key :: stack, .value)
  | .after value, .comma =>
      match stack with
      | .array reversed :: rest => some (.array (value :: reversed) :: rest, .value)
      | .object reversed key :: rest =>
          some (rest, .key ((key, value) :: reversed))
      | [] => none
  | .after value, .closeArray =>
      match stack with
      | .array reversed :: rest =>
          some (rest, .after (.array (value :: reversed).reverse))
      | _ => none
  | .after value, .closeObject =>
      match stack with
      | .object reversed key :: rest =>
          some (rest, .after (.object ((key, value) :: reversed).reverse))
      | _ => none
  | _, _ => none

/-- The value of the tokens that are left. -/
def assemble? (stack : List Frame) (expected : Expected) :
    List JsonToken -> Option JsonValue
  | [] =>
      match stack, expected with
      | [], .after value => some value
      | _, _ => none
  | token :: rest => do
      let (stack, expected) <- accept? stack expected token
      assemble? stack expected rest

/-- The value that a text spells, if it is one JSON document. -/
def ofText? (text : String) : Option JsonValue := do
  let tokens <- JsonToken.scan? text.toList
  assemble? [] .value tokens

end JsonValue
end GraphSweep
