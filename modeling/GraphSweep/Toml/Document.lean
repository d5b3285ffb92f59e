import GraphSweep.Toml.Scalar
import GraphSweep.Toml.Token

/-!
# TOML documents

A document is a sequence of lines: a key with its value, or the header of the
section that follows. A line ends where no bracket is open. The value of a line
is put together with a stack of the arrays and tables that are open, and the
sections are put into the tree one after the other.
-/

namespace GraphSweep

namespace TomlToken

/-- Join a date and the time that follows it after one space. -/
def joinMoments : List TomlToken -> List TomlToken
  | .word date :: .blank ' ' :: .word time :: rest =>
      if TomlItem.cutDate? date = some [] ∧
          (TomlItem.cutMinutes? time).isSome then
        .word (date ++ ' ' :: time) :: joinMoments rest
      else .word date :: .blank ' ' :: joinMoments (.word time :: rest)
  | token :: rest => token :: joinMoments rest
  | [] => []

/-- How many brackets are open after a token. -/
def depthAfter (depth : Nat) : TomlToken -> Nat
  | .openBracket | .openBrace => depth + 1
  | .closeBracket | .closeBrace => depth - 1
  | _ => depth

/-- The lines of a document, each without its end. A line ends where no bracket
is open. -/
def linesFrom (depth : Nat) (reversed : List TomlToken) :
    List TomlToken -> List (List TomlToken)
  | [] => [reversed.reverse]
  | token :: rest =>
      if depth = 0 ∧ token = .newline then
        reversed.reverse :: linesFrom 0 [] rest
      else linesFrom (token.depthAfter depth) (token :: reversed) rest

/-- Whether a token is a blank. -/
def isBlank : TomlToken -> Bool
  | .blank _ => true
  | _ => false

/-- The most names that a key may join, and the most arrays and tables that may
be open at once. -/
def deepest : Nat := 79

/-- A piece of a key. -/
inductive KeyPiece
  | dot
  | name (text : String)

/-- The pieces of a word in a key, after some characters of one. -/
def wordPieces? (reversed : List Char) : List Char -> Option (List KeyPiece)
  | [] => some (piece reversed)
  | char :: rest =>
      if char = '.' then
        (wordPieces? [] rest).map fun pieces =>
          piece reversed ++ .dot :: pieces
      else if char.isAlphanum || char = '_' || char = '-' then
        wordPieces? (char :: reversed) rest
      else none
where
  /-- The name that has been read, if it is not empty. -/
  piece (reversed : List Char) : List KeyPiece :=
    if reversed.isEmpty then [] else [.name (String.ofList reversed.reverse)]

/-- The pieces of a token in a key. -/
def pieces? : TomlToken -> Option (List KeyPiece)
  | .blank _ => some []
  | .word chars => wordPieces? [] chars
  | .string false text => some [.name text]
  | _ => none

/-- The names of a key, between which there is a dot each. -/
def names? : List KeyPiece -> Option (List String)
  | [.name text] => some [text]
  | .name text :: .dot :: rest => (names? rest).map fun names => text :: names
  | _ => none

/-- The key that some tokens spell: the names before the last, and the last. -/
def key? (tokens : List TomlToken) : Option (List String × String) := do
  let pieces <- tokens.mapM pieces?
  let names <- names? pieces.flatten
  let last <- names.getLast?
  if names.length ≤ deepest then return (names.dropLast, last) else none

end TomlToken

namespace TomlItem

/-- An array or table that is open, with what it holds so far. A table waits for
the value of a key. -/
inductive Frame
  | array (reversed : List TomlItem)
  | table (fields : TomlFields) (path : List String) (name : String)

/-- What may come next. -/
inductive Expected
  | value
  /-- The rest of a key, or the end of a table of which nothing was read. -/
  | key (fields : TomlFields) (fresh : Bool) (reversed : List TomlToken)
  | after (item : TomlItem)

/-- Whether lines may end inside what is open. -/
def allowsNewline : List Frame -> Bool
  | .array _ :: _ => true
  | _ => false

/-- A value is needed. An array may end there too. -/
def acceptValue? (stack : List Frame) (token : TomlToken) :
    Option (List Frame × Expected) :=
  match token with
  | .word chars => (ofWord? chars).map fun item => (stack, .after item)
  | .string _ text => some (stack, .after (.string text))
  | .openBracket =>
      if stack.length < TomlToken.deepest then
        some (.array [] :: stack, .value)
      else none
  | .openBrace =>
      if stack.length < TomlToken.deepest then some (stack, .key [] true [])
      else none
  | .closeBracket =>
      match stack with
      | .array reversed :: rest => some (rest, .after (.array reversed.reverse))
      | _ => none
  | .newline => if allowsNewline stack then some (stack, .value) else none
  | .blank _ => some (stack, .value)
  | _ => none

/-- A value has been read. -/
def acceptAfter? (stack : List Frame) (item : TomlItem) (token : TomlToken) :
    Option (List Frame × Expected) :=
  match token, stack with
  | .blank _, _ => some (stack, .after item)
  | .newline, .array _ :: _ => some (stack, .after item)
  | .comma, .array reversed :: rest =>
      some (.array (item :: reversed) :: rest, .value)
  | .closeBracket, .array reversed :: rest =>
      some (rest, .after (.array (item :: reversed).reverse))
  | .comma, .table fields path name :: rest =>
      (fields.put name item path).map fun fields =>
        (rest, .key fields false [])
  | .closeBrace, .table fields path name :: rest =>
      (fields.put name item path).map fun fields =>
        (rest, .after (.table .inline fields))
  | _, _ => none

/-- Put a token in its place. -/
def accept? (stack : List Frame) (expected : Expected) (token : TomlToken) :
    Option (List Frame × Expected) :=
  match expected with
  | .value => acceptValue? stack token
  | .after item => acceptAfter? stack item token
  | .key fields fresh reversed =>
      match token with
      | .equals => do
          let (path, name) <- TomlToken.key? reversed.reverse
          return (.table fields path name :: stack, .value)
      | .closeBrace =>
          if fresh && reversed.all TomlToken.isBlank then
            some (stack, .after (.table .inline fields))
          else none
      | .newline => none
      | token => some (stack, .key fields fresh (token :: reversed))

/-- The item of the tokens that are left. -/
def assemble? (stack : List Frame) (expected : Expected) :
    List TomlToken -> Option TomlItem
  | [] =>
      match stack, expected with
      | [], .after item => some item
      | _, _ => none
  | token :: rest => do
      let (stack, expected) <- accept? stack expected token
      assemble? stack expected rest

/-- The item that some tokens spell. -/
def ofTokens? (tokens : List TomlToken) : Option TomlItem :=
  assemble? [] .value tokens

end TomlItem

/-- A line of a document. -/
inductive TomlLine
  | empty
  | field (path : List String) (name : String) (item : TomlItem)
  /-- The header of one table, or of one of several under the same name. -/
  | header (several : Bool) (path : List String) (name : String)

namespace TomlLine

/-- Read a header behind its opening brackets. -/
def header? (several : Bool) (tokens : List TomlToken) : Option TomlLine := do
  let isInside := fun token => token != TomlToken.closeBracket
  let (path, name) <- TomlToken.key? (tokens.takeWhile isInside)
  let closing := List.replicate (if several then 2 else 1)
    TomlToken.closeBracket
  let rest := tokens.dropWhile isInside
  if closing.isPrefixOf rest &&
      (rest.drop closing.length).all TomlToken.isBlank then
    return .header several path name
  else none

/-- Read a line. -/
def ofTokens? (tokens : List TomlToken) : Option TomlLine :=
  match tokens.dropWhile TomlToken.isBlank with
  | [] => some .empty
  | .openBracket :: .openBracket :: rest => header? true rest
  | .openBracket :: rest => header? false rest
  | tokens => do
      let isKey := fun token => token != TomlToken.equals
      let (path, name) <- TomlToken.key? (tokens.takeWhile isKey)
      let item <- TomlItem.ofTokens? ((tokens.dropWhile isKey).drop 1)
      return .field path name item

end TomlLine

namespace TomlFields

/-- Put a section into what stands under its name. -/
def enter (several : Bool) (body : TomlFields -> Option TomlFields)
    (held : Option TomlItem) : Option TomlItem :=
  match several, held with
  | false, none => (body []).map fun fields => .table .header fields
  | false, some (.table .parent fields) =>
      (body fields).map fun fields => .table .header fields
  | true, none => (body []).map fun fields => .tables [fields]
  | true, some (.tables items) =>
      (body []).map fun fields => .tables (items ++ [fields])
  | _, _ => none

/-- Put the fields of lines into a table, up to the next header. -/
def putLines (fields : TomlFields) : List TomlLine -> Option TomlFields
  | .empty :: rest => putLines fields rest
  | .field path name item :: rest => do
      let fields <- fields.put name item path
      putLines fields rest
  | _ => some fields

/-- Put the sections of lines into a document. Lines before the first header have
been taken already. -/
def putSections (root : TomlFields) : List TomlLine -> Option TomlFields
  | [] => some root
  | .header several path name :: rest => do
      let root <- root.alter
        (enter several fun fields => fields.putLines rest) name path
      putSections root rest
  | _ :: rest => putSections root rest

/-- Leave out the mark at the beginning of a text. -/
def dropMark : List Char -> List Char
  | char :: rest => if char.toNat = 0xFEFF then rest else char :: rest
  | [] => []

/-- The document that a text spells. -/
def ofText? (text : String) : Option TomlFields := do
  let tokens <- TomlToken.scan? (dropMark text.toList)
  let lines <- (TomlToken.linesFrom 0 [] (TomlToken.joinMoments tokens)).mapM
    TomlLine.ofTokens?
  let root <- putLines [] lines
  putSections root lines

end TomlFields
end GraphSweep
