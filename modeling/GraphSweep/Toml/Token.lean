/-!
# TOML tokens

A text is cut into tokens one character at a time. Comments leave no token, line
endings of two characters count as one, and the escapes of a string are resolved.
Keys, numbers and dates are not told apart yet: a run of their characters is a
word.
-/

namespace GraphSweep

/-- A piece of a document. -/
inductive TomlToken
  | blank (char : Char)
  | newline
  | word (chars : List Char)
  | string (multiline : Bool) (text : String)
  | openBracket
  | closeBracket
  | openBrace
  | closeBrace
  | comma
  | equals
  deriving DecidableEq

namespace TomlToken

/-- The two ways to quote a string: with escapes and without. -/
inductive Quoting
  | basic
  | literal
  deriving DecidableEq

/-- The character around a string. -/
def Quoting.mark : Quoting -> Char
  | basic => '"'
  | literal => '\''

/-- A string that is being read. -/
structure OpenString where
  quoting : Quoting
  multiline : Bool
  /-- Whether nothing stands after the opening marks yet. -/
  fresh : Bool
  /-- The characters so far, last one first. -/
  reversed : List Char

/-- Where in a token the reading is. -/
inductive Stage
  /-- Outside of strings, after some characters of a word, last one first. -/
  | outside (reversed : List Char)
  | inComment
  /-- After one or two opening marks. -/
  | opening (quoting : Quoting) (second : Bool)
  | inString (content : OpenString)
  | inEscape (content : OpenString)
  /-- In the digits of an escape, of which some are still to come. -/
  | inUnicode (content : OpenString) (missing value : Nat)
  /-- After an escaped line ending, or before it. -/
  | inContinuation (content : OpenString) (ended : Bool)
  /-- After some marks in a string of several lines. -/
  | closing (content : OpenString) (marks : Nat)

/-- A character of a word. -/
def isWordChar (char : Char) : Bool :=
  char.isAlphanum || char = '_' || char = '-' || char = '+' || char = '.'
    || char = ':'

/-- A character that may stand in a comment, and in a string unless it means
something there. -/
def isTextChar (char : Char) : Bool :=
  char = '\t' || (32 ≤ char.toNat && char.toNat ≠ 127)

/-- The value of a hexadecimal digit. -/
def hexValue? (char : Char) : Option Nat :=
  if char.isDigit then some (char.toNat - 48)
  else if 'a' ≤ char ∧ char ≤ 'f' then some (char.toNat - 87)
  else if 'A' ≤ char ∧ char ≤ 'F' then some (char.toNat - 55)
  else none

/-- The character that a short escape stands for. -/
def shortEscape? (char : Char) : Option Char :=
  match char with
  | '"' => some '"'
  | '\\' => some '\\'
  | 'b' => some (Char.ofNat 8)
  | 'f' => some (Char.ofNat 12)
  | 'n' => some '\n'
  | 'r' => some '\r'
  | 't' => some '\t'
  | _ => none

/-- The character with a number, if there is one. -/
def charOf? (value : Nat) : Option Char :=
  if value.isValidChar then some (Char.ofNat value) else none

namespace OpenString

/-- A string of which only the opening marks have been read. -/
def start (quoting : Quoting) (multiline : Bool) : OpenString :=
  ⟨quoting, multiline, true, []⟩

/-- The string with a character more. -/
def push (content : OpenString) (char : Char) : OpenString :=
  { content with fresh := false, reversed := char :: content.reversed }

/-- The string with some marks more. -/
def pushMarks (content : OpenString) (marks : Nat) : OpenString :=
  { content with
    fresh := false
    reversed := List.replicate marks content.quoting.mark ++ content.reversed }

/-- The string with an end of line more. The one right after the opening marks
does not count. -/
def endLine (content : OpenString) : OpenString :=
  if content.fresh then { content with fresh := false }
  else content.push '\n'

/-- The finished string. -/
def token (content : OpenString) : TomlToken :=
  .string content.multiline (String.ofList content.reversed.reverse)

end OpenString

/-- The word that has been read, if it is not empty. -/
def flush (reversed : List Char) : List TomlToken :=
  if reversed.isEmpty then [] else [.word reversed.reverse]

/-- Go on outside of strings. -/
def outside? (reversed : List Char) (char : Char) :
    Option (Stage × List TomlToken) :=
  let next (stage : Stage) (tokens : List TomlToken) :=
    some (stage, flush reversed ++ tokens)
  if isWordChar char then some (.outside (char :: reversed), [])
  else
    match char with
    | ' ' => next (.outside []) [.blank ' ']
    | '\t' => next (.outside []) [.blank '\t']
    | '\n' => next (.outside []) [.newline]
    | '#' => next .inComment []
    | '"' => next (.opening .basic false) []
    | '\'' => next (.opening .literal false) []
    | '[' => next (.outside []) [.openBracket]
    | ']' => next (.outside []) [.closeBracket]
    | '\x7b' => next (.outside []) [.openBrace]
    | '\x7d' => next (.outside []) [.closeBrace]
    | ',' => next (.outside []) [.comma]
    | '=' => next (.outside []) [.equals]
    | _ => none

/-- Go on in a string. -/
def inString? (content : OpenString) (char : Char) :
    Option (Stage × List TomlToken) :=
  if char = content.quoting.mark then
    if content.multiline then some (.closing content 1, [])
    else some (.outside [], [content.token])
  else if char = '\\' ∧ content.quoting = .basic then
    some (.inEscape content, [])
  else if char = '\n' then
    if content.multiline then some (.inString content.endLine, []) else none
  else if isTextChar char then some (.inString (content.push char), [])
  else none

/-- Go on after the sign of an escape. -/
def inEscape? (content : OpenString) (char : Char) :
    Option (Stage × List TomlToken) :=
  if char = 'u' then some (.inUnicode content 4 0, [])
  else if char = 'U' then some (.inUnicode content 8 0, [])
  else if content.multiline ∧ (char = ' ' ∨ char = '\t') then
    some (.inContinuation content false, [])
  else if content.multiline ∧ char = '\n' then
    some (.inContinuation content true, [])
  else (shortEscape? char).map fun escaped =>
    (.inString (content.push escaped), [])

/-- Go on with a character; tokens that it completes come out. -/
def step? (stage : Stage) (char : Char) : Option (Stage × List TomlToken) :=
  match stage with
  | .outside reversed => outside? reversed char
  | .inComment =>
      if char = '\n' then some (.outside [], [.newline])
      else if isTextChar char then some (.inComment, [])
      else none
  | .opening quoting false =>
      if char = quoting.mark then some (.opening quoting true, [])
      else inString? (.start quoting false) char
  | .opening quoting true =>
      if char = quoting.mark then some (.inString (.start quoting true), [])
      else (outside? [] char).map fun (next, tokens) =>
        (next, .string false "" :: tokens)
  | .inString content => inString? content char
  | .inEscape content => inEscape? content char
  | .inUnicode content missing value => do
      let digit <- hexValue? char
      let value := value * 16 + digit
      if missing ≤ 1 then do
        let escaped <- charOf? value
        return (.inString (content.push escaped), [])
      else return (.inUnicode content (missing - 1) value, [])
  | .inContinuation content ended =>
      if char = ' ' ∨ char = '\t' then
        some (.inContinuation content ended, [])
      else if char = '\n' then some (.inContinuation content true, [])
      else if ended then
        inString? { content with fresh := false } char
      else none
  | .closing content marks =>
      if char = content.quoting.mark then
        if marks < 5 then some (.closing content (marks + 1), []) else none
      else if marks < 3 then inString? (content.pushMarks marks) char
      else (outside? [] char).map fun (next, tokens) =>
        (next, (content.pushMarks (marks - 3)).token :: tokens)

/-- The tokens that the end of the text completes. -/
def finish? : Stage -> Option (List TomlToken)
  | .outside reversed => some (flush reversed)
  | .inComment => some []
  | .opening _ true => some [.string false ""]
  | .closing content marks =>
      if marks < 3 then none
      else some [(content.pushMarks (marks - 3)).token]
  | _ => none

/-- The tokens of a text from a stage on, in order. -/
def scanFrom (stage : Stage) : List Char -> Option (List TomlToken)
  | [] => finish? stage
  | char :: rest => do
      let (next, tokens) <- step? stage char
      let others <- scanFrom next rest
      return tokens ++ others

/-- The characters of a text with each line ended by one of them. A carriage
return may only stand before a line feed. -/
def unifyLines : List Char -> Option (List Char)
  | [] => some []
  | '\r' :: '\n' :: rest => (unifyLines rest).map fun others => '\n' :: others
  | char :: rest =>
      if char = '\r' then none
      else (unifyLines rest).map fun others => char :: others

/-- The tokens of a text. -/
def scan? (chars : List Char) : Option (List TomlToken) :=
  unifyLines chars >>= scanFrom (.outside [])

end TomlToken
end GraphSweep
