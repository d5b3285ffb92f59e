/-!
# Arguments of a command

The arguments of a command are options with a value each, and other values by
position. An option is given once, by its long name or by its letter, and its
value follows it or is attached to it. Arguments are read from the left, and the
first that asks for help or cannot be read decides.
-/

namespace GraphSweep

/-- An option of a command. -/
structure OptionSpec where
  long : String
  letter : Option Char
  /-- Whether a text is a value of the option. -/
  accepts : String -> Bool

/-- The values of a command. -/
structure Arguments where
  /-- The values of options, by long name. -/
  options : List (String × String)
  positional : List String
  deriving DecidableEq

/-- What the arguments of a command ask for. -/
inductive ArgumentsRead
  | values (arguments : Arguments)
  | help
  | refused
  deriving DecidableEq

namespace Arguments

/-- The arguments before any is read. -/
def empty : Arguments := ⟨[], []⟩

/-- The value of an option. -/
def option? (arguments : Arguments) (long : String) : Option String :=
  arguments.options.lookup long

end Arguments

/-- What one argument is. -/
inductive ArgumentShape
  /-- The mark behind which every argument is a value. -/
  | separator
  | long (name : String) (attached : Option String)
  | letters (first : Char) (attached : Option String)
  | value
  deriving DecidableEq

namespace ArgumentShape

/-- Cut a text at its first equals sign. -/
def cutEquals (chars : List Char) : String × Option String :=
  let isName := fun char => char != '='
  match chars.dropWhile isName with
  | [] => (String.ofList chars, none)
  | _ :: rest =>
      (String.ofList (chars.takeWhile isName), some (String.ofList rest))

/-- The value that is attached to a letter. -/
def attached? : List Char -> Option String
  | [] => none
  | '=' :: rest => some (String.ofList rest)
  | rest => some (String.ofList rest)

/-- The shape of an argument. -/
def ofText (text : String) : ArgumentShape :=
  match text.toList with
  | ['-', '-'] => separator
  | '-' :: '-' :: rest =>
      let (name, attached) := cutEquals rest
      long name attached
  | '-' :: first :: rest => letters first (attached? rest)
  | _ => value

end ArgumentShape

namespace ArgumentsRead

/-- Take the value of an option. -/
def take?
    (arguments : Arguments)
    (spec : OptionSpec)
    (value : String) : Option Arguments :=
  if (arguments.option? spec.long).isSome || !spec.accepts value then none
  else some { arguments with
    options := arguments.options ++ [(spec.long, value)] }

/-- Take a value by position, of which a number are allowed. -/
def takePositional?
    (allowed : Nat)
    (arguments : Arguments)
    (value : String) : Option Arguments :=
  if value.isEmpty || allowed ≤ arguments.positional.length then none
  else some { arguments with positional := arguments.positional ++ [value] }

/-- Take values by position only. -/
def readPositional (allowed : Nat) (arguments : Arguments) :
    List String -> ArgumentsRead
  | [] => values arguments
  | text :: rest =>
      match takePositional? allowed arguments text with
      | some arguments => readPositional allowed arguments rest
      | none => refused

/-- The option that a shape names, with the value attached to it. -/
def named? (specs : List OptionSpec) :
    ArgumentShape -> Option (OptionSpec × Option String)
  | .long name attached =>
      (specs.find? fun spec => spec.long = name).map fun spec =>
        (spec, attached)
  | .letters first attached =>
      (specs.find? fun spec => spec.letter = some first).map fun spec =>
        (spec, attached)
  | _ => none

/-- Whether a shape asks for help. -/
def asksHelp : ArgumentShape -> Bool
  | .long name attached => name = "help" && attached.isNone
  | .letters first _ => first = 'h'
  | _ => false

/-- Read arguments from the left. -/
def read (specs : List OptionSpec) (allowed : Nat) (arguments : Arguments) :
    List String -> ArgumentsRead
  | [] => values arguments
  | text :: rest =>
      let shape := ArgumentShape.ofText text
      if asksHelp shape then help
      else
        match shape, named? specs shape with
        | .separator, _ => readPositional allowed arguments rest
        | .value, _ =>
            match takePositional? allowed arguments text with
            | some arguments => read specs allowed arguments rest
            | none => refused
        | _, none => refused
        | _, some (spec, some attached) =>
            match take? arguments spec attached with
            | some arguments => read specs allowed arguments rest
            | none => refused
        | _, some (spec, none) =>
            match rest with
            | [] => refused
            | following :: rest =>
                if ArgumentShape.ofText following = .value then
                  match take? arguments spec following with
                  | some arguments => read specs allowed arguments rest
                  | none => refused
                else refused

end ArgumentsRead
end GraphSweep
