import GraphSweep.CommandLine.Arguments
import GraphSweep.Fixture.Document
import GraphSweep.Fixture.Generate
import GraphSweep.JobSettings
import GraphSweep.Measure

/-!
# Commands

There is a command that computes a measure of a graph, one that checks a settings
document, and one that makes a random graph. A command is what its arguments say;
carrying it out takes the content of the files that it names.
-/

namespace GraphSweep

/-- What is asked for when a measure is computed. -/
structure RunOptions where
  graph : String
  measure : Measure
  /-- The number of workers, which goes before the one of the settings. -/
  workers : Option UInt64
  config : Option String
  label : UInt64
  deriving DecidableEq

/-- What is asked for when a graph is made. -/
structure GenerateOptions where
  vertices : UInt64
  degree : UInt32
  seed : UInt64
  output : Option String
  deriving DecidableEq

/-- A command. -/
inductive Command
  | run (options : RunOptions)
  | check (file : String)
  | generate (options : GenerateOptions)
  deriving DecidableEq

/-- What a command line asks for. -/
inductive Request
  | command (command : Command)
  | help
  | version
  | refused
  deriving DecidableEq

/-- How a command ends. -/
inductive CommandEnd
  | printed (text : String)
  | written (path : String) (text : String)
  | failed (message : String)
  /-- It ran into a bound of the machine. -/
  | crashed
  deriving DecidableEq

namespace Command

/-- The digits of a text behind an optional plus sign. -/
def unsigned? (chars : List Char) : Option Nat :=
  let digits := match chars with
    | '+' :: rest => rest
    | chars => chars
  if !digits.isEmpty && digits.all Char.isDigit then
    some (digits.foldl (fun value digit => value * 10 + (digit.toNat - 48)) 0)
  else none

/-- The number in 64 bits that a text spells. -/
def word64? (text : String) : Option UInt64 :=
  (unsigned? text.toList).bind fun value =>
    if value < UInt64.size then some (UInt64.ofNat value) else none

/-- The number in 32 bits that a text spells. It may be a negative zero. -/
def word32? (text : String) : Option UInt32 :=
  match text.toList with
  | '-' :: rest =>
      if !rest.isEmpty && rest.all fun char => char = '0' then some 0 else none
  | chars =>
      (unsigned? chars).bind fun value =>
        if value < UInt32.size then some (UInt32.ofNat value) else none

/-- Whether a text can be a path. -/
def isPath (text : String) : Bool := !text.isEmpty

/-- The options of the command that computes a measure. -/
def runSpecs : List OptionSpec :=
  [⟨"graph", some 'g', isPath⟩,
    ⟨"program", some 'p', fun text => (Measure.ofName? text).isSome⟩,
    ⟨"parallelism", none, fun text => (word64? text).isSome⟩,
    ⟨"config", some 'c', isPath⟩,
    ⟨"label", none, fun text => (word64? text).isSome⟩]

/-- The options of the command that makes a graph. -/
def generateSpecs : List OptionSpec :=
  [⟨"vertices", none, fun text => (word64? text).isSome⟩,
    ⟨"degree", none, fun text => (word32? text).isSome⟩,
    ⟨"seed", none, fun text => (word64? text).isSome⟩,
    ⟨"output", some 'o', isPath⟩]

/-- The number of workers: the option, or else what the environment says. -/
def workers? (environment : Option String) (arguments : Arguments) :
    Option (Option UInt64) :=
  match arguments.option? "parallelism" <|> environment with
  | some text => (word64? text).map some
  | none => some none

/-- The command that computes a measure. -/
def ofRun? (environment : Option String) (arguments : Arguments) :
    Option Command := do
  let workers <- workers? environment arguments
  let graph <- arguments.option? "graph"
  return .run {
    graph := graph
    measure := ((arguments.option? "program").bind Measure.ofName?).getD .degree
    workers := workers
    config := arguments.option? "config"
    label := ((arguments.option? "label").bind word64?).getD 0 }

/-- The command that makes a graph. -/
def ofGenerate (arguments : Arguments) : Command :=
  .generate {
    vertices := ((arguments.option? "vertices").bind word64?).getD 100
    degree := ((arguments.option? "degree").bind word32?).getD 3
    seed := ((arguments.option? "seed").bind word64?).getD 42
    output := arguments.option? "output" }

/-- The names of the commands. -/
def names : List String := ["run", "check-config", "generate", "help"]

/-- The settings in a file. -/
def loadConfig
    (processors : UInt64)
    (read : String -> Option Bytes)
    (path : String) : Except ConfigError JobConfig :=
  match read path with
  | some content => JobConfig.ofFile processors content
  | none => .error .read

/-- The fixture in a file. -/
def loadFixture
    (read : String -> Option Bytes)
    (path : String) : Except FixtureError Fixture :=
  match read path with
  | some content => Fixture.ofFile content
  | none => .error .read

/-- Compute a measure of a graph. -/
def measure
    (options : RunOptions)
    (config : JobConfig)
    (fixture : Fixture) : CommandEnd :=
  match fixture.build with
  | .error .labelOverflow => .crashed
  | .error error => .failed error.message
  | .ok graph =>
      match options.measure.compute graph options.label config with
      | .ok report => .printed (report.toText ++ "\n")
      | .error .labelOverflow => .crashed
      | .error (.job error) =>
          if error.isCrash then .crashed else .failed error.message

/-- Carry out the command that computes a measure. -/
def executeRun
    (processors : UInt64)
    (read : String -> Option Bytes)
    (options : RunOptions) : CommandEnd :=
  let loaded := match options.config with
    | some path => (loadConfig processors read path).mapError fun _ => path
    | none => .ok (JobConfig.standard processors)
  match loaded with
  | .error path => .failed ("loading " ++ path)
  | .ok config =>
      let config := (options.workers.map config.withWorkers).getD config
      match loadFixture read options.graph with
      | .error _ => .failed ("loading " ++ options.graph)
      | .ok fixture => measure options config fixture

/-- Carry out a command, given the number of processors and the files. -/
def execute
    (processors : UInt64)
    (read : String -> Option Bytes) : Command -> CommandEnd
  | run options => executeRun processors read options
  | check file =>
      match loadConfig processors read file with
      | .ok config =>
          .printed (file ++ ": ok\n" ++ config.toJson.toPretty ++ "\n")
      | .error _ => .failed ("checking " ++ file)
  | generate options =>
      let text := (Fixture.generate options.vertices options.degree
        options.seed).toText
      match options.output with
      | some path => .written path text
      | none => .printed (text ++ "\n")

/-- The files that a command reads. -/
def inputs : Command -> List String
  | run options => options.config.toList ++ [options.graph]
  | check file => [file]
  | generate _ => []

end Command

namespace Request

/-- What the arguments behind the name of a command ask for. -/
def ofArguments
    (specs : List OptionSpec)
    (allowed : Nat)
    (make : Arguments -> Option Command)
    (arguments : List String) : Request :=
  match ArgumentsRead.read specs allowed .empty arguments with
  | .help => help
  | .refused => refused
  | .values arguments =>
      match make arguments with
      | some asked => command asked
      | none => refused

/-- What a command line asks for, given what the environment says about the
number of workers. -/
def ofLine (environment : Option String) : List String -> Request
  | "run" :: rest =>
      ofArguments Command.runSpecs 0 (Command.ofRun? environment) rest
  | "check-config" :: rest =>
      ofArguments [] 1 (fun arguments =>
        arguments.positional.head?.map .check) rest
  | "generate" :: rest =>
      ofArguments Command.generateSpecs 0
        (fun arguments => some (Command.ofGenerate arguments)) rest
  | "help" :: rest =>
      match rest with
      | [] => help
      | [name] => if name ∈ Command.names then help else refused
      | _ => refused
  | text :: _ =>
      match ArgumentShape.ofText text with
      | .long "help" none => help
      | .long "version" none => version
      | .letters 'h' _ => help
      | .letters 'V' _ => version
      | _ => refused
  | [] => refused

/-- The text that names the version of the commands. -/
def versionText : String := "olap 0.1.0\n"

/-- The text that explains the commands. -/
def helpText : String :=
  "Run vertex-centric OLAP jobs over graph fixtures\n\n" ++
  "Usage: olap <COMMAND>\n\n" ++
  "Commands:\n" ++
  "  run           Run a built-in vertex program and print per-vertex results as JSON\n" ++
  "  check-config  Validate an executor configuration file\n" ++
  "  generate      Write a random graph fixture\n" ++
  "  help          Print this message or the help of the given subcommand(s)\n\n" ++
  "Options:\n" ++
  "  -h, --help     Print help\n" ++
  "  -V, --version  Print version\n"

end Request
end GraphSweep
