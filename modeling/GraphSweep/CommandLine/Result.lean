import GraphSweep.CommandLine.Command
import GraphSweep.CommandLine.FileTree

/-!
# Results of command lines

What a command line does in a directory of files: its exit code, what it prints,
the error that it reports, and the files that are there afterwards.
-/

namespace GraphSweep

/-- What a command line leaves behind. -/
structure CommandResult where
  exitCode : Nat
  output : String
  /-- The report of a failure. -/
  error : Option String
  files : FileTree

namespace CommandResult

/-- The first line of the report of a failure. -/
def firstLine? (result : CommandResult) : Option String :=
  result.error.map fun report =>
    let line := report.toList.takeWhile fun letter => letter != '\n'
    String.ofList (if line.getLast? = some '\r' then line.dropLast else line)

/-- A failure of a command. -/
def failure (files : FileTree) (message : String) : CommandResult :=
  ⟨1, "", some ("Error: " ++ message), files⟩

/-- Carry out the end of a command. -/
def ofEnd (files : FileTree) : CommandEnd -> CommandResult
  | .printed text => ⟨0, text, none, files⟩
  | .failed message => failure files message
  | .crashed => ⟨101, "", none, files⟩
  | .written path text =>
      match files.target path with
      | .error fault => failure files fault.message
      | .ok (.file place) => ⟨0, "", none, files.put place (Bytes.ofText text)⟩
      | .ok (.device .sink) => ⟨0, "", none, files⟩
      | .ok (.device .output) => ⟨0, text, none, files⟩
      | .ok (.device .full) => failure files PathFault.noSpace.message

/-- Carry out a request. -/
def ofRequest (processors : UInt64) (files : FileTree) :
    Request -> CommandResult
  | .help => ⟨0, Request.helpText, none, files⟩
  | .version => ⟨0, Request.versionText, none, files⟩
  | .refused => ⟨2, "", none, files⟩
  | .command command =>
      ofEnd files (command.execute processors fun path =>
        (files.read path).toOption)

end CommandResult
end GraphSweep
