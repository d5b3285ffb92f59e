import GraphSweep.CommandLine.Command
import GraphSweep.CommandLine.FileTree

/-!
# The command line

Reads the files that a command names, carries the command out, and prints or
writes what comes of it.
-/

namespace GraphSweep

namespace CommandLine

/-- The content of a file, if it can be read. -/
def readFile? (path : String) : IO (Option Bytes) :=
  try
    return some (<- IO.FS.readBinFile path).toList
  catch _ => return none

/-- The number of processors, or four if it is not known. -/
def processors : IO UInt64 :=
  try
    let text <- IO.FS.readFile "/proc/cpuinfo"
    let count := (text.splitOn "\nprocessor").length
    return UInt64.ofNat count
  catch _ => return 4

/-- What is said about a file that cannot be written. -/
def writeMessage : IO.Error -> String
  | .noFileOrDirectory _ _ _ => PathFault.missing.message
  | .permissionDenied _ _ _ => PathFault.denied.message
  | .inappropriateType _ 20 _ => PathFault.notDirectory.message
  | .inappropriateType _ _ _ => PathFault.isDirectory.message
  | .invalidArgument _ 36 _ => PathFault.tooLong.message
  | .resourceExhausted _ 28 _ => PathFault.noSpace.message
  | error => toString error

/-- Report a failure. -/
def fail (message : String) : IO UInt32 := do
  IO.eprintln ("Error: " ++ message)
  return 1

/-- Carry out the end of a command. -/
def finish : CommandEnd -> IO UInt32
  | .printed text => do
      IO.print text
      return 0
  | .failed message => fail message
  | .crashed => do
      IO.eprintln "attempt to exceed a bound of the machine"
      return 101
  | .written path text =>
      try
        IO.FS.writeFile path text
        return 0
      catch error => fail (writeMessage error)

/-- Carry out a request. -/
def serve : Request -> IO UInt32
  | .help => do
      IO.print Request.helpText
      return 0
  | .version => do
      IO.print Request.versionText
      return 0
  | .refused => do
      IO.eprint Request.helpText
      return 2
  | .command command => do
      let count <- processors
      let contents <- command.inputs.mapM fun path => do
        return (path, <- readFile? path)
      finish (command.execute count fun path => (contents.lookup path).join)

end CommandLine
end GraphSweep

def main (arguments : List String) : IO UInt32 := do
  let environment <- IO.getEnv "OLAP_PARALLELISM"
  GraphSweep.CommandLine.serve (.ofLine environment arguments)
