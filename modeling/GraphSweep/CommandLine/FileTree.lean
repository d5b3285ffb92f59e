import GraphSweep.Bytes

/-!
# Files by path

Commands see a tree of files and begin in one of its directories. A path is walked
name by name from there, or from the root if it begins with a slash; walking
through a file, or through a name that is not there, fails. Around the files are
the usual directories of a system, and a few devices.
-/

namespace GraphSweep

/-- A path from the root, name by name. -/
abbrev Place := List String

/-- The files of a system, by their places. -/
structure FileTree where
  /-- The directory where paths without a slash in front begin. -/
  home : Place
  files : List (Place × Bytes)

/-- A file that keeps nothing of what is written into it. -/
inductive Device
  /-- Swallows what is written. -/
  | sink
  /-- Has no space for anything. -/
  | full
  /-- Is where commands print. -/
  | output
  deriving DecidableEq

/-- Why a path leads to no file. -/
inductive PathFault
  | missing
  | notDirectory
  | isDirectory
  | denied
  | tooLong
  | noSpace
  deriving DecidableEq

/-- What a path leads to that can be written into. -/
inductive Target
  | file (place : Place)
  | device (device : Device)

namespace PathFault

/-- What is said about a path that leads to no file. -/
def message : PathFault -> String
  | missing => "No such file or directory (os error 2)"
  | notDirectory => "Not a directory (os error 20)"
  | isDirectory => "Is a directory (os error 21)"
  | denied => "Permission denied (os error 13)"
  | tooLong => "File name too long (os error 36)"
  | noSpace => "No space left on device (os error 28)"

end PathFault

namespace Place

/-- The most bytes of a name. -/
def longestName : Nat := 255

/-- The most bytes of a path. -/
def longestPath : Nat := 4095

/-- The names of a path. -/
def names (path : String) : List String := path.splitOn "/"

/-- Directories that are there besides those of the files. -/
def usual : List Place :=
  [["bin"], ["dev"], ["dev", "shm"], ["etc"], ["home"], ["lib"], ["media"],
    ["mnt"], ["opt"], ["root"], ["run"], ["sbin"], ["srv"], ["tmp"], ["usr"],
    ["usr", "bin"], ["usr", "lib"], ["usr", "local"], ["usr", "share"], ["var"],
    ["var", "log"], ["var", "tmp"]]

/-- The device at a place, if there is one. -/
def device? : Place -> Option Device
  | ["dev", "null"] => some .sink
  | ["dev", "zero"] => some .sink
  | ["dev", "stdin"] => some .sink
  | ["dev", "stderr"] => some .sink
  | ["dev", "full"] => some .full
  | ["dev", "stdout"] => some .output
  | _ => none

end Place

namespace FileTree

/-- The files of a directory of their own, by their paths in it. -/
def ofFiles (files : List (String × Bytes)) : FileTree :=
  let home := ["tmp", "files"]
  ⟨home, files.map fun (path, content) => (home ++ Place.names path, content)⟩

/-- The content of a file. Devices have nothing to read. -/
def content? (tree : FileTree) (place : Place) : Option Bytes :=
  match Place.device? place with
  | some _ => some []
  | none => tree.files.lookup place

/-- Whether a place is a directory: one of the usual ones, or one that leads to a
file or to where paths begin. -/
def isDirectory (tree : FileTree) (place : Place) : Bool :=
  Place.usual.contains place || place.isPrefixOf tree.home ||
    tree.files.any fun file =>
      place.isPrefixOf file.1 && place.length < file.1.length

/-- Walk from a place. -/
def walk (tree : FileTree) (place : Place) :
    List String -> Except PathFault Place
  | [] => .ok place
  | name :: rest =>
      if tree.isDirectory place then
        if name = "" ∨ name = "." then walk tree place rest
        else if name = ".." then walk tree place.dropLast rest
        else if Place.longestName < name.utf8ByteSize then .error .tooLong
        else walk tree (place ++ [name]) rest
      else if (tree.content? place).isSome then .error .notDirectory
      else .error .missing

/-- Where a path begins. -/
def origin (tree : FileTree) (path : String) : Except PathFault Place :=
  if Place.longestPath < path.utf8ByteSize then .error .tooLong
  else if path.startsWith "/" then .ok []
  else .ok tree.home

/-- Read a file. -/
def read (tree : FileTree) (path : String) : Except PathFault Bytes := do
  let place <- tree.walk (<- tree.origin path) (Place.names path)
  match tree.content? place with
  | some content => return content
  | none => throw (if tree.isDirectory place then .isDirectory else .missing)

/-- What a path leads to for writing: a file that is there, or a new one in a
directory that is there. -/
def target (tree : FileTree) (path : String) : Except PathFault Target := do
  let reversed := (Place.names path).reverse
  let ended := reversed.dropWhile fun name => name = ""
  let parent <- tree.walk (<- tree.origin path) ended.tail.reverse
  if !tree.isDirectory parent then
    throw (if (tree.content? parent).isSome then .notDirectory else .missing)
  match ended.head? with
  | none => throw .isDirectory
  | some name =>
      let place := parent ++ [name]
      if name = "." ∨ name = ".." ∨ reversed.head? = some "" then
        throw .isDirectory
      else if Place.longestName < name.utf8ByteSize then throw .tooLong
      else if tree.isDirectory place then throw .isDirectory
      else
        match Place.device? place with
        | some device => return .device device
        | none => return .file place

/-- The tree with a file at a place, in place of the one there. -/
def put (tree : FileTree) (place : Place) (content : Bytes) : FileTree :=
  { tree with
    files := (place, content) :: tree.files.filter fun file => file.1 ≠ place }

end FileTree
end GraphSweep
