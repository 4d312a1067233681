import NavGen.Order
import NavGen.Output.Sink

/-!
# Outputs in a directory

An output that writes files below a directory of a file system. Missing directories are created, existing files are overwritten. A file is
refused where the file system has no place for it: where a file stands in the way of a directory or a directory in the way of the file,
where a name is empty, too long or holds a null character, or where the path as a whole is too long.
-/

namespace NavGen

/-- A place in the file system, by the names that lead to it from the root of the output. The names may start with parent steps or with the
root of the file system, for places outside. -/
abbrev Place := List String

/-- What a file system holds below and around the root of an output, which always exists. -/
structure FileTree where
  directories : List Place
  files : List (Place × String)

namespace FileTree

/-- The longest name of a file or directory, in bytes. -/
def maxNameBytes : Nat := 255

/-- The longest path that the file system follows, in bytes. -/
def maxPathBytes : Nat := 4095

/-- Whether a place is outside the output: the root of the file system or a parent step. -/
def isOutside (place : Place) : Bool :=
  place == ["/"] || (!place.isEmpty && place.all (· == ".."))

/-- The place of the directory that holds another. -/
def parent (place : Place) : Place :=
  if place == ["/"] then place
  else if isOutside place || place.isEmpty then place ++ [".."]
  else place.dropLast

/-- Whether a directory is at a place. -/
def isDirectory (tree : FileTree) (place : Place) : Bool :=
  place.isEmpty || isOutside place || tree.directories.contains place

/-- Whether a file is at a place. -/
def isFile (tree : FileTree) (place : Place) : Bool :=
  tree.files.any (·.1 == place)

/-- Whether a name is one that the file system can hold. -/
def isName (name : String) : Bool :=
  decide (name.utf8ByteSize ≤ maxNameBytes) && !name.toList.contains '\x00'

/-- Enters a directory of a directory, which is created if nothing is there. -/
def enter? (tree : FileTree) (place : Place) (name : String) : Option Place :=
  if name = ".." then some (parent place)
  else if !isName name || tree.isFile (place ++ [name]) then none
  else some (place ++ [name])

/-- Creates the directories along a path. The tree changes even if the path cannot be followed to its end. -/
def makeDirectories (tree : FileTree) (place : Place) : List String → FileTree × Option Place
  | [] => (tree, some place)
  | name :: rest =>
    match tree.enter? place name with
    | none => (tree, none)
    | some inner =>
      makeDirectories
        (if tree.isDirectory inner then tree else { tree with directories := tree.directories ++ [inner] }) inner rest

/-- Writes a file in a directory, over the file that is there. -/
def put? (tree : FileTree) (place : Place) (name content : String) : Option FileTree :=
  if !isName name || tree.isDirectory (place ++ [name]) then none
  else
    let others := tree.files.filter (·.1 != place ++ [name])
    some { tree with files := others ++ [(place ++ [name], content)] }

end FileTree

/-- An output that writes below a directory, and the packages of the files written, in order. -/
structure DirectoryOutput where
  /-- The length of the path of the directory itself, in bytes. -/
  rootBytes : Nat
  tree : FileTree
  packages : List String

namespace DirectoryOutput

/-- The output of a directory that is empty and whose path has the given length. -/
def empty (rootBytes : Nat) : DirectoryOutput :=
  { rootBytes, tree := { directories := [], files := [] }, packages := [] }

/-- The place a path starts from. -/
def startOf (path : String) : Place :=
  if Text.begins "/" path then ["/"] else []

/-- Whether a name between slashes leads nowhere else: the empty name and the name of the same directory. -/
def staysHere (name : String) : Bool :=
  name == "" || name == "."

/-- The steps of a path. -/
def steps (path : String) : List String :=
  (Text.split '/' path).filter fun name => !staysHere name

/-- Whether a path ends in the name of a file, rather than in a slash or the name of a directory. -/
def endsInName (path : String) : Bool :=
  match (Text.split '/' path).getLast? with
  | none => false
  | some last => !staysHere last && last != ".."

/-- The path of the directory of a file: what stands before the last step of its path, without slashes and names of the same directory
at its end. Those further up stay. -/
def directoryOf (path : String) : String :=
  let trimmed (names : List String) : List String := (names.reverse.dropWhile staysHere).reverse
  "/".intercalate (trimmed (trimmed (Text.split '/' path)).dropLast)

/-- Whether the file system follows a path as it is written, from the root of the output or of the file system. -/
def follows (output : DirectoryOutput) (path : String) : Bool :=
  decide ((if Text.begins "/" path then 0 else output.rootBytes + 1) + path.utf8ByteSize ≤ FileTree.maxPathBytes)

/-- Writes a file, creating its directories first. -/
def write (output : DirectoryOutput) (file : GeneratedFile) : DirectoryOutput × Option OutputError :=
  let refused := some (OutputError.notWritten file.path none)
  let steps := steps file.path
  if !output.follows (directoryOf file.path) || steps.dropLast.any (·.toList.contains '\x00') then (output, refused)
  else
    match output.tree.makeDirectories (startOf file.path) steps.dropLast, steps.getLast? with
    | (tree, some place), some name =>
      if output.follows file.path && endsInName file.path then
        match tree.put? place name file.content with
        | some tree => ({ output with tree, packages := output.packages ++ [file.package] }, none)
        | none => ({ output with tree }, refused)
      else ({ output with tree }, refused)
    | (tree, _), _ => ({ output with tree }, refused)

instance : FileSink DirectoryOutput where
  take := write

/-- The files below the root of the output, by their paths, sorted. -/
def files (output : DirectoryOutput) : List (String × String) :=
  let inside := output.tree.files.filter fun entry => !(entry.1.head?.any fun name => name == ".." || name == "/")
  sortBy (fun a b => textLe a.1 b.1) (inside.map fun entry => ("/".intercalate entry.1, entry.2))

end DirectoryOutput

end NavGen
