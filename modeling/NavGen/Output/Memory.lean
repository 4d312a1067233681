import NavGen.Order
import NavGen.Output.Sink

/-!
# Outputs in memory

An output that keeps its files. It takes every file whose path it does not hold yet, and never changes a file that it holds.
-/

namespace NavGen

/-- A file as an output keeps it. -/
structure StoredFile where
  path : String
  content : String
  sourceIds : List String
  deriving DecidableEq

/-- The files of an output, in the order in which they were created. -/
structure MemoryOutput where
  files : List StoredFile
  deriving DecidableEq

namespace MemoryOutput

/-- The output without files. -/
def empty : MemoryOutput :=
  { files := [] }

/-- The file of a path. -/
def file? (output : MemoryOutput) (path : String) : Option StoredFile :=
  output.files.find? (·.path == path)

/-- The content of the file of a path. -/
def content? (output : MemoryOutput) (path : String) : Option String :=
  (output.file? path).map (·.content)

/-- The source ids of the file of a path. -/
def sourceIds? (output : MemoryOutput) (path : String) : Option (List String) :=
  (output.file? path).map (·.sourceIds)

/-- Creates a file and writes its content. -/
def create (output : MemoryOutput) (file : GeneratedFile) : Except OutputError MemoryOutput :=
  if (output.file? file.path).isSome then .error (.alreadyCreated file.path)
  else .ok { files := output.files ++ [{ path := file.path, content := file.content, sourceIds := file.sourceIds }] }

instance : FileSink MemoryOutput where
  take output file :=
    match output.create file with
    | .ok output => (output, none)
    | .error error => (output, some error)

/-- The files, sorted by path. -/
def sortedFiles (output : MemoryOutput) : List StoredFile :=
  sortBy (fun a b => textLe a.path b.path) output.files

end MemoryOutput

end NavGen
