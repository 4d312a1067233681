import NavGen.Output.GeneratedFile

/-!
# Writing files

Generated files are handed to an output one after the other, and only once it is known that no two of them have the same path. Writing stops
at the first file that the output does not take; the files before it stay written.
-/

namespace NavGen

/-- Why a file was not written. -/
inductive OutputError where
  /-- There is a file of this path already. -/
  | alreadyCreated (path : String)
  /-- The output could not take the file. The reason is not known when it is the operating system's. -/
  | notWritten (path : String) (reason? : Option String)
  deriving DecidableEq

/-- The message of an output error. -/
def OutputError.message : OutputError → String
  | .alreadyCreated path => "file '" ++ path ++ "' was already created in this pass"
  | .notWritten path reason? => "cannot write '" ++ path ++ "': " ++ reason?.getD "the file system refused"

/-- An output that takes files one by one. Taking a file may change the output even if it fails. -/
class FileSink (Output : Type) where
  take : Output → GeneratedFile → Output × Option OutputError

/-- The first path of a list that a path before it equals. -/
def firstRepeated? (seen : List String) : List String → Option String
  | [] => none
  | path :: rest => if seen.contains path then some path else firstRepeated? (path :: seen) rest

/-- Hands files to an output until it refuses one. -/
def writeEach {Output : Type} [FileSink Output] (output : Output) : List GeneratedFile → Output × Option OutputError
  | [] => (output, none)
  | file :: rest =>
    match FileSink.take output file with
    | (output, none) => writeEach output rest
    | (output, some error) => (output, some error)

/-- Writes a list of files. Nothing is written if two of them have the same path. -/
def writeFiles {Output : Type} [FileSink Output] (output : Output) (files : List GeneratedFile) :
    Output × Option OutputError :=
  match firstRepeated? [] (files.map (·.path)) with
  | some path => (output, some (.alreadyCreated path))
  | none => writeEach output files

end NavGen
