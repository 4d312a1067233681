import NavGen.Text.Search

/-!
# Generated files

A file as the generator hands it over, and where it belongs: its package gives the directory, below the root of an output.
-/

namespace NavGen

/-- A file that is ready to be written. -/
structure GeneratedFile where
  name : String
  package : String
  extension : String
  /-- The sources that the file was derived from. -/
  sourceIds : List String
  content : String
  deriving DecidableEq

/-- The path of a file below the root of an output: a directory for each segment of the package, then the name and the extension. -/
def relativePath (package name extension : String) : String :=
  let directory := String.ofList (package.toList.map fun c => if c = '.' then '/' else c)
  (if directory.isEmpty then "" else directory ++ "/") ++ name ++ "." ++ extension

/-- The path of a generated file below the root of an output. -/
def GeneratedFile.path (file : GeneratedFile) : String :=
  relativePath file.package file.name file.extension

end NavGen
