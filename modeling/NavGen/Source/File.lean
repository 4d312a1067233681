import NavGen.Name
import NavGen.Source.Layout

/-!
# Generated source files

A source file has a package, a body and the declarations that the body calls by their simple names. Those of other packages are imported.
Imports are sorted, so that a file depends only on what it holds and not on the order in which it was put together.
-/

namespace NavGen

/-- A part of a file: its lines and the declarations that they call by simple names. -/
structure Fragment where
  names : List Name
  layout : List Layout

namespace Fragment

/-- A part without names of its own. -/
def lines (layout : List Layout) : Fragment :=
  { names := [], layout }

/-- Several parts, one after the other. -/
def concat (fragments : List Fragment) : Fragment :=
  { names := fragments.flatMap (·.names), layout := fragments.flatMap (·.layout) }

/-- A part that is there only under a condition, after an empty line. -/
def section? (condition : Bool) (fragment : Fragment) : Fragment :=
  if condition then { fragment with layout := .blank :: fragment.layout } else { names := [], layout := [] }

end Fragment

/-- A source file before it is written out. -/
structure SourceFile where
  package : String
  body : Fragment

namespace SourceFile

/-- The first line of every generated file. -/
def header : String :=
  "// Generated by destinations-codegen. Do not edit: changes are overwritten on the next build."

/-- Whether a name has to be imported: it is in a package that is neither the file's own nor visible everywhere. -/
def needsImport (file : SourceFile) (name : Name) : Bool :=
  !name.package.isEmpty && name.package != file.package && name.package != "kotlin"

/-- The qualified names that a file imports, sorted, each once. -/
def imports (file : SourceFile) : List String :=
  sortedTexts ((file.body.names.filter file.needsImport).map (·.qualified))

/-- The public properties that a file declares, in order. -/
def properties (file : SourceFile) : List String :=
  (file.body.layout.filterMap (·.line?)).filterMap (·.property?)

/-- The public objects that a file declares, in order. -/
def objects (file : SourceFile) : List String :=
  (file.body.layout.filterMap (·.line?)).filterMap (·.object?)

/-- The line that names the package of a file. -/
def packageText (file : SourceFile) : String :=
  if file.package.isEmpty then "" else "package " ++ file.package ++ "\n\n"

/-- The lines that import names. -/
def importText (file : SourceFile) : String :=
  if file.imports.isEmpty then ""
  else String.join (file.imports.map fun qualified => "import " ++ qualified ++ "\n") ++ "\n"

/-- The text of a file. -/
def text (file : SourceFile) : String :=
  header ++ "\n" ++ file.packageText ++ file.importText ++ String.join (Layout.render 0 file.body.layout)

end SourceFile

end NavGen
