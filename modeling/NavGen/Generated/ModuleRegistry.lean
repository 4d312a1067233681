import NavGen.Generated.Settings
import NavGen.Source.Literal

/-!
# The registry of a module

A module with a name publishes its graphs and results by an annotated object in a package that all modules share. A pass over a module that
depends on it finds the object there and reads the annotation back.
-/

namespace NavGen

/-- The expression of an annotation's argument. -/
inductive ArgumentCode where
  | text (value : String)
  | bool (value : Bool)
  | array (items : List ArgumentCode)
  | nested (type : String) (arguments : List (String × ArgumentCode))

namespace ArgumentCode

mutual

/-- The lines of an argument, after the text that introduces it. -/
def layout (introduction : String) : ArgumentCode → List Layout
  | .text value => [Layout.code (introduction ++ Literal.quote value ++ ",")]
  | .bool value => [Layout.code (introduction ++ Literal.ofBool value ++ ",")]
  | .array items => Layout.bracketed (.code (introduction ++ "[")) (itemLayout items) "],"
  | .nested name arguments => Layout.bracketed (.code (introduction ++ name ++ "(")) (argumentLayout arguments) "),"

/-- The lines of the items of an array. -/
def itemLayout : List ArgumentCode → List Layout
  | [] => []
  | item :: rest => item.layout "" ++ itemLayout rest

/-- The lines of named arguments. -/
def argumentLayout : List (String × ArgumentCode) → List Layout
  | [] => []
  | (name, argument) :: rest => argument.layout (name ++ " = ") ++ argumentLayout rest

end

end ArgumentCode

/-- How the declarations of a module's registry are named: its name in capitalized words after a start that tells them apart. -/
structure RegistryNames where
  info : String
  result : String
  registry : String

/-- The names for a module. -/
def RegistryNames.ofModule (moduleName : String) : RegistryNames :=
  let ending := Text.pascal moduleName
  { info := Library.moduleInfoStart ++ ending
    result := Library.resultInfoStart ++ ending
    registry := Library.registryStart ++ ending }

namespace Generation

/-- A published result as an annotation. -/
def resultCode (names : RegistryNames) (result : PublishedResult) : ArgumentCode :=
  .nested names.result [
    ("destination", .text result.destination),
    ("resultType", .text result.type),
    ("resultNavType", .text result.navType),
    ("isResultNullable", .bool result.isNullable)]

/-- The arguments of the annotation that describes a module. -/
def infoArguments (names : RegistryNames) (moduleName : String) (surface : ModuleSurface) : List (String × ArgumentCode) := [
  ("moduleName", .text moduleName),
  ("packageName", .text surface.package),
  ("hasNavArgsPackage", .bool surface.hasArgumentGetters),
  ("typeResults", .array (surface.results.map (resultCode names))),
  ("topLevelGraphs", .array (surface.topLevelGraphs.map .text))]

/-- The declaration of an annotation class with fields, and an empty line. -/
def annotationClassLayout (name : String) (fields : List String) : List Layout :=
  Layout.bracketed (.annotationClass name) (fields.map Layout.code) ")" ++ [.blank]

/-- The source file of the registry of a module. -/
def registrySource (generation : Generation) (moduleName : String) : SourceFile :=
  let names := RegistryNames.ofModule moduleName
  { package := Library.registryPackage
    body := .lines (
      annotationClassLayout names.info [
        "val moduleName: String,",
        "val packageName: String,",
        "val hasNavArgsPackage: Boolean,",
        "val typeResults: Array<" ++ names.result ++ ">,",
        "val topLevelGraphs: Array<String>,"]
      ++ annotationClassLayout names.result [
        "val destination: String,",
        "val resultType: String,",
        "val resultNavType: String,",
        "val isResultNullable: Boolean,"]
      ++ Layout.bracketed (.code ("@" ++ names.info ++ "("))
        (ArgumentCode.argumentLayout (infoArguments names moduleName generation.surface)) ")"
      ++ [.line (.object names.registry none)]) }

/-- The generated file of the registry, if the module has a name. -/
def registryFile? (generation : Generation) : Option GeneratedFile :=
  generation.settings.moduleName?.map fun moduleName =>
    (generation.registrySource moduleName).generated (RegistryNames.ofModule moduleName).registry generation.model.allSourceIds

end Generation

end NavGen
