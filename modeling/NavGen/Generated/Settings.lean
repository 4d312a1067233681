import NavGen.Model
import NavGen.Output.GeneratedFile
import NavGen.Source.File

/-!
# What code is generated for

The settings of a generation, the model it is for, and the names that the generated files use for one another.
-/

namespace NavGen

/-- How code is generated. -/
structure Settings where
  /-- The package below which all files are generated. -/
  package : String
  /-- The name under which the module publishes its graphs, if it does. -/
  moduleName? : Option String
  deriving DecidableEq

/-- A model and the settings it is generated with. -/
structure Generation where
  settings : Settings
  model : Model

namespace Generation

/-- The package of all generated files. -/
def package (generation : Generation) : String :=
  generation.settings.package

/-- A package below that of all generated files. -/
def subPackage (generation : Generation) (name : String) : String :=
  generation.package ++ "." ++ name

/-- The generated object of a destination. -/
def destinationObject (generation : Generation) (destination : Destination) : Name :=
  { simple := destination.name
    qualified := generation.subPackage "destinations" ++ "." ++ destination.name }

/-- The nav type instance that generated code uses for an argument. -/
def navTypeOf (generation : Generation) (argument : Argument) : Name :=
  argument.navType.instanceName generation.package

/-- Whether getters of arguments are generated: a destination has arguments, or a module that is depended on has getters. -/
def hasArgumentGetters (generation : Generation) : Bool :=
  generation.model.destinations.any (!·.arguments.isEmpty) || generation.model.modules.any (·.hasArgumentGetters)

/-- The result of a destination as the module publishes it, if the destination sends one. -/
def publishedResult? (generation : Generation) (destination : Destination) : Option PublishedResult :=
  destination.result?.map fun result =>
    { destination := (generation.destinationObject destination).qualified
      type := result.type.name.qualified
      isNullable := result.type.nullable
      navType := (result.navType.instanceName generation.package).qualified }

/-- What the module publishes to modules that depend on it. -/
def surface (generation : Generation) : ModuleSurface :=
  { name? := generation.settings.moduleName?
    package := generation.package
    hasArgumentGetters := generation.hasArgumentGetters
    topLevelGraphs := generation.model.topLevelGraphs.map (·.propertyName)
    results := generation.model.destinations.filterMap generation.publishedResult? }

end Generation

/-- The generated file of a source file. -/
def SourceFile.generated (file : SourceFile) (name : String) (sourceIds : List String) : GeneratedFile :=
  { name, package := file.package, extension := "kt", sourceIds, content := file.text }

end NavGen
