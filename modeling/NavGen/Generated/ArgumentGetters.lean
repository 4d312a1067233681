import NavGen.Generated.Settings

/-!
# Getters of arguments

One file lets a screen read its arguments by the class that holds them. Classes that are not of this module are looked up in the getters of
the modules it depends on, one after the other.
-/

namespace NavGen.Generation

/-- The destinations that declare arguments. -/
def destinationsWithArguments (generation : Generation) : List Destination :=
  generation.model.destinations.filter (!·.arguments.isEmpty)

/-- The packages of the modules that have getters of their own. -/
def getterPackages (generation : Generation) : List String :=
  (generation.model.modules.filter (·.hasArgumentGetters)).map (·.package)

/-- The class that holds the arguments of a destination, as getters refer to it. -/
def argumentsClassCode (destination : Destination) : String :=
  match destination.argumentsClass? with
  | some name => name.simple
  | none => destination.name ++ ".NavArgs"

/-- The branch for the class of a destination. -/
def getterBranch (destination : Destination) : Layout :=
  Layout.code (argumentsClassCode destination ++ "::class.java -> " ++ destination.name ++ ".argsFrom(argsContainer) as T")

/-- The expression that fails for a class that no module knows. -/
def unknownClass : String :=
  "error(\"Class $\x7bargsClass\x7d is not a navigation arguments class!\")"

/-- The branch for all other classes. -/
def otherBranch (packages : List String) : List Layout :=
  if packages.isEmpty then [Layout.code ("else -> " ++ unknownClass)]
  else
    Layout.bracketed (.code "else -> listOf<() -> T>(")
      (packages.map fun package => Layout.code ("\x7b " ++ package ++ ".navargs.navArgs(argsClass, argsContainer) \x7d,"))
      ").firstNotNullOfOrNull \x7b getter -> runCatching(getter).getOrNull() \x7d"
    ++ [.indent, Layout.code ("?: " ++ unknownClass), .dedent]

/-- The source file of the getters. -/
def gettersSource (generation : Generation) : SourceFile :=
  { package := generation.subPackage "navargs"
    body := {
      names := [Name.ofQualified "androidx.lifecycle.SavedStateHandle"]
        ++ generation.destinationsWithArguments.flatMap fun destination =>
          generation.destinationObject destination :: destination.argumentsClass?.toList
      layout := [
          Layout.code "public inline fun <reified T> SavedStateHandle.navArgs(): T = navArgs(T::class.java, this)",
          .blank,
          Layout.code "@Suppress(\"UNCHECKED_CAST\")"]
        ++ Layout.braced (.code "public fun <T> navArgs(argsClass: Class<T>, argsContainer: SavedStateHandle): T")
          (Layout.braced (.code "return when (argsClass)")
            (generation.destinationsWithArguments.map getterBranch ++ otherBranch generation.getterPackages) "")
          "" } }

/-- The generated file of the getters, if there are any. -/
def gettersFile? (generation : Generation) : Option GeneratedFile :=
  if generation.hasArgumentGetters then
    some (generation.gettersSource.generated "NavArgsGetters"
      (sortedTexts (generation.destinationsWithArguments.flatMap (·.sourceIds))))
  else none

end NavGen.Generation
