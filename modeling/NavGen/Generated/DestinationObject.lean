import NavGen.Generated.Settings
import NavGen.Source.Literal

/-!
# Objects of destinations

For each destination an object is generated that knows its routes, arguments, deep links and result. Calling the object with values for the
arguments builds a direction to the destination; `argsFrom` reads the values back where it is shown. Whether an argument may be left out is
decided once, by `Argument.defaultCode?`, and read back accordingly, by `Argument.absent`.
-/

namespace NavGen

/-- What reading an argument gives when the route does not hold it. -/
inductive Absent where
  | null
  | default (code : String)
  | error (message : String)
  deriving DecidableEq

namespace Argument

/-- The source text of the value that an argument has when it is left out, if it may be. -/
def defaultCode? (argument : Argument) : Option String :=
  match argument.default? with
  | some code => some code
  | none => if argument.isNullable then some "null" else none

/-- What reading an argument gives when the route does not hold it. -/
def absent (argument : Argument) : Absent :=
  if argument.isNullable then .null
  else
    match argument.default? with
    | some code => .default code
    | none => .error ("'" ++ argument.name ++ "' argument is mandatory, but was not present!")

/-- The lines that describe an argument to the navigation runtime. -/
def description (argument : Argument) (navType : String) : List Layout :=
  [Layout.code ("type = " ++ navType)]
    ++ (if argument.isNullable then [Layout.code "nullable = true"] else [])
    ++ (argument.defaultCode?.map fun code => Layout.code ("defaultValue = " ++ code)).toList

/-- An argument as a parameter. -/
def parameterCode (argument : Argument) : String :=
  argument.name ++ ": " ++ argument.type.code
    ++ (match argument.defaultCode? with
      | some code => " = " ++ code
      | none => "")
    ++ ","

/-- The line that reads an argument back by its nav type. -/
def readingCode (argument : Argument) (navType : String) : String :=
  argument.name ++ " = " ++ navType ++ ".get(savedStateHandle, " ++ Literal.quote argument.name ++ ")"
    ++ (match argument.absent with
      | .null => ""
      | .default code => " ?: " ++ code
      | .error message => " ?: error(" ++ Literal.quote message ++ ")")
    ++ ","

end Argument

/-- A part of the route that a call builds: the text before a value, and the argument whose value it is. -/
structure RoutePart where
  opening : String
  argument : Argument

namespace RoutePart

/-- The part as an expression, given the nav type that writes the value. -/
def code (part : RoutePart) (navType : String) : String :=
  "\"" ++ part.opening ++ "$\x7b" ++ navType ++ ".serializeValue(" ++ part.argument.name ++ ")\x7d\""

end RoutePart

namespace Destination

/-- The query parameters of a route. The first is opened by a question mark, the others by an ampersand. -/
def queryParts : (opening : String) → List Argument → List RoutePart
  | _, [] => []
  | opening, argument :: rest => ⟨opening ++ argument.name ++ "=", argument⟩ :: queryParts "&" rest

/-- The parts that a call appends to the base route: a path segment for each mandatory argument, a query parameter for each other. -/
def routeParts (destination : Destination) : List RoutePart :=
  destination.mandatory.map (RoutePart.mk "/") ++ queryParts "?" destination.optional

end Destination

namespace Generation

/-- The property that describes the arguments to the navigation runtime. -/
def argumentsProperty (generation : Generation) (arguments : List Argument) : Fragment :=
  { names := [Name.ofQualified "androidx.navigation.NamedNavArgument", Name.ofQualified "androidx.navigation.navArgument"]
      ++ arguments.map generation.navTypeOf
    layout := Layout.bracketed (.code "override val arguments: List<NamedNavArgument> get() = listOf(")
      (arguments.flatMap fun argument =>
        Layout.braced (.code ("navArgument(" ++ Literal.quote argument.name ++ ")"))
          (argument.description (generation.navTypeOf argument).simple) ",")
      ")" }

/-- The lines of a deep link to a destination with a route. -/
def deepLinkLines (route : String) (link : DeepLink) : List Layout :=
  Layout.braced (.code "navDeepLink")
    ([Layout.code ("uriPattern = " ++ Literal.quote (link.resolvedPattern route))]
      ++ (link.action?.map fun action => Layout.code ("action = " ++ Literal.quote action)).toList
      ++ (link.mimeType?.map fun mimeType => Layout.code ("mimeType = " ++ Literal.quote mimeType)).toList)
    ","

/-- The property that lists the deep links. -/
def deepLinksProperty (destination : Destination) : Fragment :=
  { names := [Name.ofQualified "androidx.navigation.NavDeepLink", Name.ofQualified "androidx.navigation.navDeepLink"]
    layout := Layout.bracketed (.code "override val deepLinks: List<NavDeepLink> get() = listOf(")
      (destination.deepLinks.flatMap (deepLinkLines destination.routeTemplate)) ")" }

/-- The properties that describe an activity. -/
def activityProperties (destination : Destination) (info : ActivityInfo) : Fragment :=
  { names := [Name.ofQualified "android.app.Activity", destination.target]
    layout := [
      Layout.code ("override val activityClass: Class<out Activity> = " ++ destination.target.simple ++ "::class.java"),
      Layout.code ("override val targetPackage: String? = " ++ Literal.quoteOrNull info.targetPackage?),
      Layout.code ("override val action: String? = " ++ Literal.quoteOrNull info.action?),
      Layout.code ("override val dataUri: String? = " ++ Literal.quoteOrNull info.dataUri?),
      Layout.code ("override val dataType: String? = " ++ Literal.quoteOrNull info.dataType?)] }

/-- The properties that describe the result. -/
def resultProperties (generation : Generation) (result : ResultSender) : Fragment :=
  let navType := result.navType.instanceName generation.package
  { names := result.type.names ++ [navType, Library.declared "navargs.DestinationsNavType"]
    layout := [
      .line (.property "resultType" "Class<*>" (result.type.name.simple ++ "::class.java")),
      .line (.property "resultNavType" ("DestinationsNavType<" ++ result.type.code ++ ">") navType.simple),
      Layout.code ("public const val isResultNullable: Boolean = " ++ Literal.ofBool result.type.nullable)] }

/-- The lines of the parts of a route, joined by plus signs. -/
def routePartLines (generation : Generation) : List RoutePart → List Layout
  | [] => []
  | [part] => [Layout.code (part.code (generation.navTypeOf part.argument).simple)]
  | part :: rest =>
    Layout.code (part.code (generation.navTypeOf part.argument).simple ++ " +") :: generation.routePartLines rest

/-- The operator that builds a direction. Optional arguments are always written into the route, so that whoever reads it finds their values
there. -/
def invokeOperator (generation : Generation) (destination : Destination) : Fragment :=
  let direction := Library.declared "spec.Direction"
  if destination.arguments.isEmpty then
    { names := [direction]
      layout := [Layout.code "public operator fun invoke(): Direction = Direction(baseRoute)"] }
  else
    { names := [direction] ++ destination.arguments.flatMap (·.type.names)
        ++ destination.routeParts.map (generation.navTypeOf ·.argument)
      layout := [Layout.code "public operator fun invoke(", .indent]
        ++ destination.arguments.map (fun argument => Layout.code argument.parameterCode)
        ++ [.dedent]
        ++ Layout.braced (.code "): Direction")
          ([Layout.code "return Direction(", .indent, Layout.code "baseRoute +", .indent]
            ++ generation.routePartLines destination.routeParts
            ++ [.dedent, .dedent, Layout.code ")"])
          "" }

/-- The class that holds the arguments, when the user declares none. -/
def argumentsClass (arguments : List Argument) : List Layout :=
  Layout.bracketed (.code "public data class NavArgs(")
    (arguments.map fun argument => Layout.code ("val " ++ argument.name ++ ": " ++ argument.type.code ++ ",")) ")"
    ++ [.blank]

/-- The simple name of the class that holds the arguments. -/
def argumentsClassName (destination : Destination) : String :=
  (destination.argumentsClass?.map (·.simple)).getD "NavArgs"

/-- The function that reads the arguments back, after the class that holds them. -/
def argumentsReader (generation : Generation) (destination : Destination) : Fragment :=
  let className := argumentsClassName destination
  { names := [Name.ofQualified "androidx.lifecycle.SavedStateHandle"]
      ++ destination.argumentsClass?.toList
      ++ destination.arguments.map generation.navTypeOf
    layout := (if destination.argumentsClass?.isSome then [] else argumentsClass destination.arguments)
      ++ Layout.braced (.code ("public fun argsFrom(savedStateHandle: SavedStateHandle): " ++ className))
        (Layout.bracketed (.code ("return " ++ className ++ "("))
          (destination.arguments.map fun argument =>
            Layout.code (argument.readingCode (generation.navTypeOf argument).simple))
          ")")
        "" }

/-- What the object of a destination implements. -/
def destinationSpec (destination : Destination) : Name :=
  if destination.isActivity then Library.declared "spec.ActivityDestinationSpec" else Library.declared "spec.DestinationSpec"

/-- The properties of an activity, if the destination is one. -/
def activitySection (destination : Destination) : Fragment :=
  match destination.kind with
  | .composable => .lines []
  | .activity info => .section? true (activityProperties destination info)

/-- The properties of the result, if the destination sends one. -/
def resultSection (generation : Generation) (destination : Destination) : Fragment :=
  match destination.result? with
  | none => .lines []
  | some result => .section? true (generation.resultProperties result)

/-- The members of the object of a destination. -/
def destinationMembers (generation : Generation) (destination : Destination) : Fragment :=
  let hasArguments := !destination.arguments.isEmpty
  .concat [
    .section? true (.lines [Layout.code ("override val baseRoute: String = " ++ Literal.quote destination.baseRoute)]),
    .section? true (.lines [Layout.code ("override val route: String = " ++ Literal.quote destination.routeTemplate)]),
    .section? hasArguments (generation.argumentsProperty destination.arguments),
    .section? (!destination.deepLinks.isEmpty) (deepLinksProperty destination),
    activitySection destination,
    generation.resultSection destination,
    .section? true (generation.invokeOperator destination),
    .section? hasArguments (generation.argumentsReader destination)]

/-- The source file of a destination. -/
def destinationSource (generation : Generation) (destination : Destination) : SourceFile :=
  let spec := destinationSpec destination
  let members := generation.destinationMembers destination
  { package := generation.subPackage "destinations"
    body := {
      names := spec :: members.names
      layout := Layout.braced (.object destination.name (some spec.simple)) members.layout "" } }

/-- The generated file of a destination. -/
def destinationFile (generation : Generation) (destination : Destination) : GeneratedFile :=
  (generation.destinationSource destination).generated destination.name destination.sourceIds

end Generation

end NavGen
