import NavGen.Generated.Settings
import NavGen.Model.ChildrenFirst
import NavGen.Source.Literal

/-!
# The object of all graphs

One object holds a property for each graph of the module. Nested graphs must be initialised before the graphs that refer to them, so the
properties come children first. The top level graphs of the modules that are depended on are listed at the end.
-/

namespace NavGen

/-- A graph as the generated object declares it. -/
structure GraphEntry where
  property : String
  isHost : Bool
  route : String
  /-- What the graph starts with, by the name that the object uses. -/
  start : String
  destinations : List String
  /-- The properties of the graphs nested in it. -/
  nested : List String
  startArguments : List String

namespace GraphEntry

/-- What the property of a graph implements. -/
def spec (entry : GraphEntry) : String :=
  if entry.isHost then "NavHostGraphSpec" else "NavGraphSpec"

/-- A property that lists items. -/
def listProperty (declaration : String) (items : List String) : List Layout :=
  if items.isEmpty then [Layout.code ("override val " ++ declaration ++ " = emptyList()")]
  else Layout.bracketed (.code ("override val " ++ declaration ++ " = listOf(")) (items.map fun item => Layout.code (item ++ ",")) ")"

/-- The lines that declare a graph. -/
def layout (entry : GraphEntry) : List Layout :=
  Layout.braced (.property entry.property entry.spec ("object : " ++ entry.spec))
    ([Layout.code ("override val route: String = " ++ Literal.quote entry.route),
        Layout.code ("override val startRoute: Route = " ++ entry.start)]
      ++ listProperty "destinations: List<DestinationSpec>" entry.destinations
      ++ listProperty "nestedNavGraphs: List<NavGraphSpec>" entry.nested
      ++ (if entry.startArguments.isEmpty then [] else listProperty "defaultStartArgs: List<Any?>" entry.startArguments))
    ""

end GraphEntry

namespace Generation

/-- The arguments that a graph starts with. Only hosts start with any. -/
def startArgumentsOf (graph : Graph) : List Name :=
  if graph.isHost then graph.startArguments else []

/-- The name that the object uses for what a graph starts with. -/
def startCode (generation : Generation) (graph : Graph) : String :=
  match graph.start with
  | .destination name => name
  | .graph type =>
    match generation.model.graph? type with
    | some child => child.propertyName
    | none => Text.camel (defaultGraphRoute type.simple)

/-- A graph as the object declares it. -/
def graphEntry (generation : Generation) (graph : Graph) : GraphEntry :=
  { property := graph.propertyName
    isHost := graph.isHost
    route := graph.route
    start := generation.startCode graph
    destinations := (generation.model.destinationsOf graph.type).map (·.name)
    nested := (generation.model.nestedGraphsOf graph.type).map (·.propertyName)
    startArguments := (startArgumentsOf graph).map (·.simple) }

/-- The declarations that the property of a graph calls by simple names. -/
def graphEntryNames (generation : Generation) (graph : Graph) : List Name :=
  (if graph.isHost then [Library.declared "spec.NavHostGraphSpec"] else [])
    ++ [Library.declared "spec.Route", Library.declared "spec.DestinationSpec"]
    ++ (match graph.start with
      | .destination name => ((generation.model.destination? name).map generation.destinationObject).toList
      | .graph _ => [])
    ++ (generation.model.destinationsOf graph.type).map generation.destinationObject
    ++ startArgumentsOf graph

/-- The graphs as the object declares them, in order. -/
def graphEntries (generation : Generation) : List GraphEntry :=
  generation.model.graphsChildrenFirst.map generation.graphEntry

/-- The references to the top level graphs of the modules that are depended on. -/
def externalGraphs (generation : Generation) : List String :=
  generation.model.modules.flatMap fun surface => surface.topLevelGraphs.map surface.graphReference

/-- The property that lists the graphs of other modules, if there are any. -/
def externalLayout (generation : Generation) : List Layout :=
  if generation.externalGraphs.isEmpty then []
  else
    .blank :: Layout.bracketed (.property "external" "List<NavGraphSpec>" "listOf(")
      (generation.externalGraphs.map fun reference => Layout.code (reference ++ ",")) ")"

/-- The source file of the object. -/
def graphsSource (generation : Generation) : SourceFile :=
  { package := generation.package
    body := {
      names := Library.declared "spec.NavGraphSpec" :: generation.model.graphsChildrenFirst.flatMap generation.graphEntryNames
      layout := Layout.braced (.object "NavGraphs" none)
        (generation.graphEntries.flatMap (fun entry => .blank :: entry.layout) ++ generation.externalLayout) "" } }

/-- The generated file of the object. -/
def graphsFile (generation : Generation) : GeneratedFile :=
  generation.graphsSource.generated "NavGraphs" generation.model.allSourceIds

end Generation

end NavGen
