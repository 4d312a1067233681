import NavGen.Destination
import NavGen.Graph
import NavGen.Pass.Setup
import NavGen.Symbol.Table

/-!
# Reading graphs

Graphs are annotation classes that are marked as graphs. They are read before the destinations, because a destination that names no graph
belongs to the default one; what each graph starts with is only known afterwards. The built-in root graph joins them when something refers to
it.
-/

namespace NavGen

/-- A graph as declared, before it is known what it starts with. -/
structure GraphDeclaration where
  type : Name
  route : String
  parent? : Option Name
  isParentStart : Bool
  isHost : Bool
  isDefault : Bool
  sourceIds : List String

/-- The declared graphs, hosts first, and the host that is marked as the default. -/
structure GraphDeclarations where
  graphs : List GraphDeclaration
  defaultHost? : Option Name

namespace GraphDeclaration

/-- The root graph that exists without being declared. -/
def rootType : Name :=
  Name.ofQualified Library.rootNavGraph

/-- The route of a graph: what its annotation says, or else a default made from its name. -/
def routeOf (declaration : Declaration) (marker : String) : String :=
  let route? := (declaration.annotationOf? marker).bind fun written => (written.argument? "route").bind (·.asText?)
  (route?.filter (!·.isEmpty)).getD (defaultGraphRoute declaration.simpleName)

/-- A truth value that an annotation of a declaration sets, or false. -/
def flagOf (declaration : Declaration) (marker argument : String) : Bool :=
  ((declaration.annotationOf? marker).bind fun written => (written.argument? argument).bind (·.asBool?)).getD false

/-- A host graph. -/
def host (declaration : Declaration) : GraphDeclaration :=
  { type := declaration.name
    route := routeOf declaration Library.navHostGraph
    parent? := none
    isParentStart := false
    isHost := true
    isDefault := flagOf declaration Library.navHostGraph "default"
    sourceIds := declaration.sourceIds }

/-- A nested graph. Without a parent of its own it is nested in the default graph. -/
def nested (defaultGraph : Name) (declaration : Declaration) : GraphDeclaration :=
  let parent? := (declaration.annotationOf? Library.navGraph).bind fun written => written.typeArguments.head?
  { type := declaration.name
    route := routeOf declaration Library.navGraph
    parent? := some ((parent?.map (·.name)).getD defaultGraph)
    isParentStart := flagOf declaration Library.navGraph "start"
    isHost := false
    isDefault := false
    sourceIds := declaration.sourceIds }

/-- The root graph. It is the default if no host is. -/
def root (isDefault : Bool) : GraphDeclaration :=
  { type := rootType
    route := defaultGraphRoute rootType.simple
    parent? := none
    isParentStart := false
    isHost := true
    isDefault
    sourceIds := [] }

end GraphDeclaration

namespace GraphDeclarations

/-- Reads host graphs, of which at most one may be the default and none may be nested as well. -/
def readHosts (default? : Option Name) : List Declaration → Except SetupError GraphDeclarations
  | [] => .ok { graphs := [], defaultHost? := default? }
  | declaration :: rest =>
    let graph := GraphDeclaration.host declaration
    if (declaration.annotationOf? Library.navGraph).isSome then .error { declaration := declaration.qualified, fault := .hostAndNested }
    else
      match graph.isDefault, default? with
      | true, some earlier =>
        .error { declaration := declaration.qualified, fault := .severalDefaults earlier graph.type }
      | true, none => do
        let others ← readHosts (some graph.type) rest
        return { others with graphs := graph :: others.graphs }
      | false, _ => do
        let others ← readHosts default? rest
        return { others with graphs := graph :: others.graphs }

/-- The annotation classes that carry an annotation. -/
def classesWith (symbols : Symbols) (marker : String) : List Declaration :=
  (symbols.annotatedWith marker).filter (·.kind = .annotationClass)

/-- The graph of destinations and nested graphs that name none. -/
def defaultGraph (declarations : GraphDeclarations) : Name :=
  declarations.defaultHost?.getD GraphDeclaration.rootType

/-- Reads all declared graphs. -/
def collect (symbols : Symbols) : Logged GraphDeclarations := do
  let hosts := classesWith symbols Library.navHostGraph
  let nested := classesWith symbols Library.navGraph
  let declared ← Logged.lift (readHosts none hosts)
  Logged.debug ("found " ++ toString hosts.length ++ " nav host graphs and " ++ toString nested.length ++ " nested nav graphs")
  return { declared with graphs := declared.graphs ++ nested.map (GraphDeclaration.nested declared.defaultGraph) }

/-- Whether no graph is declared. -/
def isEmpty (declarations : GraphDeclarations) : Bool :=
  declarations.graphs.isEmpty

/-- The graph of a destination, given the graph that it names. -/
def owningGraph (declarations : GraphDeclarations) (named? : Option TypeExpr) : Name :=
  (named?.map (·.name)).getD declarations.defaultGraph

/-- Whether a graph of a type is declared. -/
def declares (declarations : GraphDeclarations) (type : Name) : Bool :=
  declarations.graphs.any (·.type == type)

/-- Whether a destination or nested graph refers to a graph. -/
def refersTo (declarations : GraphDeclarations) (destinations : List Destination) (type : Name) : Bool :=
  destinations.any (·.graph == type) || declarations.graphs.any (·.parent? == some type)

/-- The declared graphs, and the root graph if something refers to it and it is not declared. -/
def withRoot (declarations : GraphDeclarations) (destinations : List Destination) : List GraphDeclaration :=
  let root := GraphDeclaration.rootType
  if declarations.declares root || !declarations.refersTo destinations root then declarations.graphs
  else declarations.graphs ++ [GraphDeclaration.root declarations.defaultHost?.isNone]

/-- The first parent that is no graph of the list is an error. -/
def checkParents (graphs : List GraphDeclaration) : Except SetupError Unit :=
  match graphs.findSome? fun graph =>
    (graph.parent?.filter fun parent => !graphs.any (·.type == parent)).map fun parent =>
      SetupError.mk graph.type.qualified (.unknownParent parent) with
  | some error => .error error
  | none => .ok ()

/-- The host graph that a property holds start arguments of. -/
def startArgumentsGraph (graphs : List GraphDeclaration) (property : Declaration) : Except SetupError Name :=
  match (property.annotationOf? Library.navHostDefaultStartArgs).bind (·.typeArguments.head?) with
  | none => .error { declaration := property.qualified, fault := .startArgumentsWithoutGraph }
  | some type =>
    if graphs.any fun graph => graph.type == type.name && graph.isHost then .ok type.name
    else .error { declaration := property.qualified, fault := .startArgumentsOfNoHost type.name }

/-- The properties that hold start arguments, each with the graph it is for. -/
def startArguments (symbols : Symbols) (graphs : List GraphDeclaration) : Except SetupError (List (Name × Name)) :=
  ((symbols.annotatedWith Library.navHostDefaultStartArgs).filter (·.kind = .property)).mapM fun property => do
    return (← startArgumentsGraph graphs property, property.name)

/-- The start arguments of a graph, sorted. -/
def startArgumentsOf (arguments : List (Name × Name)) (type : Name) : List Name :=
  sortBy Name.le ((arguments.filter (·.1.qualified == type.qualified)).map (·.2))

/-- What is marked as the start of a graph: destinations, then nested graphs. -/
def markedStarts (graphs : List GraphDeclaration) (destinations : List Destination) (type : Name) : List Start :=
  (destinations.filter fun destination => destination.graph == type && destination.isStart).map (.destination ·.name)
    ++ (graphs.filter fun graph => graph.parent? == some type && graph.isParentStart).map (.graph ·.type)

/-- What a start is called in messages. -/
def startText : Start → String
  | .destination name => name
  | .graph type => type.qualified

/-- What a graph starts with: the one thing that is marked as its start. -/
def startOf (graphs : List GraphDeclaration) (destinations : List Destination) (graph : GraphDeclaration) :
    Except SetupError Start :=
  match markedStarts graphs destinations graph.type with
  | [start] => .ok start
  | [] => .error { declaration := graph.type.qualified, fault := .noStart graph.route }
  | several => .error { declaration := graph.type.qualified, fault := .severalStarts graph.route (several.map startText) }

/-- Completes graphs one after the other. Of several graphs with one name the first gets the start arguments; `done` holds the names that
came before. -/
def complete (graphs : List GraphDeclaration) (destinations : List Destination) (arguments : List (Name × Name))
    (done : List String) : List GraphDeclaration → Except SetupError (List Graph)
  | [] => .ok []
  | graph :: rest => do
    let start ← startOf graphs destinations graph
    let others ← complete graphs destinations arguments (graph.type.qualified :: done) rest
    return {
      type := graph.type
      route := graph.route
      start
      parent? := graph.parent?
      isParentStart := graph.isParentStart
      isHost := graph.isHost
      isDefault := graph.isDefault
      startArguments := if done.contains graph.type.qualified then [] else startArgumentsOf arguments graph.type
      sourceIds := graph.sourceIds } :: others

/-- The graphs of the model, once the destinations are known. -/
def graphsFor (declarations : GraphDeclarations) (symbols : Symbols) (destinations : List Destination) :
    Except SetupError (List Graph) := do
  let graphs := declarations.withRoot destinations
  checkParents graphs
  let arguments ← startArguments symbols graphs
  complete graphs destinations arguments [] graphs

end GraphDeclarations

end NavGen
