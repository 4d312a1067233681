import NavGen.Pass.AnnotationPath
import NavGen.Pass.Graphs
import NavGen.Pass.NavTypes

/-!
# Reading destinations

Each annotation path gives a destination. Arguments are the parameters of the target, or of the class that the annotation names for them,
except those that the navigation runtime supplies. A parameter that sends a result back gives the result of the destination; the result of an
activity is that of an interface it implements.
-/

namespace NavGen

/-- What destinations are read with. -/
structure DestinationReader where
  table : SymbolTable
  registry : SerializerRegistry
  graphs : GraphDeclarations

/-- What the parameters of a destination give: its arguments, and its result if one of them sends it. -/
structure ReadParameters where
  arguments : List Argument
  result? : Option ResultSender

namespace DestinationReader

/-- Where the type of an argument is looked up. -/
def context (reader : DestinationReader) (owner argument : String) : TypeContext :=
  { table := reader.table, registry := reader.registry, owner, argument }

/-- The class that an annotation path names for the arguments, if it names one. -/
def argumentsClass? (reader : DestinationReader) (path : AnnotationPath) : Except SetupError (Option Declaration) :=
  match path.typeArgument? "navArgs" with
  | none => .ok none
  | some type =>
    match reader.table.classOf? type with
    | some declaration => .ok (some declaration)
    | none => .error { declaration := path.target.qualified, fault := .unknownArgumentsClass type.qualified }

/-- A result of a type. -/
def resultSender (reader : DestinationReader) (owner : String) (type : TypeExpr) : Except SetupError ResultSender := do
  return { type := type.typeUse, navType := ← (reader.context owner "result").navType type }

/-- The result that a parameter sends, which is its type argument. -/
def parameterResult (reader : DestinationReader) (owner : String) (parameter : Parameter) : Except SetupError ResultSender :=
  match parameter.type.arguments.head? with
  | none => .error { declaration := owner, fault := .noResultType parameter.name }
  | some type => reader.resultSender owner type

/-- The argument that a parameter is. -/
def argument (reader : DestinationReader) (owner : String) (parameter : Parameter) : Except SetupError Argument :=
  if parameter.default?.any Text.isBlank then .error { declaration := owner, fault := .unreadableDefault parameter.name }
  else do
    return {
      name := parameter.name
      type := parameter.type.typeUse
      navType := ← (reader.context owner parameter.name).navType parameter.type
      default? := parameter.default? }

/-- Reads parameters in order. Of several that send a result the last counts; `result?` is the result so far. -/
def parameters (reader : DestinationReader) (owner : String) (result? : Option ResultSender) :
    List Parameter → Except SetupError ReadParameters
  | [] => .ok { arguments := [], result? }
  | parameter :: rest =>
    if parameter.type.qualified = Library.resultBackNavigator then do
      reader.parameters owner (some (← reader.parameterResult owner parameter)) rest
    else if Library.suppliedParameters.contains parameter.type.qualified then reader.parameters owner result? rest
    else do
      let argument ← reader.argument owner parameter
      let others ← reader.parameters owner result? rest
      return { others with arguments := argument :: others.arguments }

/-- The result of an activity, if it implements the interface that sends one. -/
def activityResult (reader : DestinationReader) (target : Declaration) : Except SetupError (Option ResultSender) :=
  match (reader.table.supertypesOf target).find? (·.qualified == Library.activityResultSender) with
  | none => .ok none
  | some sender =>
    match sender.arguments.head? with
    | none => .error { declaration := target.qualified, fault := .noActivityResultType }
    | some type => (reader.resultSender target.qualified type).map some

/-- A text of a deep link annotation that counts as not set when it is empty. -/
def linkText? (written : AnnotationExpr) (name : String) : Option String :=
  ((written.argument? name).bind (·.asText?)).filter (!·.isEmpty)

/-- The deep link that an annotation describes. -/
def deepLink (written : AnnotationExpr) : DeepLink :=
  { uriPattern := (linkText? written "uriPattern").getD ""
    action? := linkText? written "action"
    mimeType? := linkText? written "mimeType" }

/-- The deep links of an annotation path. -/
def deepLinks (path : AnnotationPath) : Except SetupError (List DeepLink) :=
  match path.argument? "deepLinks" with
  | none => .ok []
  | some value =>
    value.items.mapM fun item =>
      match item.asAnnotation?.filter (·.type == Library.deepLink) with
      | some written => .ok (deepLink written)
      | none => .error { declaration := path.target.qualified, fault := .noDeepLink }

/-- What an annotation path says of an activity. -/
def activityInfo (path : AnnotationPath) : ActivityInfo :=
  { targetPackage? := path.textArgument? "targetPackage"
    action? := path.textArgument? "action"
    dataUri? := path.textArgument? "dataUri"
    dataType? := path.textArgument? "dataType" }

/-- Reads the parameters that the arguments come from. An activity has arguments only by a class that is named for them. -/
def readParameters (reader : DestinationReader) (target : Declaration) (argumentsClass? : Option Declaration) :
    Except SetupError ReadParameters :=
  match argumentsClass? with
  | some declaration => reader.parameters target.qualified none declaration.parameters
  | none =>
    if target.kind = .plainClass then .ok { arguments := [], result? := none }
    else reader.parameters target.qualified none target.parameters

/-- The destination of an annotation path. -/
def destination (reader : DestinationReader) (path : AnnotationPath) : Except SetupError Destination := do
  let target := path.target
  let isActivity : Bool := target.kind = .plainClass
  let argumentsClass? ← reader.argumentsClass? path
  let read ← reader.readParameters target argumentsClass?
  let result? ← if isActivity then reader.activityResult target else pure read.result?
  let deepLinks ← deepLinks path
  return {
    name := target.simpleName ++ "Destination"
    target := target.name
    kind := if isActivity then .activity (activityInfo path) else .composable
    baseRoute := (path.textArgument? "route").getD (Text.snake target.simpleName)
    graph := reader.graphs.owningGraph path.graphType?
    isStart := path.boolArgument "start"
    arguments := read.arguments
    argumentsClass? := argumentsClass?.map (·.name)
    deepLinks
    result?
    sourceIds := target.sourceIds }

/-- Reads the destination of an annotation path and logs it. -/
def read (reader : DestinationReader) (path : AnnotationPath) : Logged Destination := do
  let destination ← Logged.lift (reader.destination path)
  Logged.debug ("mapped destination '" ++ destination.name ++ "' with route '" ++ destination.routeTemplate ++ "'")
  return destination

end DestinationReader

end NavGen
