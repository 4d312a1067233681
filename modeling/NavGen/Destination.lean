import NavGen.NavType
import NavGen.Text.Blank

/-!
# Destinations

A destination is a screen that can be navigated to: a composable function or an activity class. Its route is its base route followed by
its arguments. Arguments that must be given are segments of the path, the others are parameters of the query.
-/

namespace NavGen

/-- An argument of a destination. -/
structure Argument where
  name : String
  type : TypeUse
  navType : NavType
  /-- The source text of the declared default value. -/
  default? : Option String

namespace Argument

/-- Whether an argument may be null. -/
def isNullable (argument : Argument) : Bool :=
  argument.type.nullable

/-- Whether an argument has to be given: it cannot be null and has no default. -/
def isMandatory (argument : Argument) : Bool :=
  !argument.isNullable && argument.default?.isNone

/-- Whether an argument declares a default value. -/
def hasDefault (argument : Argument) : Bool :=
  argument.default?.isSome

end Argument

/-- A link from outside the application to a destination. -/
structure DeepLink where
  uriPattern : String
  action? : Option String
  mimeType? : Option String
  deriving DecidableEq

namespace DeepLink

/-- The deep link with a pattern alone. -/
def ofPattern (uriPattern : String) : DeepLink :=
  { uriPattern, action? := none, mimeType? := none }

/-- The pattern with the route of the destination in place of the full route placeholder. -/
def resolvedPattern (link : DeepLink) (route : String) : String :=
  Text.replace Library.fullRoutePlaceholder route link.uriPattern

/-- The texts between an opening brace and the next closing brace. `read` is the text of the open pair, last character first; no pair is
open when there is none. A pair that is not closed holds nothing. -/
def bracedFrom : (read : Option (List Char)) → List Char → List (List Char)
  | _, [] => []
  | none, c :: rest => bracedFrom (if c = '\x7b' then some [] else none) rest
  | some read, c :: rest =>
    if c = '\x7d' then read.reverse :: bracedFrom none rest else bracedFrom (some (c :: read)) rest

/-- The names that a pattern binds, in order of appearance: what stands between braces, without the blanks around it. -/
def placeholders (link : DeepLink) : List String :=
  (((bracedFrom none link.uriPattern.toList).map Text.trimChars).filter (!·.isEmpty)).map String.ofList

end DeepLink

/-- What is known of an activity besides its class. -/
structure ActivityInfo where
  targetPackage? : Option String
  action? : Option String
  dataUri? : Option String
  dataType? : Option String
  deriving DecidableEq

/-- What kind of target a destination has. -/
inductive DestinationKind where
  | composable
  | activity (info : ActivityInfo)
  deriving DecidableEq

/-- The result that a destination can send back to its caller. -/
structure ResultSender where
  type : TypeUse
  navType : NavType

/-- A place that can be navigated to. -/
structure Destination where
  /-- The name of the generated object. -/
  name : String
  target : Name
  kind : DestinationKind
  baseRoute : String
  /-- The graph that owns the destination. -/
  graph : Name
  isStart : Bool
  arguments : List Argument
  /-- The class that holds the arguments, if the user declares one. -/
  argumentsClass? : Option Name
  deepLinks : List DeepLink
  result? : Option ResultSender
  sourceIds : List String

namespace Destination

/-- The arguments that have to be given. -/
def mandatory (destination : Destination) : List Argument :=
  destination.arguments.filter (·.isMandatory)

/-- The arguments that may be left out. -/
def optional (destination : Destination) : List Argument :=
  destination.arguments.filter (!·.isMandatory)

/-- The path segment of an argument. -/
def segment (argument : Argument) : String :=
  "/\x7b" ++ argument.name ++ "\x7d"

/-- The query parameter of an argument. -/
def parameter (argument : Argument) : String :=
  argument.name ++ "=\x7b" ++ argument.name ++ "\x7d"

/-- The query of a route, which is left out when it has no parameters. -/
def query (parameters : List String) : String :=
  if parameters.isEmpty then "" else "?" ++ "&".intercalate parameters

/-- The route with a placeholder for each argument. -/
def routeTemplate (destination : Destination) : String :=
  destination.baseRoute
    ++ String.join (destination.mandatory.map segment)
    ++ query (destination.optional.map parameter)

/-- The first argument with a name. -/
def argument? (destination : Destination) (name : String) : Option Argument :=
  destination.arguments.find? (·.name == name)

/-- Whether the target is an activity. -/
def isActivity (destination : Destination) : Bool :=
  match destination.kind with
  | .composable => false
  | .activity _ => true

/-- The nav types of the arguments, and then that of the result. -/
def navTypes (destination : Destination) : List NavType :=
  destination.arguments.map (·.navType) ++ (destination.result?.map (·.navType)).toList

end Destination

end NavGen
