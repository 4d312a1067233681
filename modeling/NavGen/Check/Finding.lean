import NavGen.Model
import NavGen.Problem

/-!
# Findings

What can be wrong with an assembled model. A fault says what, a finding also says of which declaration, and the wording of all faults is in
one place.
-/

namespace NavGen

/-- A character that the base part of a route cannot hold, because arguments are written with it. -/
def reservedInRoutes : List Char :=
  ['\x7b', '\x7d', '?', '&', ' ']

/-- A way in which a model is not well formed. -/
inductive Fault where
  /-- Two arguments of the destination have this name. -/
  | repeatedArgument (name : String)
  | blankDeepLink
  /-- A deep link of a destination has a placeholder that is none of its arguments. -/
  | unknownPlaceholder (pattern placeholder destination : String)
  | unknownGraph (graph : Name)
  | repeatedGraph
  | startArgumentsOfNested
  | hostWithParent (parent : Name)
  | nestedWithoutParent
  | unknownParent (parent : Name)
  | noStart (route : String)
  | severalStarts (route : String) (marked : List String)
  | startElsewhere (destination : String)
  | unknownStart (destination : String)
  | startGraphElsewhere (graph : Name)
  | unknownStartGraph (graph : Name)
  /-- Following parents along the chain comes back to a graph of the chain. -/
  | parentCycle (chain : List String) (again : String)
  | severalDefaults (graphs : List String)
  | defaultNotHost
  | repeatedDestination (name earlier later : String)
  | blankRoute
  | reservedInRoute (route : String) (reserved : Char)
  | repeatedRoute (route earlier later : String)
  | repeatedProperty (earlier later property : String)
  | repeatedNavType (earlier later simple : String)

/-- The message of a fault. -/
def Fault.message : Fault → String
  | .repeatedArgument name => "duplicate navigation argument '" ++ name ++ "'"
  | .blankDeepLink => "deep link uri pattern is empty"
  | .unknownPlaceholder pattern placeholder destination =>
    "deep link '" ++ pattern ++ "' references argument '" ++ placeholder ++ "' which is not an argument of '" ++ destination ++ "'"
  | .unknownGraph graph => "destination belongs to unknown nav graph '" ++ graph.qualified ++ "'"
  | .repeatedGraph => "nav graph declared twice"
  | .startArgumentsOfNested => "default start arguments can only target nav host graphs"
  | .hostWithParent parent => "nav host graph cannot have parent '" ++ parent.qualified ++ "'"
  | .nestedWithoutParent => "nested nav graph has no parent"
  | .unknownParent parent => "parent nav graph '" ++ parent.qualified ++ "' cannot be resolved"
  | .noStart route => "nav graph '" ++ route ++ "' has no start destination"
  | .severalStarts route marked => "nav graph '" ++ route ++ "' has multiple start destinations: " ++ ", ".intercalate marked
  | .startElsewhere destination => "start destination '" ++ destination ++ "' belongs to another graph"
  | .unknownStart destination => "start destination '" ++ destination ++ "' does not exist"
  | .startGraphElsewhere graph => "start nav graph '" ++ graph.qualified ++ "' is not nested in this graph"
  | .unknownStartGraph graph => "start nav graph '" ++ graph.qualified ++ "' does not exist"
  | .parentCycle chain again => "nav graph parent cycle: " ++ " -> ".intercalate (chain ++ [again])
  | .severalDefaults graphs => "multiple default nav host graphs: " ++ ", ".intercalate graphs
  | .defaultNotHost => "only nav host graphs can be default"
  | .repeatedDestination name earlier later =>
    "duplicate destination name '" ++ name ++ "' for '" ++ earlier ++ "' and '" ++ later ++ "'"
  | .blankRoute => "route is empty"
  | .reservedInRoute route reserved =>
    "route '" ++ route ++ "' contains reserved character '" ++ String.singleton reserved ++ "'"
  | .repeatedRoute route earlier later => "route '" ++ route ++ "' is used by both '" ++ earlier ++ "' and '" ++ later ++ "'"
  | .repeatedProperty earlier later property =>
    "nav graph routes '" ++ earlier ++ "' and '" ++ later ++ "' both become the NavGraphs property '" ++ property ++ "'"
  | .repeatedNavType earlier later simple =>
    "argument types '" ++ earlier ++ "' and '" ++ later ++ "' would both generate '" ++ simple ++ "NavType'"

/-- A fault and the declaration it is found at. -/
structure Finding where
  declaration : String
  fault : Fault

/-- The problem that a finding is. -/
def Finding.problem (finding : Finding) : Problem :=
  { kind := .validation, declaration := finding.declaration, message := finding.fault.message }

end NavGen
