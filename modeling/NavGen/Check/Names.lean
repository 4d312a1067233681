import NavGen.Check.Finding
import NavGen.Model.ValueTypes

/-!
# Checking names

The names that code is generated under have to differ over the whole model: those of destinations, all routes, the properties of graphs and
the nav types. A route must also be free of the characters that arguments are written with.
-/

namespace NavGen

/-- What is wrong with a route by itself. -/
def routeFault? (route : String) : Option Fault :=
  if Text.isBlank route then some .blankRoute
  else (route.toList.find? (reservedInRoutes.contains ·)).map (.reservedInRoute route)

/-- The findings of a route of a declaration, when `earlier` holds the routes before it with their declarations, nearest first. -/
def routeFindings (earlier : List (String × String)) (route declaration : String) : List Finding :=
  ((routeFault? route).toList ++ ((earlier.lookup route).map fun other => Fault.repeatedRoute route other declaration).toList).map
    (Finding.mk declaration)

namespace Model

/-- What is found of the names and routes of destinations, after those of `earlier`, nearest first. -/
def destinationNameFindings (earlier : List Destination) : List Destination → List Finding
  | [] => []
  | destination :: rest =>
    let declaration := destination.target.qualified
    ((earlier.find? (·.name == destination.name)).map fun other =>
        Finding.mk declaration (.repeatedDestination destination.name other.target.qualified declaration)).toList
      ++ routeFindings (earlier.map fun other => (other.baseRoute, other.target.qualified)) destination.baseRoute declaration
      ++ destinationNameFindings (destination :: earlier) rest

/-- What is found of the routes and property names of graphs, after those of `earlier`, nearest first, and the routes of destinations. -/
def graphNameFindings (routes : List (String × String)) (earlier : List Graph) : List Graph → List Finding
  | [] => []
  | graph :: rest =>
    let declaration := graph.type.qualified
    routeFindings (earlier.map (fun other => (other.route, other.type.qualified)) ++ routes) graph.route declaration
      ++ ((earlier.find? (·.propertyName == graph.propertyName)).map fun other =>
        Finding.mk declaration (.repeatedProperty other.route graph.route graph.propertyName)).toList
      ++ graphNameFindings routes (graph :: earlier) rest

/-- What is found of the simple names of the types that nav types are generated for, after those of `earlier`, nearest first. -/
def navTypeNameFindings (earlier : List ValueType) : List ValueType → List Finding
  | [] => []
  | type :: rest =>
    ((earlier.find? (·.value.simple == type.value.simple)).map fun other =>
        Finding.mk type.value.qualified (.repeatedNavType other.value.qualified type.value.qualified type.value.simple)).toList
      ++ navTypeNameFindings (type :: earlier) rest

/-- What is found of the names of a model. -/
def nameFindings (model : Model) : List Finding :=
  destinationNameFindings [] model.destinations
    ++ graphNameFindings (model.destinations.reverse.map fun other => (other.baseRoute, other.target.qualified)) [] model.graphs
    ++ navTypeNameFindings [] model.valueTypes

end Model

end NavGen
