import NavGen.Destination
import NavGen.Graph
import NavGen.ModuleSurface

/-!
# The navigation model

All that code is generated from: the destinations, the graphs that own them, the serializers and the modules that are depended on. The
lists of a model that a pass assembles are in canonical order, so that the same declarations always give the same code.
-/

namespace NavGen

/-- The navigation of one module. -/
structure Model where
  destinations : List Destination
  graphs : List Graph
  serializers : List Serializer
  modules : List ModuleSurface

namespace Model

/-- The model with its lists in canonical order: destinations by name, graphs by route, serializers by the type they convert, modules by
package. Equals keep their order. -/
def canonical (model : Model) : Model :=
  { destinations := sortBy (fun a b => textLe a.name b.name) model.destinations
    graphs := sortBy (fun a b => textLe a.route b.route) model.graphs
    serializers := sortBy (fun a b => a.value.le b.value) model.serializers
    modules := sortBy (fun a b => textLe a.package b.package) model.modules }

/-- Whether there is nothing to navigate to. -/
def isEmpty (model : Model) : Bool :=
  model.destinations.isEmpty && model.graphs.isEmpty

/-- The first graph of a type. -/
def graph? (model : Model) (type : Name) : Option Graph :=
  model.graphs.find? (·.type == type)

/-- The first destination of a name. -/
def destination? (model : Model) (name : String) : Option Destination :=
  model.destinations.find? (·.name == name)

/-- The destinations that a graph owns. -/
def destinationsOf (model : Model) (graph : Name) : List Destination :=
  model.destinations.filter (·.graph == graph)

/-- The graphs nested directly in a graph. -/
def nestedGraphsOf (model : Model) (graph : Name) : List Graph :=
  model.graphs.filter (·.parent? == some graph)

/-- The graphs without a parent. -/
def topLevelGraphs (model : Model) : List Graph :=
  model.graphs.filter (·.parent?.isNone)

/-- The ids of the sources of all destinations and graphs, sorted, each once. -/
def allSourceIds (model : Model) : List String :=
  sortedTexts (model.destinations.flatMap (·.sourceIds) ++ model.graphs.flatMap (·.sourceIds))

end Model

end NavGen
