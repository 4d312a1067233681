import NavGen.Name
import NavGen.Text.Words

/-!
# Navigation graphs

A graph is a named collection of destinations and nested graphs, one of which it starts with. Host graphs stand on their own, every other
graph is nested in a parent.
-/

namespace NavGen

/-- What a graph starts with. -/
inductive Start where
  /-- A destination, by the name of its generated object. -/
  | destination (name : String)
  /-- A nested graph, by its type. -/
  | graph (type : Name)
  deriving DecidableEq

/-- A navigation graph. -/
structure Graph where
  /-- The annotation class that declares the graph. -/
  type : Name
  route : String
  start : Start
  parent? : Option Name
  /-- Whether its parent starts with it. -/
  isParentStart : Bool
  isHost : Bool
  isDefault : Bool
  /-- The properties that hold the arguments a host starts with. -/
  startArguments : List Name
  sourceIds : List String
  deriving DecidableEq

/-- The name of a graph as a property of the generated object that lists the graphs. -/
def Graph.propertyName (graph : Graph) : String :=
  Text.camel graph.route

/-- The route of a graph that declares none: the simple name of its annotation class without a final `NavGraph` or `Graph`, unless
nothing is left, in lower case words. -/
def defaultGraphRoute (simple : String) : String :=
  let stem := (Text.beforeEnding "NavGraph" simple).or (Text.beforeEnding "Graph" simple)
  Text.snake ((stem.filter (!·.isEmpty)).getD simple)

end NavGen
