import NavGen.Check.Finding
import NavGen.Model.ChildrenFirst

/-!
# Checking how graphs hang together

Each graph is declared once, hosts stand on their own and all others have a parent in the model, parents do not run in circles, each graph
has one start-marked child and starts with something of its own, and at most one graph is the default, which is a host.
-/

namespace NavGen.Model

/-- The last graph whose type has a qualified name. -/
def graphNamed? (model : Model) (qualified : String) : Option Graph :=
  model.graphs.reverse.find? (·.type.qualified == qualified)

/-- A finding for each graph whose type a graph before it has. -/
def repeatedGraphs (seen : List String) : List Graph → List Finding
  | [] => []
  | graph :: rest =>
    (if seen.contains graph.type.qualified then [⟨graph.type.qualified, .repeatedGraph⟩] else [])
      ++ repeatedGraphs (graph.type.qualified :: seen) rest

/-- The faults of the parent of a graph. -/
def parentFaults (model : Model) (graph : Graph) : List Fault :=
  match graph.parent?, graph.isHost with
  | some parent, true => [.hostWithParent parent]
  | none, false => [.nestedWithoutParent]
  | some parent, false => if (model.graphNamed? parent.qualified).isNone then [.unknownParent parent] else []
  | none, true => []

/-- What is marked as the start of a graph: the names of destinations, then the types of nested graphs. -/
def markedStarts (model : Model) (graph : Graph) : List String :=
  ((model.destinationsOf graph.type).filter (·.isStart)).map (·.name)
    ++ ((model.nestedGraphsOf graph.type).filter (·.isParentStart)).map (·.type.qualified)

/-- The faults of what is marked as the start of a graph. -/
def markedStartFaults (model : Model) (graph : Graph) : List Fault :=
  match model.markedStarts graph with
  | [] => [.noStart graph.route]
  | [_] => []
  | marked => [.severalStarts graph.route marked]

/-- The faults of what a graph starts with. -/
def startFaults (model : Model) (graph : Graph) : List Fault :=
  match graph.start with
  | .destination name =>
    match model.destination? name with
    | some destination => if destination.graph = graph.type then [] else [.startElsewhere name]
    | none => [.unknownStart name]
  | .graph type =>
    match model.graph? type with
    | some child => if child.parent? = some graph.type then [] else [.startGraphElsewhere type]
    | none => [.unknownStartGraph type]

/-- The faults of one graph, its parents further up left aside. -/
def graphFaults (model : Model) (graph : Graph) : List Fault :=
  model.parentFaults graph
    ++ model.markedStartFaults graph
    ++ model.startFaults graph
    ++ (if !graph.startArguments.isEmpty && !graph.isHost then [.startArgumentsOfNested] else [])

/-- Follows parents from the last graph of a chain. The answer is the chain with the graph it comes back to, if it does. `pending` holds the
names of the graphs that are not on the chain. -/
def parentCycleFrom? (model : Model) (pending chain : List String) (current : Graph) : Option (List String × String) :=
  match current.parent? with
  | none => none
  | some parent =>
    if chain.contains parent.qualified then some (chain, parent.qualified)
    else
      match model.graphNamed? parent.qualified with
      | none => none
      | some next =>
        if _h : parent.qualified ∈ pending then
          model.parentCycleFrom? (without pending parent.qualified) (chain ++ [parent.qualified]) next
        else none
termination_by pending.length
decreasing_by exact length_without_lt _h

/-- The chain of parents that a graph starts, if it comes back to itself, and the graph it comes back to. -/
def parentCycle? (model : Model) (graph : Graph) : Option (List String × String) :=
  let name := graph.type.qualified
  model.parentCycleFrom? (without model.graphNames name) [name] graph

/-- A finding for each cycle of parents, at the first graph that leads to it. Chains of the same graphs count once; `reported` holds the
sorted chains that were found. -/
def parentCycles (model : Model) (reported : List (List String)) : List Graph → List Finding
  | [] => []
  | graph :: rest =>
    match model.parentCycle? graph with
    | none => model.parentCycles reported rest
    | some (chain, again) =>
      let members := sortBy textLe chain
      if reported.contains members then model.parentCycles reported rest
      else ⟨graph.type.qualified, .parentCycle chain again⟩ :: model.parentCycles (members :: reported) rest

/-- The types of the graphs marked as the default. -/
def defaultGraphs (model : Model) : List String :=
  (model.graphs.filter (·.isDefault)).map (·.type.qualified)

/-- What is found of the default graphs. -/
def defaultFindings (model : Model) : List Finding :=
  (match model.defaultGraphs with
    | first :: second :: rest => [⟨second, .severalDefaults (first :: second :: rest)⟩]
    | _ => [])
    ++ (model.graphs.filter fun graph => graph.isDefault && !graph.isHost).map fun graph =>
      ⟨graph.type.qualified, .defaultNotHost⟩

/-- What is found of the graphs of a model. -/
def graphFindings (model : Model) : List Finding :=
  repeatedGraphs [] model.graphs
    ++ model.graphs.flatMap (fun graph => (model.graphFaults graph).map (Finding.mk graph.type.qualified))
    ++ model.parentCycles [] model.graphs
    ++ model.defaultFindings

end NavGen.Model
