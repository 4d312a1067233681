import NavGen.Model

/-!
# Graphs, children first

A graph refers to the graphs nested in it, so generated code declares the nested ones before it. The order is that of leaving the graphs on
a walk that goes from each top level graph down to its children. A graph is entered once; one that no top level graph leads to is never
entered.
-/

namespace NavGen

/-- A step of the walk: into a graph, or out of it once its children are done. -/
inductive Visit where
  | enter (graph : Graph)
  | leave (graph : Graph)

/-- The texts of a list other than one. -/
def without (texts : List String) (text : String) : List String :=
  texts.filter (· != text)

theorem length_without_lt {texts : List String} {text : String} (h : text ∈ texts) :
    (without texts text).length < texts.length :=
  List.length_filter_lt_length_iff_exists.2 ⟨text, h, by simp⟩

namespace Model

/-- The qualified names of the types of all graphs. -/
def graphNames (model : Model) : List String :=
  model.graphs.map (·.type.qualified)

/-- The graphs in the order in which the given steps leave them. `pending` holds the names of the graphs that were not entered yet. -/
def leaveOrder (model : Model) (pending : List String) : List Visit → List Graph
  | [] => []
  | .leave graph :: rest => graph :: model.leaveOrder pending rest
  | .enter graph :: rest =>
    if _h : graph.type.qualified ∈ pending then
      model.leaveOrder (without pending graph.type.qualified)
        ((model.nestedGraphsOf graph.type).map Visit.enter ++ .leave graph :: rest)
    else model.leaveOrder pending rest
termination_by visits => pending.length * (model.graphs.length + 2) + visits.length
decreasing_by
  · simp
  · have hlt := length_without_lt _h
    have hmul := Nat.mul_le_mul_right (model.graphs.length + 2) (Nat.succ_le_of_lt hlt)
    have hle : (model.nestedGraphsOf graph.type).length ≤ model.graphs.length := List.length_filter_le _ _
    rw [Nat.succ_mul] at hmul
    simp only [List.length_append, List.length_map, List.length_cons]
    omega
  · simp

/-- The graphs that top level graphs lead to, each after the graphs nested in it. -/
def graphsChildrenFirst (model : Model) : List Graph :=
  model.leaveOrder model.graphNames (model.topLevelGraphs.map Visit.enter)

end Model

end NavGen
