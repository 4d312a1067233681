import NavGen.Proofs.Check.WellFormed
import NavGen.Proofs.Pass.AssembledModel

/-!
# Starts as they are marked

What a graph starts with is said twice: the graph names it, and it is marked itself. The check of a model counts what is marked in a graph and looks
up what the graph names, each for itself, so a valid model may name something else than it marks. The two agree for a graph of a valid model exactly
if what the graph names is marked, as it is in every model that a pass assembles.
-/

namespace NavGen.Model

/-- What is marked as the start of a graph, as what a graph can start with: destinations, then nested graphs. -/
def startMarks (model : Model) (graph : Graph) : List Start :=
  ((model.destinationsOf graph.type).filter (·.isStart)).map (.destination ·.name)
    ++ ((model.nestedGraphsOf graph.type).filter (·.isParentStart)).map (.graph ·.type)

/-- Whether what a graph starts with is the one thing that is marked as its start. -/
def StartsAsMarked (model : Model) (graph : Graph) : Prop :=
  model.startMarks graph = [graph.start]

instance (model : Model) (graph : Graph) : Decidable (model.StartsAsMarked graph) :=
  inferInstanceAs (Decidable (model.startMarks graph = [graph.start]))

/-- Whether what a graph starts with is marked as a start. -/
def StartIsMarked (model : Model) (graph : Graph) : Prop :=
  match graph.start with
  | .destination name => ∃ destination ∈ model.destinations, destination.name = name ∧ destination.isStart = true
  | .graph type => ∃ child ∈ model.graphs, child.type = type ∧ child.isParentStart = true

/-! ## What is marked -/

theorem length_startMarks (model : Model) (graph : Graph) :
    (model.startMarks graph).length =
      (model.destinationsOf graph.type).countP (·.isStart) + (model.nestedGraphsOf graph.type).countP (·.isParentStart) := by
  simp only [startMarks, List.length_append, List.length_map, List.countP_eq_length_filter]

theorem destination_mem_startMarks_iff {model : Model} {graph : Graph} {name : String} :
    .destination name ∈ model.startMarks graph ↔
      ∃ destination ∈ model.destinations, destination.name = name ∧ destination.graph = graph.type ∧ destination.isStart = true := by
  simp only [startMarks, destinationsOf, List.mem_append, List.mem_map, List.mem_filter, beq_iff_eq, Start.destination.injEq, reduceCtorEq,
    and_false, exists_false, or_false]
  constructor
  · rintro ⟨destination, ⟨⟨hmem, howner⟩, hmarked⟩, hname⟩
    exact ⟨destination, hmem, hname, howner, hmarked⟩
  · rintro ⟨destination, hmem, hname, howner, hmarked⟩
    exact ⟨destination, ⟨⟨hmem, howner⟩, hmarked⟩, hname⟩

theorem graph_mem_startMarks_iff {model : Model} {graph : Graph} {type : Name} :
    .graph type ∈ model.startMarks graph ↔
      ∃ child ∈ model.graphs, child.type = type ∧ child.parent? = some graph.type ∧ child.isParentStart = true := by
  simp only [startMarks, nestedGraphsOf, List.mem_append, List.mem_map, List.mem_filter, beq_iff_eq, Start.graph.injEq, reduceCtorEq,
    and_false, exists_false, false_or]
  constructor
  · rintro ⟨child, ⟨⟨hmem, hparent⟩, hmarked⟩, htype⟩
    exact ⟨child, hmem, htype, hparent, hmarked⟩
  · rintro ⟨child, hmem, htype, hparent, hmarked⟩
    exact ⟨child, ⟨⟨hmem, hparent⟩, hmarked⟩, htype⟩

/-- What is marked as the start of a graph and is what the graph starts with is marked. -/
theorem startIsMarked_of_mem {model : Model} {graph : Graph} (h : graph.start ∈ model.startMarks graph) : model.StartIsMarked graph := by
  unfold StartIsMarked
  cases hstart : graph.start with
  | destination name =>
    rw [hstart] at h
    obtain ⟨destination, hmem, hname, -, hmarked⟩ := destination_mem_startMarks_iff.1 h
    exact ⟨destination, hmem, hname, hmarked⟩
  | graph type =>
    rw [hstart] at h
    obtain ⟨child, hmem, htype, -, hmarked⟩ := graph_mem_startMarks_iff.1 h
    exact ⟨child, hmem, htype, hmarked⟩

/-- In a well-formed model a graph starts with something of its own, so if that is marked, it is marked as the start of the graph. -/
theorem WellFormed.mem_startMarks {model : Model} (h : model.WellFormed) {graph : Graph} (hmem : graph ∈ model.graphs)
    (hmarked : model.StartIsMarked graph) : graph.start ∈ model.startMarks graph := by
  have hinside := (h.graphs graph hmem).start
  unfold StartsInside at hinside
  unfold StartIsMarked at hmarked
  cases hstart : graph.start with
  | destination name =>
    rw [hstart] at hinside hmarked
    obtain ⟨owned, hownedMem, hownedName, howner⟩ := hinside
    obtain ⟨destination, hdestinationMem, hname, hisStart⟩ := hmarked
    have hsame : destination = owned :=
      List.inj_on_of_nodup_map h.names.destinationNames hdestinationMem hownedMem (hname.trans hownedName.symm)
    exact destination_mem_startMarks_iff.2 ⟨owned, hownedMem, hownedName, howner, hsame ▸ hisStart⟩
  | graph type =>
    rw [hstart] at hinside hmarked
    obtain ⟨nested, hnestedMem, hnestedType, hparent⟩ := hinside
    obtain ⟨child, hchildMem, htype, hisStart⟩ := hmarked
    have hsame : child = nested :=
      List.inj_on_of_nodup_map (nodup_types h.graphTypes) hchildMem hnestedMem (htype.trans hnestedType.symm)
    exact graph_mem_startMarks_iff.2 ⟨nested, hnestedMem, hnestedType, hparent, hsame ▸ hisStart⟩

/-! ## Named and marked -/

/-- A graph of a valid model starts with the one thing that is marked as its start exactly if what it starts with is marked. -/
theorem startsAsMarked_iff {model : Model} (h : model.isValid = true) {graph : Graph} (hmem : graph ∈ model.graphs) :
    model.StartsAsMarked graph ↔ model.StartIsMarked graph := by
  have hwell := (isValid_iff_wellFormed model).1 h
  constructor
  · intro hmarks
    refine startIsMarked_of_mem ?_
    rw [hmarks]
    exact List.mem_singleton_self _
  · intro hmarked
    have hstart := hwell.mem_startMarks hmem hmarked
    have hone : (model.startMarks graph).length = 1 := by
      rw [length_startMarks]
      exact (hwell.graphs graph hmem).oneMarkedStart
    obtain ⟨start, hmarks⟩ := List.length_eq_one_iff.1 hone
    rw [hmarks, List.mem_singleton] at hstart
    rw [StartsAsMarked, hmarks, hstart]

/-- A host that starts with a screen. -/
def screensGraph (screen : String) : Graph :=
  { type := Name.ofQualified "app.ScreensGraph"
    route := "screens"
    start := .destination screen
    parent? := none
    isParentStart := false
    isHost := true
    isDefault := false
    startArguments := []
    sourceIds := [] }

/-- A screen of the host. -/
def screenOf (name : String) (isStart : Bool) : Destination :=
  { name := name ++ "Destination"
    target := Name.ofQualified ("app." ++ name)
    kind := .composable
    baseRoute := name
    graph := Name.ofQualified "app.ScreensGraph"
    isStart
    arguments := []
    argumentsClass? := none
    deepLinks := []
    result? := none
    sourceIds := [] }

/-- The host with two screens, of which the first is marked as its start. -/
def twoScreens (start : String) : Model :=
  { destinations := [screenOf "Home" true, screenOf "Search" false]
    graphs := [screensGraph start]
    serializers := []
    modules := [] }

/-- The host that names the screen that is marked. -/
theorem startsAsMarked_iff_twoScreens :
    (twoScreens "HomeDestination").isValid = true ∧ screensGraph "HomeDestination" ∈ (twoScreens "HomeDestination").graphs ∧
      ((twoScreens "HomeDestination").StartsAsMarked (screensGraph "HomeDestination") ↔
        (twoScreens "HomeDestination").StartIsMarked (screensGraph "HomeDestination")) := by
  have hvalid : (twoScreens "HomeDestination").isValid = true := by decide +kernel
  have hmem : screensGraph "HomeDestination" ∈ (twoScreens "HomeDestination").graphs := List.mem_singleton_self _
  exact ⟨hvalid, hmem, startsAsMarked_iff hvalid hmem⟩

/-- That the graphs of a valid model start as they are marked is false: the host may name the screen that is not marked. -/
theorem startsAsMarked_false : ¬∀ model : Model, model.isValid = true → ∀ graph ∈ model.graphs, model.StartsAsMarked graph := by
  intro h
  have hvalid : (twoScreens "SearchDestination").isValid = true := by decide +kernel
  have hmarks := h (twoScreens "SearchDestination") hvalid (screensGraph "SearchDestination") (List.mem_singleton_self _)
  exact absurd hmarks (by decide +kernel)

/-! ## Models of a pass -/

/-- What is marked in a model is what was marked when its graphs were completed. -/
theorem startMarks_eq_markedStarts (model : Model) (graph : Graph) :
    model.startMarks graph = GraphDeclarations.markedStarts (model.graphs.map Graph.declaration) model.destinations graph.type := by
  have hgraphs : (fun declaration : GraphDeclaration => declaration.parent? == some graph.type && declaration.isParentStart) ∘
      Graph.declaration = fun child => child.parent? == some graph.type && child.isParentStart := rfl
  rw [startMarks, GraphDeclarations.markedStarts, destinationsOf, nestedGraphsOf, List.filter_filter, List.filter_filter, List.filter_map,
    hgraphs, List.map_map]
  simp only [Bool.and_comm]
  rfl

/-- Every graph of a model that a pass assembles starts with the one thing that is marked as its start. -/
theorem startsAsMarked_of_assemble? {symbols : Symbols} {model : Model} (h : (Model.assemble? symbols).result = .ok (some model))
    {graph : Graph} (hmem : graph ∈ model.graphs) : model.StartsAsMarked graph := by
  obtain ⟨_, _, _, destinations, graphs, -, -, -, -, -, hgraphs, hdestinationsPerm, hgraphsPerm⟩ := Model.stages_of_assemble? h
  have hall := GraphDeclarations.completedAll_of_graphsFor hgraphs
  have hperm := GraphDeclarations.perm_markedStarts (hgraphsPerm.map Graph.declaration) hdestinationsPerm graph.type
  rw [hall.declarations, hall.starts graph (hgraphsPerm.mem_iff.1 hmem), ← startMarks_eq_markedStarts] at hperm
  exact List.perm_singleton.1 hperm

end NavGen.Model
