import NavGen.Proofs.Check.WellFormed
import NavGen.Proofs.Pass.Graphs

/-!
# Declared graphs and the check of graphs

Reading the declarations already refuses graphs that do not hang together, one by one and at the first mistake; the check of the assembled model
looks at all of them again. The two agree: of graphs that were read and completed, the check can only find that parents run in circles, which reading
does not look for.
-/

namespace NavGen

/-- Whether the simple name of a name is what its qualified name ends in. Two such names with one qualified name are the same. -/
def Name.Regular (name : Name) : Prop :=
  name = Name.ofQualified name.qualified

theorem Name.Regular.ext {name other : Name} (h : name.Regular) (h' : other.Regular) (hqualified : name.qualified = other.qualified) :
    name = other := by
  rw [h, h', hqualified]

namespace GraphDeclarations

/-! ## What is read -/

/-- What holds of graphs as declared: a graph is a host exactly if it has no parent, and only hosts are marked as the default. -/
structure Declared (graph : GraphDeclaration) : Prop where
  type : graph.type.Regular
  parent : ∀ parent, graph.parent? = some parent → parent.Regular
  host : graph.isHost = graph.parent?.isNone
  defaultHost : graph.isDefault = true → graph.isHost = true

theorem declared_host (declaration : Declaration) : Declared (GraphDeclaration.host declaration) :=
  ⟨rfl, nofun, rfl, fun _ => rfl⟩

theorem declared_root (isDefault : Bool) : Declared (GraphDeclaration.root isDefault) :=
  ⟨rfl, nofun, rfl, fun _ => rfl⟩

theorem declared_nested {defaultGraph : Name} (hdefault : defaultGraph.Regular) (declaration : Declaration) :
    Declared (GraphDeclaration.nested defaultGraph declaration) := by
  refine ⟨rfl, fun parent hparent => ?_, rfl, nofun⟩
  obtain rfl := Option.some.inj hparent
  cases (declaration.annotationOf? Library.navGraph).bind fun written => written.typeArguments.head? with
  | none => exact hdefault
  | some type => rfl

/-- What holds of all graphs that are read together: the default host is the one graph that is marked as the default, if one is. -/
structure Collected (declarations : GraphDeclarations) : Prop where
  declared : ∀ graph ∈ declarations.graphs, Declared graph
  defaults : (declarations.graphs.filter (·.isDefault)).map (·.type) = declarations.defaultHost?.toList

/-- The graph of what names none is called as declarations are. -/
theorem regular_defaultGraph {hosts : List Declaration} {declarations : GraphDeclarations}
    (h : declarations.defaultHost? = (markedDefaults hosts).head?) : declarations.defaultGraph.Regular := by
  unfold defaultGraph
  rw [h]
  cases hmarked : markedDefaults hosts with
  | nil => rfl
  | cons first rest =>
    have hfirst : first ∈ markedDefaults hosts := hmarked ▸ List.mem_cons_self
    obtain ⟨graph, hgraph, rfl⟩ := List.mem_map.1 hfirst
    obtain ⟨host, -, rfl⟩ := List.mem_map.1 (List.mem_filter.1 hgraph).1
    rfl

/-- Reading gives graphs that are declared as they have to be. -/
theorem collected_of_collect {symbols : Symbols} {declarations : GraphDeclarations}
    (h : (collect symbols).result = .ok declarations) : Collected declarations := by
  obtain ⟨hgraphs, hdefault, hlength⟩ := graphs_of_collect h
  constructor
  · intro graph hmem
    rw [hgraphs] at hmem
    rcases List.mem_append.1 hmem with hmem | hmem
    · obtain ⟨host, -, rfl⟩ := List.mem_map.1 hmem
      exact declared_host host
    · obtain ⟨nested, -, rfl⟩ := List.mem_map.1 hmem
      exact declared_nested (regular_defaultGraph hdefault) nested
  · have hnested (defaultGraph : Name) :
        ((classesWith symbols Library.navGraph).map (GraphDeclaration.nested defaultGraph)).filter (·.isDefault) = [] := by
      simp [GraphDeclaration.nested]
    rw [hgraphs, List.filter_append, hnested, List.append_nil, hdefault]
    change markedDefaults _ = _
    generalize markedDefaults (classesWith symbols Library.navHostGraph) = marked at hlength ⊢
    match marked, hlength with
    | [], _ => rfl
    | [_], _ => rfl

/-- The root graph that joins is declared like the others, and it is the default only if no host is. -/
theorem declared_of_mem_withRoot {declarations : GraphDeclarations} (h : Collected declarations) {destinations : List Destination}
    {graph : GraphDeclaration} (hmem : graph ∈ declarations.withRoot destinations) : Declared graph := by
  rw [withRoot] at hmem
  split at hmem
  · exact h.declared graph hmem
  · rcases List.mem_append.1 hmem with hmem | hmem
    · exact h.declared graph hmem
    · rw [List.mem_singleton.1 hmem]
      exact declared_root _

/-- With the root graph, too, at most one graph is marked as the default. -/
theorem countP_isDefault_withRoot {declarations : GraphDeclarations} (h : Collected declarations) (destinations : List Destination) :
    (declarations.withRoot destinations).countP (·.isDefault) ≤ 1 := by
  have hcount : declarations.graphs.countP (·.isDefault) = declarations.defaultHost?.toList.length := by
    rw [← h.defaults, List.length_map, List.countP_eq_length_filter]
  rw [withRoot]
  split
  · rw [hcount]
    cases declarations.defaultHost? <;> simp
  · rw [List.countP_append, hcount]
    cases declarations.defaultHost? <;> simp [GraphDeclaration.root]

/-! ## What is completed -/

end GraphDeclarations

/-- A graph of the model as it was declared. -/
def Graph.declaration (graph : Graph) : GraphDeclaration :=
  { type := graph.type
    route := graph.route
    parent? := graph.parent?
    isParentStart := graph.isParentStart
    isHost := graph.isHost
    isDefault := graph.isDefault
    sourceIds := graph.sourceIds }

namespace GraphDeclarations

/-- A graph starts with something exactly if that alone is marked as its start. -/
theorem startOf_eq_ok_iff {graphs : List GraphDeclaration} {destinations : List Destination} {graph : GraphDeclaration} {start : Start} :
    startOf graphs destinations graph = .ok start ↔ markedStarts graphs destinations graph.type = [start] := by
  unfold startOf
  split <;> simp_all

/-- Whether a graph was completed: it starts with what is marked as its start, and what it starts with as arguments is read for a graph of its
name. -/
structure Completed (graphs : List GraphDeclaration) (destinations : List Destination) (arguments : List (Name × Name)) (graph : Graph) :
    Prop where
  start : markedStarts graphs destinations graph.type = [graph.start]
  arguments : ∀ property ∈ graph.startArguments, ∃ type, type.qualified = graph.type.qualified ∧ (type, property) ∈ arguments

theorem exists_of_mem_startArgumentsOf {arguments : List (Name × Name)} {type property : Name}
    (h : property ∈ startArgumentsOf arguments type) : ∃ other, other.qualified = type.qualified ∧ (other, property) ∈ arguments := by
  unfold startArgumentsOf at h
  obtain ⟨entry, hentry, rfl⟩ := List.mem_map.1 ((perm_sortBy _).mem_iff.1 h)
  obtain ⟨hmem, hname⟩ := List.mem_filter.1 hentry
  exact ⟨entry.1, beq_iff_eq.1 hname, hmem⟩

/-- Completing graphs keeps what was declared of each, and completes each. -/
theorem completed_of_complete {graphs : List GraphDeclaration} {destinations : List Destination} {arguments : List (Name × Name)}
    {done : List String} {rest : List GraphDeclaration} {completed : List Graph}
    (h : complete graphs destinations arguments done rest = .ok completed) :
    completed.map Graph.declaration = rest ∧ ∀ graph ∈ completed, Completed graphs destinations arguments graph := by
  induction rest generalizing done completed with
  | nil =>
    cases h
    exact ⟨rfl, nofun⟩
  | cons graph rest ih =>
    rw [complete] at h
    obtain ⟨start, hstart, h⟩ := bind_eq_ok.1 h
    obtain ⟨others, hothers, h⟩ := bind_eq_ok.1 h
    cases h
    obtain ⟨hdeclarations, hcompleted⟩ := ih hothers
    refine ⟨by rw [List.map_cons, hdeclarations]; rfl, List.forall_mem_cons.2 ⟨⟨startOf_eq_ok_iff.1 hstart, ?_⟩, hcompleted⟩⟩
    dsimp only
    split
    · exact fun _ hproperty => absurd hproperty List.not_mem_nil
    · exact fun _ => exists_of_mem_startArgumentsOf

/-- Start arguments are declared properties, and are for a host among the graphs. -/
theorem exists_host_of_startArguments {symbols : Symbols} {graphs : List GraphDeclaration} {arguments : List (Name × Name)}
    (h : startArguments symbols graphs = .ok arguments) {type property : Name} (hmem : (type, property) ∈ arguments) :
    property.Regular ∧ ∃ graph ∈ graphs, graph.type = type ∧ graph.isHost = true := by
  obtain ⟨declaration, -, hproperty⟩ := exists_of_mem_mapM h hmem
  obtain ⟨type, htype, hentry⟩ := bind_eq_ok.1 hproperty
  cases hentry
  exact ⟨rfl, (startArgumentsGraph_eq_ok_iff.1 htype).2⟩

/-- What completing the graphs of the model takes: the parents are known, and each graph is completed with start arguments of hosts, which are
declared properties. -/
structure CompletedAll (graphs : List GraphDeclaration) (destinations : List Destination) (completed : List Graph) : Prop where
  declarations : completed.map Graph.declaration = graphs
  parents : ∀ graph ∈ graphs, ∀ parent, graph.parent? = some parent → ∃ other ∈ graphs, other.type = parent
  starts : ∀ graph ∈ completed, markedStarts graphs destinations graph.type = [graph.start]
  arguments : ∀ graph ∈ completed, ∀ property ∈ graph.startArguments, property.Regular ∧
    ∃ host ∈ graphs, host.type.qualified = graph.type.qualified ∧ host.isHost = true

theorem completedAll_of_graphsFor {declarations : GraphDeclarations} {symbols : Symbols} {destinations : List Destination}
    {graphs : List Graph} (h : declarations.graphsFor symbols destinations = .ok graphs) :
    CompletedAll (declarations.withRoot destinations) destinations graphs := by
  unfold graphsFor at h
  obtain ⟨_, hparents, h⟩ := bind_eq_ok.1 h
  obtain ⟨arguments, harguments, h⟩ := bind_eq_ok.1 h
  obtain ⟨hdeclarations, hcompleted⟩ := completed_of_complete h
  refine ⟨hdeclarations, fun graph hmem parent hparent => ?_, fun graph hmem => (hcompleted graph hmem).start,
    fun graph hmem property hproperty => ?_⟩
  · simpa [List.any_eq_true] using (checkParents_eq_ok_iff _).1 hparents graph hmem parent hparent
  · obtain ⟨type, hname, hentry⟩ := (hcompleted graph hmem).arguments property hproperty
    obtain ⟨hregular, host, hhost, htype, hisHost⟩ := exists_host_of_startArguments harguments hentry
    exact ⟨hregular, host, hhost, by rw [htype, hname], hisHost⟩

/-! ## What the check finds of completed graphs -/

section

variable {declarations : GraphDeclarations} {destinations : List Destination} {graphs : List Graph}
variable (h : CompletedAll (declarations.withRoot destinations) destinations graphs)

include h

/-- A completed graph is declared like the graph it was read as. -/
theorem declared_of_mem (hcollected : Collected declarations) {graph : Graph} (hmem : graph ∈ graphs) : Declared graph.declaration := by
  have hdeclaration : graph.declaration ∈ declarations.withRoot destinations := by
    rw [← h.declarations]
    exact List.mem_map_of_mem hmem
  exact declared_of_mem_withRoot hcollected hdeclaration

/-- Distinct types of completed graphs have distinct names. -/
theorem nodup_qualified_of_nodup_types (hcollected : Collected declarations) (htypes : (graphs.map (·.type)).Nodup) :
    (graphs.map (·.type.qualified)).Nodup := by
  have hmap : graphs.map (·.type.qualified) = (graphs.map (·.type)).map (·.qualified) := by simp
  rw [hmap, List.nodup_map_iff_inj_on htypes]
  intro type hmem type' hmem' hqualified
  obtain ⟨graph, hgraph, rfl⟩ := List.mem_map.1 hmem
  obtain ⟨graph', hgraph', rfl⟩ := List.mem_map.1 hmem'
  exact (declared_of_mem h hcollected hgraph).type.ext (declared_of_mem h hcollected hgraph').type hqualified

variable {model : Model} (hdestinations : model.destinations.Perm destinations) (hgraphs : model.graphs.Perm graphs)

include hdestinations hgraphs

/-- As many destinations and nested graphs are marked as the start of a graph in the model as there were when it was completed. -/
theorem countP_starts_eq_one {graph : Graph} (hmem : graph ∈ graphs) :
    (model.destinationsOf graph.type).countP (·.isStart) + (model.nestedGraphsOf graph.type).countP (·.isParentStart) = 1 := by
  have hlength := congrArg List.length (h.starts graph hmem)
  rw [markedStarts, ← h.declarations] at hlength
  simp only [List.length_append, List.length_map, ← List.countP_eq_length_filter, List.countP_map, List.length_singleton] at hlength
  rw [Model.destinationsOf, Model.nestedGraphsOf, List.countP_filter, List.countP_filter, hdestinations.countP_eq, hgraphs.countP_eq,
    ← hlength]
  congr 1
  · exact List.countP_congr fun destination _ => by rw [Bool.and_comm]
  · exact List.countP_congr fun graph _ => by rw [Bool.and_comm]; rfl

/-- What a graph was completed with is inside it in the model. -/
theorem startsInside_of_completed {graph : Graph} (hmem : graph ∈ graphs) : model.StartsInside graph := by
  have hstart : graph.start ∈ markedStarts (declarations.withRoot destinations) destinations graph.type := by
    rw [h.starts graph hmem]
    exact List.mem_singleton_self _
  rw [markedStarts, ← h.declarations] at hstart
  unfold Model.StartsInside
  rcases List.mem_append.1 hstart with hstart | hstart
  · obtain ⟨destination, hdestination, heq⟩ := List.mem_map.1 hstart
    obtain ⟨hdestinationMem, hmarked⟩ := List.mem_filter.1 hdestination
    rw [← heq]
    exact ⟨destination, hdestinations.mem_iff.2 hdestinationMem, rfl, by simp_all⟩
  · obtain ⟨declaration, hdeclaration, heq⟩ := List.mem_map.1 hstart
    obtain ⟨hdeclarationMem, hmarked⟩ := List.mem_filter.1 hdeclaration
    obtain ⟨child, hchild, rfl⟩ := List.mem_map.1 hdeclarationMem
    rw [← heq]
    exact ⟨child, hgraphs.mem_iff.2 hchild, rfl, by simp_all [Graph.declaration]⟩

/-- A completed graph is well formed on its own in the model. -/
theorem wellFormedGraph_of_completed (hcollected : Collected declarations) (hnames : (graphs.map (·.type.qualified)).Nodup)
    {graph : Graph} (hmem : graph ∈ graphs) : model.WellFormedGraph graph := by
  have hdeclared := declared_of_mem h hcollected hmem
  have hhost : graph.isHost = graph.parent?.isNone := hdeclared.host
  refine ⟨fun hisHost => ?_, fun hnested => ?_, countP_starts_eq_one h hdestinations hgraphs hmem,
    startsInside_of_completed h hdestinations hgraphs hmem, fun harguments => ?_⟩
  · rwa [hhost, Option.isNone_iff_eq_none] at hisHost
  · rw [hhost, Option.isNone_eq_false_iff, Option.isSome_iff_exists] at hnested
    obtain ⟨parent, hparent⟩ := hnested
    have hmemDeclaration : graph.declaration ∈ declarations.withRoot destinations := h.declarations ▸ List.mem_map_of_mem hmem
    obtain ⟨other, hother, hotherType⟩ := h.parents _ hmemDeclaration parent hparent
    rw [← h.declarations] at hother
    obtain ⟨otherGraph, hotherGraph, rfl⟩ := List.mem_map.1 hother
    exact ⟨parent, hparent, hotherType ▸ List.mem_map_of_mem (hgraphs.mem_iff.2 hotherGraph)⟩
  · obtain ⟨property, hproperty⟩ := List.exists_mem_of_ne_nil _ harguments
    obtain ⟨-, host, hhostMem, hname, hisHost⟩ := h.arguments graph hmem property hproperty
    rw [← h.declarations] at hhostMem
    obtain ⟨hostGraph, hhostGraph, rfl⟩ := List.mem_map.1 hhostMem
    have heq : hostGraph = graph := List.inj_on_of_nodup_map hnames hhostGraph hmem hname
    rw [← heq]
    exact hisHost

end

/-- The check of an assembled model finds nothing of its graphs but cycles of parents. -/
theorem graphFindings_eq_parentCycles {declarations : GraphDeclarations} {destinations : List Destination} {graphs : List Graph}
    (hcollected : Collected declarations) (h : CompletedAll (declarations.withRoot destinations) destinations graphs)
    {model : Model} (hdestinations : model.destinations.Perm destinations) (hgraphs : model.graphs.Perm graphs)
    (hdestinationNames : (destinations.map (·.name)).Nodup) (htypes : (graphs.map (·.type)).Nodup) :
    model.graphFindings = model.parentCycles [] model.graphs := by
  have hnames := nodup_qualified_of_nodup_types h hcollected htypes
  have hgraphNames : model.graphNames.Nodup := (hgraphs.map _).nodup_iff.2 hnames
  have hrepeated : Model.repeatedGraphs [] model.graphs = [] :=
    (Model.repeatedGraphs_eq_nil_iff [] model.graphs).2 (freshAfter_nil_iff.2 hgraphNames)
  have hfaults : model.graphs.flatMap (fun graph => (model.graphFaults graph).map (Finding.mk graph.type.qualified)) = [] := by
    simp only [List.flatMap_eq_nil_iff, List.map_eq_nil_iff,
      Model.graphFaults_eq_nil_iff ((hdestinations.map _).nodup_iff.2 hdestinationNames) hgraphNames]
    exact fun graph hmem =>
      wellFormedGraph_of_completed h hdestinations hgraphs hcollected hnames (hgraphs.mem_iff.1 hmem)
  have hdefaults : model.defaultFindings = [] := by
    refine (Model.defaultFindings_eq_nil_iff model).2 ⟨?_, fun graph hmem => ?_⟩
    · have hcount := countP_isDefault_withRoot hcollected destinations
      rw [← h.declarations, List.countP_map] at hcount
      rw [hgraphs.countP_eq]
      exact hcount
    · exact (declared_of_mem h hcollected (hgraphs.mem_iff.1 hmem)).defaultHost
  rw [Model.graphFindings, hrepeated, hfaults, hdefaults, List.nil_append, List.nil_append, List.append_nil]

end GraphDeclarations

/-- All that is found when parents are followed is that they run in circles. -/
theorem Model.fault_of_mem_parentCycles {model : Model} {reported : List (List String)} {graphs : List Graph} {finding : Finding}
    (hmem : finding ∈ model.parentCycles reported graphs) : ∃ chain again, finding.fault = .parentCycle chain again := by
  induction graphs generalizing reported with
  | nil => contradiction
  | cons graph rest ih =>
    rw [parentCycles] at hmem
    split at hmem
    · exact ih hmem
    · dsimp only at hmem
      split at hmem
      · exact ih hmem
      · rcases List.mem_cons.1 hmem with rfl | hmem
        · exact ⟨_, _, rfl⟩
        · exact ih hmem

namespace GraphDeclarations

/-- Whatever graphs are read and completed, with distinct types and for destinations with distinct names, the check of the model that they are
assembled into finds nothing of its graphs but that parents run in circles. -/
theorem parentCycle_of_mem_graphFindings {symbols : Symbols} {declarations : GraphDeclarations}
    (hcollect : (collect symbols).result = .ok declarations) {destinations : List Destination}
    (hnames : (destinations.map (·.name)).Nodup) {graphs : List Graph}
    (hgraphs : declarations.graphsFor symbols destinations = .ok graphs) (htypes : (graphs.map (·.type)).Nodup)
    (serializers : List Serializer) (modules : List ModuleSurface) :
    ∀ finding ∈ (Model.canonical { destinations, graphs, serializers, modules }).graphFindings,
      ∃ chain again, finding.fault = .parentCycle chain again := by
  intro finding hmem
  rw [graphFindings_eq_parentCycles (collected_of_collect hcollect) (completedAll_of_graphsFor hgraphs) (perm_sortBy destinations)
    (perm_sortBy graphs) hnames htypes] at hmem
  exact Model.fault_of_mem_parentCycles hmem

/-- A nested graph that is what its parent starts with. -/
def loopGraph (qualified parent : String) : Declaration :=
  { qualified
    kind := .annotationClass
    annotations := [{ type := Library.navGraph, typeArguments := [.plain parent], arguments := [("start", .bool true)] }] }

/-- Two graphs that are nested in each other, and one that falls back to the root graph. -/
def loopTable : SymbolTable :=
  { declarations := [
      loopGraph "app.EvenGraph" "app.OddGraph",
      loopGraph "app.OddGraph" "app.EvenGraph",
      { qualified := "app.SettingsGraph", kind := .annotationClass, annotations := [.plain Library.navGraph] }] }

/-- A screen that a graph starts with. -/
def startScreen (name graph : String) : Destination :=
  { name
    target := Name.ofQualified ("app." ++ name)
    kind := .composable
    baseRoute := name
    graph := Name.ofQualified graph
    isStart := true
    arguments := []
    argumentsClass? := none
    deepLinks := []
    result? := none
    sourceIds := [] }

/-- The graphs of the table as they are read. -/
def loopDeclarations : GraphDeclarations :=
  { graphs := loopTable.declarations.map (GraphDeclaration.nested GraphDeclaration.rootType), defaultHost? := none }

/-- A screen for each graph that is not in the circle. -/
def loopScreens : List Destination :=
  [startScreen "SettingsDestination" "app.SettingsGraph", startScreen "HomeDestination" Library.rootNavGraph]

/-- The graphs that are nested in each other can be read and completed, and the one thing found of them is that they are. -/
theorem parentCycle_of_mem_graphFindings_loopTable :
    (collect loopTable.symbols).result = .ok loopDeclarations ∧ (loopScreens.map (·.name)).Nodup ∧
      ∃ graphs, loopDeclarations.graphsFor loopTable.symbols loopScreens = .ok graphs ∧ (graphs.map (·.type)).Nodup ∧
        (Model.canonical { destinations := loopScreens, graphs, serializers := [], modules := [] }).graphFindings.length = 1 ∧
          ∀ finding ∈ (Model.canonical { destinations := loopScreens, graphs, serializers := [], modules := [] }).graphFindings,
            ∃ chain again, finding.fault = .parentCycle chain again := by
  have hcollect : (collect loopTable.symbols).result = .ok loopDeclarations := rfl
  have hnames : (loopScreens.map (·.name)).Nodup := by decide +kernel
  have hfacts : (loopDeclarations.graphsFor loopTable.symbols loopScreens).toOption.any (fun graphs =>
      decide ((graphs.map (·.type)).Nodup ∧
        (Model.canonical { destinations := loopScreens, graphs, serializers := [], modules := [] }).graphFindings.length = 1)) =
        true := by decide +kernel
  cases hgraphs : loopDeclarations.graphsFor loopTable.symbols loopScreens with
  | error error =>
    rw [hgraphs] at hfacts
    contradiction
  | ok graphs =>
    rw [hgraphs] at hfacts
    obtain ⟨htypes, hlength⟩ := of_decide_eq_true hfacts
    exact ⟨hcollect, hnames, graphs, rfl, htypes, hlength, parentCycle_of_mem_graphFindings hcollect hnames hgraphs htypes [] []⟩

end GraphDeclarations

end NavGen
