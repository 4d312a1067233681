import NavGen.Proofs.Pass.DeclaredGraphs

/-!
# Completed graphs

The graphs of a model are the declared hosts, the declared nested graphs and, if something refers to it, the root graph. They can be completed
exactly if each parent is one of them, each property that holds start arguments names a host among them, and one thing alone is marked as the start
of each. All of this is said of the table and the destinations; that the root graph joins before any of it is looked at is what the proofs have to
take along.
-/

namespace NavGen

/-! ## What a table declares -/

/-- The declarations of a kind that carry an annotation, in the order of the table. -/
def SymbolTable.declaredAs (table : SymbolTable) (kind : DeclarationKind) (marker : String) : List Declaration :=
  table.declarations.filter fun declaration => declaration.kind = kind && declaration.annotations.any (·.type == marker)

/-- The host graphs of a table. -/
def SymbolTable.hostClasses (table : SymbolTable) : List Declaration :=
  table.declaredAs .annotationClass Library.navHostGraph

/-- The nested graphs of a table. -/
def SymbolTable.nestedClasses (table : SymbolTable) : List Declaration :=
  table.declaredAs .annotationClass Library.navGraph

/-- The classes of a table that declare graphs, hosts first. -/
def SymbolTable.graphClasses (table : SymbolTable) : List Declaration :=
  table.hostClasses ++ table.nestedClasses

/-- The properties of a table that hold start arguments. -/
def SymbolTable.startProperties (table : SymbolTable) : List Declaration :=
  table.declaredAs .property Library.navHostDefaultStartArgs

/-- The parent of a nested graph: the one that it names, or else the graph to fall back to. -/
def Declaration.parentGraph (declaration : Declaration) (fallback : Name) : Name :=
  (declaration.graphNamedBy? Library.navGraph).getD fallback

@[simp] theorem GraphDeclaration.type_nested (fallback : Name) (declaration : Declaration) :
    (nested fallback declaration).type = declaration.name :=
  rfl

@[simp] theorem GraphDeclaration.parent?_host (declaration : Declaration) : (host declaration).parent? = none :=
  rfl

@[simp] theorem GraphDeclaration.parent?_nested (fallback : Name) (declaration : Declaration) :
    (nested fallback declaration).parent? = some (declaration.parentGraph fallback) :=
  rfl

theorem SymbolTable.filter_kind_annotatedWith (table : SymbolTable) (kind : DeclarationKind) (marker : String) :
    (table.symbols.annotatedWith marker).filter (·.kind = kind) = table.declaredAs kind marker := by
  rw [annotatedWith_symbols, annotatedWith, List.filter_filter]
  rfl

theorem SymbolTable.mem_of_mem_declaredAs {table : SymbolTable} {kind : DeclarationKind} {marker : String} {declaration : Declaration}
    (h : declaration ∈ table.declaredAs kind marker) : declaration ∈ table.declarations :=
  (List.mem_filter.1 h).1

namespace GraphDeclarations

theorem classesWith_navHostGraph (table : SymbolTable) : classesWith table.symbols Library.navHostGraph = table.hostClasses :=
  table.filter_kind_annotatedWith _ _

theorem classesWith_navGraph (table : SymbolTable) : classesWith table.symbols Library.navGraph = table.nestedClasses :=
  table.filter_kind_annotatedWith _ _

/-! ## The graphs that are completed -/

section

variable (table : SymbolTable) (declarations : GraphDeclarations) (destinations : List Destination)

/-- Whether a destination or a nested graph is in a graph. -/
def IsReferredTo (type : Name) : Prop :=
  (∃ destination ∈ destinations, destination.graph = type) ∨
    ∃ nested ∈ table.nestedClasses, nested.parentGraph declarations.defaultGraph = type

instance (type : Name) : Decidable (IsReferredTo table declarations destinations type) :=
  inferInstanceAs (Decidable (_ ∨ _))

/-- Whether the root graph joins the declared graphs: it is none of them, and something is in it. -/
def RootJoins : Prop :=
  (∀ declared ∈ table.graphClasses, declared.name ≠ GraphDeclaration.rootType) ∧
    IsReferredTo table declarations destinations GraphDeclaration.rootType

instance : Decidable (RootJoins table declarations destinations) :=
  inferInstanceAs (Decidable (_ ∧ _))

/-- The graphs of the model, before they are completed. -/
def modelGraphs : List GraphDeclaration :=
  table.hostClasses.map GraphDeclaration.host
    ++ table.nestedClasses.map (GraphDeclaration.nested declarations.defaultGraph)
    ++ if RootJoins table declarations destinations then [GraphDeclaration.root declarations.defaultHost?.isNone] else []

/-- How many destinations and nested graphs are marked as the start of a graph. -/
def startCount (type : Name) : Nat :=
  destinations.countP (fun destination => destination.graph = type ∧ destination.isStart)
    + (modelGraphs table declarations destinations).countP fun graph => graph.parent? = some type ∧ graph.isParentStart

/-- What the graphs have to be like to be completed. -/
structure Completable : Prop where
  parents : ∀ nested ∈ table.nestedClasses,
    (∃ declared ∈ table.graphClasses, declared.name = nested.parentGraph declarations.defaultGraph) ∨
      nested.parentGraph declarations.defaultGraph = GraphDeclaration.rootType
  arguments : ∀ property ∈ table.startProperties, ∃ graph ∈ modelGraphs table declarations destinations,
    graph.isHost = true ∧ property.graphNamedBy? Library.navHostDefaultStartArgs = some graph.type
  starts : ∀ graph ∈ modelGraphs table declarations destinations, startCount table declarations destinations graph.type = 1

end

/-- What is marked as the start of a graph. -/
inductive IsMarkedStart (graphs : List Graph) (destinations : List Destination) (type : Name) : Start → Prop where
  | destination {destination : Destination} (mem : destination ∈ destinations) (inside : destination.graph = type)
      (marked : destination.isStart = true) : IsMarkedStart graphs destinations type (.destination destination.name)
  | graph {child : Graph} (mem : child ∈ graphs) (inside : child.parent? = some type) (marked : child.isParentStart = true) :
      IsMarkedStart graphs destinations type (.graph child.type)

/-- What the completed graphs are: those of the model in their order, each with the one thing that is marked as its start and with the properties
that name it, sorted; one of them at most is the default, and the default graph is one of them if it is needed. -/
structure CompletedFrom (table : SymbolTable) (declarations : GraphDeclarations) (destinations : List Destination) (graphs : List Graph) :
    Prop where
  declared : graphs.map Graph.declaration = modelGraphs table declarations destinations
  starts : ∀ graph ∈ graphs, ∀ start, IsMarkedStart graphs destinations graph.type start ↔ start = graph.start
  oneDefault : graphs.countP (·.isDefault) ≤ 1
  arguments : ∀ graph ∈ graphs, graph.startArguments.Perm
    ((table.startProperties.filter (·.graphNamedBy? Library.navHostDefaultStartArgs = some graph.type)).map (·.name))
  sortedArguments : ∀ graph ∈ graphs, graph.startArguments.Pairwise (·.le ·)
  placedArguments : ∀ property ∈ table.startProperties, ∃ host ∈ graphs, host.isHost = true ∧
    property.graphNamedBy? Library.navHostDefaultStartArgs = some host.type ∧
      ∀ graph ∈ graphs, property.name ∈ graph.startArguments ↔ graph = host
  defaultGraph : (∃ destination ∈ destinations, destination.graph = declarations.defaultGraph) ∨
    (∃ nested ∈ table.nestedClasses, nested.graphNamedBy? Library.navGraph = none) →
      ∃ graph ∈ graphs, graph.type = declarations.defaultGraph

section

variable {table : SymbolTable} {declarations : GraphDeclarations} {destinations : List Destination}

theorem mem_modelGraphs_iff {graph : GraphDeclaration} : graph ∈ modelGraphs table declarations destinations ↔
    (∃ host ∈ table.hostClasses, GraphDeclaration.host host = graph) ∨
      (∃ nested ∈ table.nestedClasses, GraphDeclaration.nested declarations.defaultGraph nested = graph) ∨
        RootJoins table declarations destinations ∧ graph = GraphDeclaration.root declarations.defaultHost?.isNone := by
  unfold modelGraphs
  by_cases hroot : RootJoins table declarations destinations
  · simp [hroot]
  · simp [hroot]

/-- A type is that of a graph of the model exactly if it is declared or the root graph joins as it. -/
theorem exists_modelGraph_iff {type : Name} : (∃ graph ∈ modelGraphs table declarations destinations, graph.type = type) ↔
    (∃ declared ∈ table.graphClasses, declared.name = type) ∨
      RootJoins table declarations destinations ∧ type = GraphDeclaration.rootType := by
  constructor
  · rintro ⟨graph, hmem, rfl⟩
    rcases mem_modelGraphs_iff.1 hmem with ⟨host, hhost, rfl⟩ | ⟨nested, hnested, rfl⟩ | ⟨hroot, rfl⟩
    · exact .inl ⟨host, List.mem_append_left _ hhost, rfl⟩
    · exact .inl ⟨nested, List.mem_append_right _ hnested, rfl⟩
    · exact .inr ⟨hroot, rfl⟩
  · rintro (⟨declared, hmem, rfl⟩ | ⟨hroot, rfl⟩)
    · rcases List.mem_append.1 hmem with hmem | hmem
      · exact ⟨_, mem_modelGraphs_iff.2 (.inl ⟨declared, hmem, rfl⟩), rfl⟩
      · exact ⟨_, mem_modelGraphs_iff.2 (.inr (.inl ⟨declared, hmem, rfl⟩)), rfl⟩
    · exact ⟨_, mem_modelGraphs_iff.2 (.inr (.inr ⟨hroot, rfl⟩)), rfl⟩

/-- Where something is in the root graph, it is one of the graphs of the model. -/
theorem exists_root (h : IsReferredTo table declarations destinations GraphDeclaration.rootType) :
    ∃ graph ∈ modelGraphs table declarations destinations, graph.type = GraphDeclaration.rootType := by
  by_cases hdeclared : ∃ declared ∈ table.graphClasses, declared.name = GraphDeclaration.rootType
  · exact exists_modelGraph_iff.2 (.inl hdeclared)
  · simp only [not_exists, not_and] at hdeclared
    exact exists_modelGraph_iff.2 (.inr ⟨⟨hdeclared, h⟩, rfl⟩)

variable (hcollect : (collect table.symbols).result = .ok declarations)

include hcollect

/-- The graphs that are read of a table are its hosts and its nested graphs. -/
theorem graphs_eq_of_collect : declarations.graphs =
    table.hostClasses.map GraphDeclaration.host ++ table.nestedClasses.map (GraphDeclaration.nested declarations.defaultGraph) := by
  rw [(graphs_of_collect hcollect).1, classesWith_navHostGraph, classesWith_navGraph]

theorem declares_eq_true_iff (type : Name) : declarations.declares type = true ↔
    ∃ declared ∈ table.graphClasses, declared.name = type := by
  rw [declares, graphs_eq_of_collect hcollect, List.any_eq_true]
  simp [SymbolTable.graphClasses, or_and_right, exists_or]

theorem refersTo_eq_true_iff (type : Name) : declarations.refersTo destinations type = true ↔
    IsReferredTo table declarations destinations type := by
  rw [refersTo, graphs_eq_of_collect hcollect, Bool.or_eq_true, List.any_eq_true, List.any_eq_true]
  simp [IsReferredTo, or_and_right, exists_or]

/-- The graphs that are completed are those of the model. -/
theorem withRoot_eq : declarations.withRoot destinations = modelGraphs table declarations destinations := by
  have hiff : RootJoins table declarations destinations ↔
      ¬(declarations.declares GraphDeclaration.rootType || !declarations.refersTo destinations GraphDeclaration.rootType) = true := by
    rw [Bool.or_eq_true, not_or, Bool.not_eq_true', Bool.not_eq_false, declares_eq_true_iff hcollect, refersTo_eq_true_iff hcollect, not_exists]
    simp only [RootJoins, not_and]
  rw [withRoot, modelGraphs, ← graphs_eq_of_collect hcollect]
  by_cases hroot : RootJoins table declarations destinations
  · rw [if_neg (hiff.1 hroot), if_pos hroot]
  · rw [if_pos (by_contra fun h => hroot (hiff.2 h)), if_neg hroot, List.append_nil]

/-- The graphs of the model have distinct names. -/
theorem nodup_modelGraphs (hnames : (table.declarations.map (·.qualified)).Nodup) :
    ((modelGraphs table declarations destinations).map (·.type.qualified)).Nodup := by
  have hsame : table.Reorders table := ⟨.refl _, hnames⟩
  obtain ⟨other, hother, hreorders⟩ := hsame.endAlike_collect.exists_ok_right hcollect
  rw [← withRoot_eq hcollect]
  exact hreorders.nodup_withRoot

end

/-! ## When graphs are completed -/

section

variable {table : SymbolTable} {declarations : GraphDeclarations} {destinations : List Destination}

/-- The start arguments can be read exactly if each property that holds some names a host. -/
theorem exists_startArguments_iff {graphs : List GraphDeclaration} :
    (∃ arguments, startArguments table.symbols graphs = .ok arguments) ↔
      ∀ property ∈ table.startProperties, ∃ graph ∈ graphs,
        graph.isHost = true ∧ property.graphNamedBy? Library.navHostDefaultStartArgs = some graph.type := by
  have hproperties := table.filter_kind_annotatedWith .property Library.navHostDefaultStartArgs
  rw [startArguments, hproperties, exists_mapM_eq_ok_iff]
  refine forall₂_congr fun property _ => ?_
  constructor
  · rintro ⟨entry, hentry⟩
    obtain ⟨type, htype, -⟩ := bind_eq_ok.1 hentry
    obtain ⟨hname, graph, hgraph, rfl, hhost⟩ := startArgumentsGraph_eq_ok_iff.1 htype
    exact ⟨graph, hgraph, hhost, hname⟩
  · rintro ⟨graph, hgraph, hhost, hname⟩
    exact ⟨_, bind_eq_ok.2 ⟨graph.type, startArgumentsGraph_eq_ok_iff.2 ⟨hname, graph, hgraph, rfl, hhost⟩, rfl⟩⟩

/-- The parents of the graphs of the model are known exactly if each nested graph has a declared parent or is nested in the root graph. -/
theorem checkParents_modelGraphs_eq_ok_iff : checkParents (modelGraphs table declarations destinations) = .ok () ↔
    ∀ nested ∈ table.nestedClasses,
      (∃ declared ∈ table.graphClasses, declared.name = nested.parentGraph declarations.defaultGraph) ∨
        nested.parentGraph declarations.defaultGraph = GraphDeclaration.rootType := by
  rw [checkParents_eq_ok_iff]
  simp only [List.any_eq_true, beq_iff_eq]
  constructor
  · intro h nested hnested
    have hparent := h _ (mem_modelGraphs_iff.2 (.inr (.inl ⟨nested, hnested, rfl⟩))) _ rfl
    exact (exists_modelGraph_iff.1 hparent).imp_right And.right
  · intro h graph hmem parent hparent
    rcases mem_modelGraphs_iff.1 hmem with ⟨host, -, rfl⟩ | ⟨nested, hnested, rfl⟩ | ⟨-, rfl⟩
    · contradiction
    · rw [GraphDeclaration.parent?_nested] at hparent
      obtain rfl := Option.some.inj hparent
      rcases h nested hnested with hdeclared | hroot
      · exact exists_modelGraph_iff.2 (.inl hdeclared)
      · rw [hroot]
        exact exists_root (.inr ⟨nested, hnested, hroot⟩)
    · contradiction

theorem length_markedStarts (type : Name) :
    (markedStarts (modelGraphs table declarations destinations) destinations type).length = startCount table declarations destinations type := by
  unfold markedStarts startCount
  rw [List.length_append, List.length_map, List.length_map, ← List.countP_eq_length_filter, ← List.countP_eq_length_filter]
  refine congrArg₂ (· + ·) (List.countP_congr fun destination _ => ?_) (List.countP_congr fun graph _ => ?_)
  · simp
  · simp

/-- A graph can be completed exactly if one thing alone is marked as its start. -/
theorem exists_completed_iff {arguments : List (Name × Name)} {graph : GraphDeclaration} :
    (∃ value, completed (modelGraphs table declarations destinations) destinations arguments graph = .ok value) ↔
      startCount table declarations destinations graph.type = 1 := by
  rw [← length_markedStarts, List.length_eq_one_iff]
  constructor
  · rintro ⟨value, hvalue⟩
    obtain ⟨start, hstart, -⟩ := bind_eq_ok.1 hvalue
    exact ⟨start, startOf_eq_ok_iff.1 hstart⟩
  · rintro ⟨start, hstart⟩
    exact ⟨_, bind_eq_ok.2 ⟨start, startOf_eq_ok_iff.2 hstart, rfl⟩⟩

variable (hnames : (table.declarations.map (·.qualified)).Nodup) (hcollect : (collect table.symbols).result = .ok declarations)

include hnames hcollect

/-- Completing graphs is to complete each graph of the model, once the parents are known and the start arguments are read. -/
theorem graphsFor_eq_ok_iff {graphs : List Graph} : declarations.graphsFor table.symbols destinations = .ok graphs ↔
    checkParents (modelGraphs table declarations destinations) = .ok () ∧
      ∃ arguments, startArguments table.symbols (modelGraphs table declarations destinations) = .ok arguments ∧
        (modelGraphs table declarations destinations).mapM
          (completed (modelGraphs table declarations destinations) destinations arguments) = .ok graphs := by
  have hfresh : FreshAfter [] ((modelGraphs table declarations destinations).map (·.type.qualified)) :=
    freshAfter_nil_iff.2 (nodup_modelGraphs hcollect hnames)
  unfold graphsFor
  rw [withRoot_eq hcollect]
  simp only [bind_eq_ok, complete_eq_mapM _ hfresh]
  constructor
  · rintro ⟨_, hparents, hgraphs⟩
    exact ⟨hparents, hgraphs⟩
  · rintro ⟨hparents, hgraphs⟩
    exact ⟨(), hparents, hgraphs⟩

/-- Graphs are completed exactly if the table and the destinations allow it. -/
theorem exists_graphsFor_iff : (∃ graphs, declarations.graphsFor table.symbols destinations = .ok graphs) ↔
    Completable table declarations destinations := by
  simp only [graphsFor_eq_ok_iff hnames hcollect]
  constructor
  · rintro ⟨graphs, hparents, arguments, harguments, hgraphs⟩
    refine ⟨checkParents_modelGraphs_eq_ok_iff.1 hparents, exists_startArguments_iff.1 ⟨arguments, harguments⟩, ?_⟩
    intro graph hmem
    exact exists_completed_iff.1 (exists_mapM_eq_ok_iff.1 ⟨graphs, hgraphs⟩ graph hmem)
  · rintro ⟨hparents, harguments, hstarts⟩
    obtain ⟨arguments, harguments⟩ := exists_startArguments_iff.2 harguments
    have hcompleted : ∀ graph ∈ modelGraphs table declarations destinations,
        ∃ value, completed (modelGraphs table declarations destinations) destinations arguments graph = .ok value :=
      fun graph hmem => exists_completed_iff.2 (hstarts graph hmem)
    obtain ⟨graphs, hgraphs⟩ := exists_mapM_eq_ok_iff.2 hcompleted
    exact ⟨graphs, checkParents_modelGraphs_eq_ok_iff.2 hparents, arguments, harguments, hgraphs⟩

end

/-! ## What completed graphs are -/

/-- The graph that a declaration names is called as declarations are. -/
theorem regular_of_graphNamedBy? {declaration : Declaration} {marker : String} {type : Name}
    (h : declaration.graphNamedBy? marker = some type) : type.Regular := by
  obtain ⟨named, -, rfl⟩ := Option.map_eq_some_iff.1 h
  rfl

/-- Of the start arguments that are read, those of a graph are the properties that name it. -/
theorem map_filter_startArguments {graphs : List GraphDeclaration} {properties : List Declaration} {arguments : List (Name × Name)}
    (h : properties.mapM (fun property => do return (← startArgumentsGraph graphs property, property.name)) = .ok arguments)
    {type : Name} (htype : type.Regular) : (arguments.filter (·.1.qualified == type.qualified)).map (·.2) =
      (properties.filter (·.graphNamedBy? Library.navHostDefaultStartArgs = some type)).map (·.name) := by
  induction properties generalizing arguments with
  | nil =>
    cases h
    rfl
  | cons property rest ih =>
    obtain ⟨entry, others, hentry, hothers, rfl⟩ := mapM_cons_eq_ok.1 h
    obtain ⟨named, hnamed, hpair⟩ := bind_eq_ok.1 hentry
    cases hpair
    have hname := (startArgumentsGraph_eq_ok_iff.1 hnamed).1
    have hsame : named.qualified = type.qualified ↔ named = type :=
      ⟨(regular_of_graphNamedBy? hname).ext htype, congrArg _⟩
    rw [List.filter_cons, List.filter_cons, hname]
    by_cases heq : named = type
    · simp [heq, ih hothers]
    · simp [hsame, heq, ih hothers]

theorem isMarkedStart_iff {graphs : List Graph} {destinations : List Destination} {type : Name} {start : Start} :
    IsMarkedStart graphs destinations type start ↔ start ∈ markedStarts (graphs.map Graph.declaration) destinations type := by
  unfold markedStarts
  rw [List.mem_append, List.mem_map, List.mem_map]
  constructor
  · rintro (⟨hmem, hinside, hmarked⟩ | ⟨hmem, hinside, hmarked⟩)
    · exact .inl ⟨_, List.mem_filter.2 ⟨hmem, by simp [hinside, hmarked]⟩, rfl⟩
    · exact .inr ⟨_, List.mem_filter.2 ⟨List.mem_map_of_mem hmem, by simp [Graph.declaration, hinside, hmarked]⟩, rfl⟩
  · rintro (⟨destination, hdestination, rfl⟩ | ⟨declaration, hdeclaration, rfl⟩)
    · obtain ⟨hmem, hmarked⟩ := List.mem_filter.1 hdestination
      rw [Bool.and_eq_true, beq_iff_eq] at hmarked
      exact .destination hmem hmarked.1 hmarked.2
    · obtain ⟨hmem, hmarked⟩ := List.mem_filter.1 hdeclaration
      rw [Bool.and_eq_true, beq_iff_eq] at hmarked
      obtain ⟨child, hchild, rfl⟩ := List.mem_map.1 hmem
      exact .graph hchild hmarked.1 hmarked.2

section

variable {table : SymbolTable} {declarations : GraphDeclarations} {destinations : List Destination} {graphs : List Graph}
variable (hnames : (table.declarations.map (·.qualified)).Nodup) (hcollect : (collect table.symbols).result = .ok declarations)

include hcollect

/-- The default graph is one of the graphs of the model if something belongs to it. -/
theorem exists_defaultGraph (h : (∃ destination ∈ destinations, destination.graph = declarations.defaultGraph) ∨
      ∃ nested ∈ table.nestedClasses, nested.graphNamedBy? Library.navGraph = none) :
    ∃ graph ∈ modelGraphs table declarations destinations, graph.type = declarations.defaultGraph := by
  have hdefaultHost := (graphs_of_collect hcollect).2.1
  rw [classesWith_navHostGraph] at hdefaultHost
  cases hdefault : declarations.defaultHost? with
  | some type =>
    rw [hdefault] at hdefaultHost
    have hmem : type ∈ markedDefaults table.hostClasses := List.mem_of_mem_head? hdefaultHost.symm
    obtain ⟨graph, hgraph, rfl⟩ := List.mem_map.1 hmem
    obtain ⟨host, hhost, rfl⟩ := List.mem_map.1 (List.mem_filter.1 hgraph).1
    refine exists_modelGraph_iff.2 (.inl ⟨host, List.mem_append_left _ hhost, ?_⟩)
    rw [defaultGraph, hdefault]
    rfl
  | none =>
    have hroot : declarations.defaultGraph = GraphDeclaration.rootType := by
      rw [defaultGraph, hdefault]
      rfl
    rw [hroot] at h ⊢
    refine exists_root (h.imp_right ?_)
    rintro ⟨nested, hnested, hnone⟩
    exact ⟨nested, hnested, by rw [Declaration.parentGraph, hnone, hroot]; rfl⟩

variable (hgraphs : declarations.graphsFor table.symbols destinations = .ok graphs)

include hgraphs

theorem map_declaration_eq : graphs.map Graph.declaration = modelGraphs table declarations destinations := by
  rw [← withRoot_eq hcollect]
  exact (completedAll_of_graphsFor hgraphs).declarations

include hnames

/-- What a graph starts with as arguments are the properties that name it, sorted. -/
theorem startArguments_eq_sortBy {graph : Graph} (hmem : graph ∈ graphs) : graph.startArguments = sortBy Name.le
    ((table.startProperties.filter (·.graphNamedBy? Library.navHostDefaultStartArgs = some graph.type)).map (·.name)) := by
  obtain ⟨-, arguments, harguments, hcompleted⟩ := (graphsFor_eq_ok_iff hnames hcollect).1 hgraphs
  obtain ⟨declaration, -, hvalue⟩ := exists_of_mem_mapM hcompleted hmem
  obtain ⟨start, -, hvalue⟩ := bind_eq_ok.1 hvalue
  have htype : graph.type.Regular := (declared_of_mem (completedAll_of_graphsFor hgraphs) (collected_of_collect hcollect) hmem).type
  cases hvalue
  have hproperties := table.filter_kind_annotatedWith .property Library.navHostDefaultStartArgs
  rw [startArguments, hproperties] at harguments
  dsimp only [startArgumentsOf] at htype ⊢
  rw [map_filter_startArguments harguments htype]
  rfl

/-- A property is a start argument of the graph that it names and of no other. -/
theorem mem_startArguments_iff {property : Declaration} (hproperty : property ∈ table.startProperties) {graph : Graph} (hmem : graph ∈ graphs) :
    property.name ∈ graph.startArguments ↔ property.graphNamedBy? Library.navHostDefaultStartArgs = some graph.type := by
  rw [startArguments_eq_sortBy hnames hcollect hgraphs hmem, (perm_sortBy _).mem_iff, List.mem_map]
  constructor
  · rintro ⟨other, hother, hname⟩
    obtain ⟨hotherMem, hnamed⟩ := List.mem_filter.1 hother
    have hsame : other = property := List.inj_on_of_nodup_map hnames (table.mem_of_mem_declaredAs hotherMem)
      (table.mem_of_mem_declaredAs hproperty) (congrArg Name.qualified hname)
    rw [← hsame]
    exact of_decide_eq_true hnamed
  · intro hnamed
    exact ⟨property, List.mem_filter.2 ⟨hproperty, decide_eq_true hnamed⟩, rfl⟩

/-- Completed graphs are those of the model, each with its start and its start arguments. -/
theorem completedFrom_of_graphsFor : CompletedFrom table declarations destinations graphs := by
  have hall := completedAll_of_graphsFor hgraphs
  have hdeclared := map_declaration_eq hcollect hgraphs
  have hcompletable := (exists_graphsFor_iff hnames hcollect).1 ⟨graphs, hgraphs⟩
  have hqualified : (graphs.map (·.type.qualified)).Nodup := by
    have hmap : graphs.map (·.type.qualified) = (graphs.map Graph.declaration).map (·.type.qualified) := by simp [Graph.declaration]
    rw [hmap, hdeclared]
    exact nodup_modelGraphs hcollect hnames
  refine ⟨hdeclared, fun graph hmem start => ?_, ?_, fun graph hmem => ?_, fun graph hmem => ?_, fun property hproperty => ?_, fun h => ?_⟩
  · rw [isMarkedStart_iff, hall.declarations, hall.starts graph hmem, List.mem_singleton]
  · have hcount := countP_isDefault_withRoot (collected_of_collect hcollect) destinations
    rw [← hall.declarations, List.countP_map] at hcount
    exact hcount
  · rw [startArguments_eq_sortBy hnames hcollect hgraphs hmem]
    exact perm_sortBy _
  · rw [startArguments_eq_sortBy hnames hcollect hgraphs hmem]
    exact pairwise_sortBy Name.le_total Name.le_trans _
  · obtain ⟨declaration, hdeclaration, hhost, hnamed⟩ := hcompletable.arguments property hproperty
    rw [← hdeclared] at hdeclaration
    obtain ⟨host, hhostMem, rfl⟩ := List.mem_map.1 hdeclaration
    refine ⟨host, hhostMem, hhost, hnamed, fun graph hmem => ?_⟩
    rw [mem_startArguments_iff hnames hcollect hgraphs hproperty hmem, hnamed, Option.some.injEq]
    constructor
    · intro htype
      exact List.inj_on_of_nodup_map hqualified hmem hhostMem (congrArg Name.qualified htype.symm)
    · rintro rfl
      rfl
  · obtain ⟨declaration, hdeclaration, htype⟩ := exists_defaultGraph hcollect h
    rw [← hdeclared] at hdeclaration
    obtain ⟨graph, hmem, rfl⟩ := List.mem_map.1 hdeclaration
    exact ⟨graph, hmem, htype⟩

end

/-- Of a table whose declarations have distinct names and whose graphs can be read, and for whatever destinations there are, the graphs are completed
exactly if each parent is declared or the root graph, each property that holds start arguments names a host of the model, and each graph of the model
has one thing that is marked as its start; and then they are what the table and the destinations say. -/
theorem graphsFor_exact {table : SymbolTable} (hnames : (table.declarations.map (·.qualified)).Nodup) {declarations : GraphDeclarations}
    (hcollect : (collect table.symbols).result = .ok declarations) (destinations : List Destination) :
    ((∃ graphs, declarations.graphsFor table.symbols destinations = .ok graphs) ↔ Completable table declarations destinations) ∧
      ∀ graphs, declarations.graphsFor table.symbols destinations = .ok graphs → CompletedFrom table declarations destinations graphs :=
  ⟨exists_graphsFor_iff hnames hcollect, fun _ hgraphs => completedFrom_of_graphsFor hnames hcollect hgraphs⟩

/-- A default host with a property for its start arguments, a graph that falls back to it, and one that the root graph starts with. -/
def helpTable : SymbolTable :=
  { declarations := [
      { qualified := "app.HelpGraph", kind := .annotationClass, annotations := [.plain Library.navGraph] },
      loopGraph "app.DebugGraph" Library.rootNavGraph,
      { qualified := "app.AppGraph"
        kind := .annotationClass
        annotations := [(AnnotationExpr.plain Library.navHostGraph).withArgument "default" (.bool true)] },
      { qualified := "app.firstArguments"
        kind := .property
        annotations := [{ type := Library.navHostDefaultStartArgs, typeArguments := [.plain "app.AppGraph"], arguments := [] }] }] }

/-- The graphs of the table as they are read. -/
def helpDeclarations : GraphDeclarations :=
  { graphs := helpTable.hostClasses.map GraphDeclaration.host
      ++ helpTable.nestedClasses.map (GraphDeclaration.nested (Name.ofQualified "app.AppGraph"))
    defaultHost? := some (Name.ofQualified "app.AppGraph") }

/-- A screen for each declared graph to start with. -/
def helpScreens : List Destination :=
  [startScreen "HomeDestination" "app.AppGraph", startScreen "ManualDestination" "app.HelpGraph",
    startScreen "LogDestination" "app.DebugGraph"]

theorem graphsFor_exact_helpTable :
    (helpTable.declarations.map (·.qualified)).Nodup ∧ (collect helpTable.symbols).result = .ok helpDeclarations ∧
      Completable helpTable helpDeclarations helpScreens ∧
        ∃ graphs, helpDeclarations.graphsFor helpTable.symbols helpScreens = .ok graphs ∧
          CompletedFrom helpTable helpDeclarations helpScreens graphs := by
  have hnames : (helpTable.declarations.map (·.qualified)).Nodup := by decide +kernel
  have hcollect : (collect helpTable.symbols).result = .ok helpDeclarations := rfl
  obtain ⟨hiff, hcompleted⟩ := graphsFor_exact hnames hcollect helpScreens
  have hok : (helpDeclarations.graphsFor helpTable.symbols helpScreens).toOption.any (fun graphs => decide (graphs.length = 4)) = true := by
    decide +kernel
  obtain ⟨graphs, hgraphs, -⟩ := exists_ok_of_any _ _ hok
  exact ⟨hnames, hcollect, hiff.1 ⟨graphs, hgraphs⟩, graphs, hgraphs, hcompleted graphs hgraphs⟩

end GraphDeclarations

end NavGen
