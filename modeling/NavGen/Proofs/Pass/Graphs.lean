import NavGen.Pass.Graphs
import NavGen.Proofs.Order
import NavGen.Proofs.Pass.Results
import NavGen.Proofs.Symbol.Reordering

/-!
# Graphs of tables that differ in order

Graphs are read in the order of the table, hosts first. Whether they can be read does not depend on the order, and which host is the default does
not either, because there is one at most. The types of the graphs that are read are distinct, so each graph is completed on its own: what it starts
with and its start arguments are found among all destinations, graphs and properties, in whatever order these come.
-/

namespace NavGen

@[simp] theorem GraphDeclaration.type_host (declaration : Declaration) : (host declaration).type = declaration.name :=
  rfl

namespace GraphDeclarations

/-! ## Reading hosts -/

/-- The types of the hosts among some declarations that are marked as the default. -/
def markedDefaults (hosts : List Declaration) : List Name :=
  ((hosts.map GraphDeclaration.host).filter (·.isDefault)).map (·.type)

/-- After a host that is not nested reading goes on, unless there would be a second default. -/
theorem readHosts_cons_eq_ok_iff {host : Declaration} (hnested : (host.annotationOf? Library.navGraph).isSome = false)
    (default? : Option Name) (rest : List Declaration) (declarations : GraphDeclarations) :
    readHosts default? (host :: rest) = .ok declarations ↔
      ((GraphDeclaration.host host).isDefault = true → default? = none) ∧
        ∃ others, readHosts (if (GraphDeclaration.host host).isDefault then some host.name else default?) rest = .ok others ∧
          declarations = { others with graphs := GraphDeclaration.host host :: others.graphs } := by
  have hmap : ∀ x : Except SetupError GraphDeclarations,
      (x >>= fun others => pure { others with graphs := GraphDeclaration.host host :: others.graphs }) = .ok declarations ↔
        ∃ others, x = .ok others ∧ declarations = { others with graphs := GraphDeclaration.host host :: others.graphs } := by
    intro x
    rw [bind_eq_ok]
    refine exists_congr fun others => and_congr_right fun _ => ?_
    constructor
    · intro h
      cases h
      rfl
    · rintro rfl
      rfl
  rw [readHosts.eq_def]
  simp only [hnested, Bool.false_eq_true, if_false]
  split
  · rename_i hdefault
    simp [hdefault]
  · rename_i hdefault
    rw [hmap]
    simp only [hdefault, if_true, forall_const, true_and]
    rfl
  · rename_i hdefault
    rw [hmap]
    simp only [hdefault, Bool.false_eq_true, if_false, IsEmpty.forall_iff, true_and]

/-- Hosts can be read exactly if none of them is nested and at most one graph, with the one before, is the default. -/
theorem readHosts_eq_ok_iff (default? : Option Name) (hosts : List Declaration) (declarations : GraphDeclarations) :
    readHosts default? hosts = .ok declarations ↔
      (∀ host ∈ hosts, (host.annotationOf? Library.navGraph).isSome = false) ∧
        (default?.toList ++ markedDefaults hosts).length ≤ 1 ∧
          declarations = {
            graphs := hosts.map GraphDeclaration.host
            defaultHost? := (default?.toList ++ markedDefaults hosts).head? } := by
  induction hosts generalizing default? declarations with
  | nil =>
    rw [readHosts, Except.ok.injEq, eq_comm]
    cases default? <;> simp [markedDefaults]
  | cons host rest ih =>
    rw [List.forall_mem_cons]
    cases hnested : (host.annotationOf? Library.navGraph).isSome with
    | true =>
      unfold readHosts
      simp [hnested]
    | false =>
      rw [readHosts_cons_eq_ok_iff hnested]
      cases hdefault : (GraphDeclaration.host host).isDefault with
      | false =>
        have hmarked : markedDefaults (host :: rest) = markedDefaults rest := by simp [markedDefaults, hdefault]
        simp [ih, hmarked, and_assoc]
      | true =>
        have hmarked : markedDefaults (host :: rest) = host.name :: markedDefaults rest := by
          simp [markedDefaults, hdefault]
        cases default? with
        | some earlier => simp [hmarked]
        | none =>
          simp [ih, hmarked, and_assoc]

/-- Reading hosts ends alike for all orders, with the same default. -/
theorem endAlike_readHosts {hosts hosts' : List Declaration} (h : hosts.Perm hosts') :
    EndAlike
      (fun declarations declarations' =>
        (∀ host ∈ hosts, (host.annotationOf? Library.navGraph).isSome = false) ∧
          declarations.graphs = hosts.map GraphDeclaration.host ∧ declarations'.graphs = hosts'.map GraphDeclaration.host ∧
            declarations.defaultHost? = declarations'.defaultHost?)
      (readHosts none hosts) (readHosts none hosts') := by
  have hmarked : (markedDefaults hosts).Perm (markedDefaults hosts') := ((h.map _).filter _).map _
  refine EndAlike.of_ok (fun declarations hok => ?_) fun declarations' hok' => ?_
  · obtain ⟨hnested, hlength, rfl⟩ := (readHosts_eq_ok_iff _ _ _).1 hok
    rw [Option.toList_none, List.nil_append] at hlength
    have hsame := eq_of_perm_of_length_le_one hmarked hlength
    refine ⟨_, (readHosts_eq_ok_iff _ _ _).2 ⟨fun host hmem => hnested host (h.mem_iff.2 hmem), ?_, rfl⟩, hnested, rfl, rfl, ?_⟩
    · rw [Option.toList_none, List.nil_append, ← hsame]
      exact hlength
    · simp only [Option.toList_none, List.nil_append, hsame]
  · obtain ⟨hnested, hlength, -⟩ := (readHosts_eq_ok_iff _ _ _).1 hok'
    refine ⟨_, (readHosts_eq_ok_iff _ _ _).2 ⟨fun host hmem => hnested host (h.mem_iff.1 hmem), ?_, rfl⟩⟩
    rw [Option.toList_none, List.nil_append, hmarked.length_eq]
    exact hlength

/-! ## Declared graphs -/

/-- Whether two readings found the same graphs, in whatever order, and no two of them have the same name. -/
structure Reorders (declarations declarations' : GraphDeclarations) : Prop where
  graphs : declarations.graphs.Perm declarations'.graphs
  defaultHost : declarations.defaultHost? = declarations'.defaultHost?
  types : ∀ graph ∈ declarations.graphs, graph.type = Name.ofQualified graph.type.qualified
  names : (declarations.graphs.map (·.type.qualified)).Nodup

/-- A class is found with an annotation exactly if it is a declared annotation class that carries it. -/
theorem mem_classesWith_iff (table : SymbolTable) (marker : String) (declaration : Declaration) :
    declaration ∈ classesWith table.symbols marker ↔
      declaration ∈ table.declarations ∧ (declaration.annotationOf? marker).isSome = true ∧
        declaration.kind = .annotationClass := by
  unfold classesWith Declaration.annotationOf?
  rw [SymbolTable.annotatedWith_symbols, SymbolTable.annotatedWith]
  simp only [List.mem_filter, List.find?_isSome, List.any_eq_true, decide_eq_true_eq, and_assoc]

theorem result_collect (symbols : Symbols) :
    (collect symbols).result = (readHosts none (classesWith symbols Library.navHostGraph)).map fun hosts =>
      { hosts with
        graphs := hosts.graphs ++ (classesWith symbols Library.navGraph).map (GraphDeclaration.nested hosts.defaultGraph) } := by
  unfold collect
  simp only [Logged.result_bind, Logged.result_lift, Logged.result_debug, Logged.result_pure]
  cases readHosts none (classesWith symbols Library.navHostGraph) <;> rfl

/-- What is read: the hosts, the nested graphs, and the host that is marked as the default, of which there is one at most. -/
theorem graphs_of_collect {symbols : Symbols} {declarations : GraphDeclarations} (h : (collect symbols).result = .ok declarations) :
    declarations.graphs = (classesWith symbols Library.navHostGraph).map GraphDeclaration.host
        ++ (classesWith symbols Library.navGraph).map (GraphDeclaration.nested declarations.defaultGraph) ∧
      declarations.defaultHost? = (markedDefaults (classesWith symbols Library.navHostGraph)).head? ∧
        (markedDefaults (classesWith symbols Library.navHostGraph)).length ≤ 1 := by
  rw [result_collect] at h
  obtain ⟨hosts, hread, rfl⟩ := map_eq_ok.1 h
  obtain ⟨-, hlength, rfl⟩ := (readHosts_eq_ok_iff _ _ _).1 hread
  exact ⟨rfl, rfl, hlength⟩

end GraphDeclarations

namespace SymbolTable.Reorders

variable {table table' : SymbolTable}

theorem perm_classesWith (h : table.Reorders table') (marker : String) :
    (GraphDeclarations.classesWith table.symbols marker).Perm (GraphDeclarations.classesWith table'.symbols marker) :=
  (h.perm_annotatedWith marker).filter _

/-- The classes that carry an annotation have distinct names. -/
theorem nodup_classesWith (h : table.Reorders table') (marker : String) :
    ((GraphDeclarations.classesWith table.symbols marker).map (·.qualified)).Nodup := by
  refine h.names.sublist (List.Sublist.map _ (List.filter_sublist.trans ?_))
  rw [annotatedWith_symbols]
  exact List.filter_sublist

/-- The declared graphs of both tables are the same up to order, or neither table's can be read. -/
theorem endAlike_collect (h : table.Reorders table') :
    EndAlike GraphDeclarations.Reorders (GraphDeclarations.collect table.symbols).result
      (GraphDeclarations.collect table'.symbols).result := by
  rw [GraphDeclarations.result_collect, GraphDeclarations.result_collect]
  refine (GraphDeclarations.endAlike_readHosts (h.perm_classesWith Library.navHostGraph)).map ?_
  rintro hosts hosts' ⟨hnotNested, hgraphs, hgraphs', hdefault⟩
  have hsame : hosts.defaultGraph = hosts'.defaultGraph := by
    unfold GraphDeclarations.defaultGraph
    rw [hdefault]
  refine ⟨?_, hdefault, fun graph hmem => ?_, ?_⟩
  · rw [hgraphs, hgraphs', hsame]
    exact ((h.perm_classesWith _).map _).append ((h.perm_classesWith _).map _)
  · simp only [hgraphs, List.mem_append, List.mem_map] at hmem
    obtain ⟨host, -, rfl⟩ | ⟨nested, -, rfl⟩ := hmem
    · rfl
    · rfl
  · simp only [hgraphs, List.map_append, List.map_map]
    refine List.nodup_append.2 ⟨h.nodup_classesWith _, h.nodup_classesWith _, ?_⟩
    intro qualified hhosts other hnesteds heq
    obtain ⟨host, hhost, hhostName⟩ := List.mem_map.1 hhosts
    obtain ⟨nested, hnested, hnestedName⟩ := List.mem_map.1 hnesteds
    have hhostMem := (GraphDeclarations.mem_classesWith_iff _ _ _).1 hhost
    have hnestedMem := (GraphDeclarations.mem_classesWith_iff _ _ _).1 hnested
    have hname : nested.qualified = host.qualified := hnestedName.trans (heq.symm.trans hhostName.symm)
    -- of one name there is one declaration, which cannot be a host and nested
    have hdeclaration : nested = host := List.inj_on_of_nodup_map h.names hnestedMem.1 hhostMem.1 hname
    have hnot := hnotNested host hhost
    rw [← hdeclaration, hnestedMem.2.1] at hnot
    contradiction

end SymbolTable.Reorders

/-! ## What a graph is completed with -/

/-- The graph that a declaration names with an annotation. -/
def Declaration.graphNamedBy? (declaration : Declaration) (marker : String) : Option Name :=
  ((declaration.annotationOf? marker).bind (·.typeArguments.head?)).map (·.name)

namespace GraphDeclarations

/-- The parents of some graphs are known exactly if each of them is among the graphs. -/
theorem checkParents_eq_ok_iff (graphs : List GraphDeclaration) :
    checkParents graphs = .ok () ↔
      ∀ graph ∈ graphs, ∀ parent, graph.parent? = some parent → graphs.any (·.type == parent) = true := by
  unfold checkParents
  split
  · rename_i error herror
    refine iff_of_false (fun h => by cases h) fun h => ?_
    obtain ⟨graph, hmem, herror⟩ := List.exists_of_findSome?_eq_some herror
    obtain ⟨parent, hparent, -⟩ := Option.map_eq_some_iff.1 herror
    obtain ⟨hparent, hunknown⟩ := Option.filter_eq_some_iff.1 hparent
    rw [h graph hmem parent hparent] at hunknown
    contradiction
  · rename_i hnone
    refine iff_of_true rfl fun graph hmem parent hparent => ?_
    have hgraph := List.findSome?_eq_none_iff.1 hnone graph hmem
    rw [hparent] at hgraph
    simpa using hgraph

theorem endAlike_checkParents {graphs graphs' : List GraphDeclaration} (h : graphs.Perm graphs') :
    EndAlike Eq (checkParents graphs) (checkParents graphs') := by
  have hiff : checkParents graphs = .ok () ↔ checkParents graphs' = .ok () := by
    rw [checkParents_eq_ok_iff, checkParents_eq_ok_iff]
    simp only [h.mem_iff, any_eq_of_perm h]
  exact EndAlike.of_ok (fun _ hok => ⟨_, hiff.1 hok, rfl⟩) fun _ hok => ⟨_, hiff.2 hok⟩

/-- A property is read for the graph that it names, which is a host. -/
theorem startArgumentsGraph_eq_ok_iff {graphs : List GraphDeclaration} {property : Declaration} {type : Name} :
    startArgumentsGraph graphs property = .ok type ↔
      property.graphNamedBy? Library.navHostDefaultStartArgs = some type ∧ ∃ graph ∈ graphs, graph.type = type ∧ graph.isHost = true := by
  unfold startArgumentsGraph Declaration.graphNamedBy?
  cases (property.annotationOf? Library.navHostDefaultStartArgs).bind (·.typeArguments.head?) with
  | none => simp
  | some named =>
    have hany : (graphs.any fun graph => graph.type == named.name && graph.isHost) = true ↔
        ∃ graph ∈ graphs, graph.type = named.name ∧ graph.isHost = true := by simp
    rw [Option.map_some, Option.some.injEq]
    dsimp only
    by_cases hhost : ∃ graph ∈ graphs, graph.type = named.name ∧ graph.isHost = true
    · rw [if_pos (hany.2 hhost), Except.ok.injEq]
      constructor
      · rintro rfl
        exact ⟨rfl, hhost⟩
      · exact And.left
    · rw [if_neg (hany.not.2 hhost)]
      refine iff_of_false nofun ?_
      rintro ⟨rfl, hhosts⟩
      exact hhost hhosts

/-- Which properties hold start arguments of which hosts does not depend on the order of the table. -/
theorem endAlike_startArguments {table table' : SymbolTable} (htable : table.Reorders table')
    {graphs graphs' : List GraphDeclaration} (h : graphs.Perm graphs') :
    EndAlike List.Perm (startArguments table.symbols graphs) (startArguments table'.symbols graphs') := by
  refine EndAlike.mapM_perm ((htable.perm_annotatedWith _).filter _) fun property _ => EndAlike.of_eq ?_
  simp only [startArgumentsGraph, any_eq_of_perm h]

theorem startArgumentsOf_eq_of_perm {arguments arguments' : List (Name × Name)} (h : arguments.Perm arguments') (type : Name) :
    startArgumentsOf arguments type = startArgumentsOf arguments' type :=
  sortBy_nameLe_eq_of_perm ((h.filter _).map _)

variable {graphs graphs' : List GraphDeclaration} {destinations destinations' : List Destination}

theorem perm_markedStarts (hgraphs : graphs.Perm graphs') (hdestinations : destinations.Perm destinations') (type : Name) :
    (markedStarts graphs destinations type).Perm (markedStarts graphs' destinations' type) :=
  ((hdestinations.filter _).map _).append ((hgraphs.filter _).map _)

/-- What a graph starts with does not depend on the order of what is marked as its start, because that is one thing. -/
theorem endAlike_startOf (hgraphs : graphs.Perm graphs') (hdestinations : destinations.Perm destinations')
    (graph : GraphDeclaration) : EndAlike Eq (startOf graphs destinations graph) (startOf graphs' destinations' graph) := by
  have hmarked := perm_markedStarts hgraphs hdestinations graph.type
  unfold startOf
  generalize markedStarts graphs destinations graph.type = starts at hmarked ⊢
  generalize markedStarts graphs' destinations' graph.type = starts' at hmarked ⊢
  match starts, starts', hmarked.length_eq with
  | [], [], _ => exact .error _ _
  | [start], [start'], _ => exact .ok (List.singleton_perm_singleton.1 hmarked)
  | _ :: _ :: _, _ :: _ :: _, _ => exact .error _ _

/-! ## Completed graphs -/

/-- A graph of the model, completed on its own. -/
def completed (graphs : List GraphDeclaration) (destinations : List Destination) (arguments : List (Name × Name))
    (graph : GraphDeclaration) : Except SetupError Graph := do
  let start ← startOf graphs destinations graph
  return {
    type := graph.type
    route := graph.route
    start
    parent? := graph.parent?
    isParentStart := graph.isParentStart
    isHost := graph.isHost
    isDefault := graph.isDefault
    startArguments := startArgumentsOf arguments graph.type
    sourceIds := graph.sourceIds }

/-- Graphs with distinct names are each completed on their own. -/
theorem complete_eq_mapM (arguments : List (Name × Name)) {done : List String} {rest : List GraphDeclaration}
    (hfresh : FreshAfter done (rest.map (·.type.qualified))) :
    complete graphs destinations arguments done rest = rest.mapM (completed graphs destinations arguments) := by
  induction rest generalizing done with
  | nil => rfl
  | cons graph rest ih =>
    rw [List.map_cons, freshAfter_cons] at hfresh
    have hnotDone : done.contains graph.type.qualified = false := by simpa using hfresh.1
    rw [complete, List.mapM_cons, ih hfresh.2, completed, hnotDone]
    cases startOf graphs destinations graph with
    | error e => rfl
    | ok start => rfl

theorem endAlike_completed (hgraphs : graphs.Perm graphs') (hdestinations : destinations.Perm destinations')
    {arguments arguments' : List (Name × Name)} (harguments : arguments.Perm arguments') (graph : GraphDeclaration) :
    EndAlike Eq (completed graphs destinations arguments graph) (completed graphs' destinations' arguments' graph) := by
  refine (endAlike_startOf hgraphs hdestinations graph).bind ?_
  rintro start _ rfl
  rw [startArgumentsOf_eq_of_perm harguments]
  exact .ok rfl

end GraphDeclarations

namespace GraphDeclarations.Reorders

variable {declarations declarations' : GraphDeclarations} {destinations destinations' : List Destination}

theorem defaultGraph_eq (h : declarations.Reorders declarations') : declarations.defaultGraph = declarations'.defaultGraph := by
  unfold defaultGraph
  rw [h.defaultHost]

theorem isEmpty_eq (h : declarations.Reorders declarations') : declarations.isEmpty = declarations'.isEmpty := by
  unfold isEmpty
  rw [h.graphs.isEmpty_eq]

/-- The root graph joins both or neither. -/
theorem perm_withRoot (h : declarations.Reorders declarations') (hdestinations : destinations.Perm destinations') :
    (declarations.withRoot destinations).Perm (declarations'.withRoot destinations') := by
  have hdeclares := any_eq_of_perm h.graphs (·.type == GraphDeclaration.rootType)
  have hrefers : declarations.refersTo destinations GraphDeclaration.rootType =
      declarations'.refersTo destinations' GraphDeclaration.rootType := by
    unfold refersTo
    rw [any_eq_of_perm hdestinations, any_eq_of_perm h.graphs]
  rw [withRoot, withRoot, declares, declares, hdeclares, hrefers, h.defaultHost]
  split
  · exact h.graphs
  · exact h.graphs.append_right _

/-- With the root graph the names of the graphs are distinct, too. -/
theorem nodup_withRoot (h : declarations.Reorders declarations') :
    ((declarations.withRoot destinations).map (·.type.qualified)).Nodup := by
  rw [withRoot]
  split
  · exact h.names
  · rename_i hroot
    rw [List.map_append, List.nodup_append]
    refine ⟨h.names, List.nodup_singleton _, fun name hname other hother heq => hroot ?_⟩
    obtain ⟨graph, hmem, rfl⟩ := List.mem_map.1 hname
    have hqualified : graph.type.qualified = GraphDeclaration.rootType.qualified := heq.trans (List.mem_singleton.1 hother)
    have htype : graph.type = GraphDeclaration.rootType := by
      rw [h.types graph hmem, hqualified]
      rfl
    have hdeclared : declarations.declares GraphDeclaration.rootType = true :=
      List.any_eq_true.2 ⟨graph, hmem, beq_iff_eq.2 htype⟩
    rw [hdeclared, Bool.true_or]

end GraphDeclarations.Reorders

namespace SymbolTable.Reorders

variable {table table' : SymbolTable}

/-- The graphs of the model are the same up to order, or those of neither table can be completed. -/
theorem endAlike_graphsFor (h : table.Reorders table') {declarations declarations' : GraphDeclarations}
    (hdeclarations : declarations.Reorders declarations') {destinations destinations' : List Destination}
    (hdestinations : destinations.Perm destinations') :
    EndAlike List.Perm (declarations.graphsFor table.symbols destinations)
      (declarations'.graphsFor table'.symbols destinations') := by
  have hgraphs := hdeclarations.perm_withRoot hdestinations
  have hnames : ((declarations.withRoot destinations).map (·.type.qualified)).Nodup := hdeclarations.nodup_withRoot
  have hnames' := (hgraphs.map (·.type.qualified)).nodup hnames
  unfold GraphDeclarations.graphsFor
  refine (GraphDeclarations.endAlike_checkParents hgraphs).bind fun _ _ _ => ?_
  refine (GraphDeclarations.endAlike_startArguments h hgraphs).bind fun arguments arguments' harguments => ?_
  rw [GraphDeclarations.complete_eq_mapM _ (freshAfter_nil_iff.2 hnames),
    GraphDeclarations.complete_eq_mapM _ (freshAfter_nil_iff.2 hnames')]
  exact EndAlike.mapM_perm hgraphs fun graph _ => GraphDeclarations.endAlike_completed hgraphs hdestinations harguments graph

end SymbolTable.Reorders

end NavGen
