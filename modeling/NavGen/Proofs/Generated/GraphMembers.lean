import NavGen.Proofs.Generated.GraphsObject
import NavGen.Proofs.Pass.AssembledModel

/-!
# Members of the generated object

The object of all graphs has a member for each graph, called like its route in camel case, and one more, `external`, that lists the graphs of other
modules. The check of a model compares the graphs with one another, but not with that one more. So the members of the object of a valid model have
distinct names exactly if there are no graphs to list or no graph of the object is called `external` itself.
-/

namespace NavGen

/-- Whether the graphs of other modules, if there are any, can be listed under a name that no graph of the model has. -/
def Model.ExternalApart (model : Model) : Prop :=
  ∀ surface ∈ model.modules, surface.topLevelGraphs ≠ [] → ∀ graph ∈ model.graphsChildrenFirst, graph.propertyName ≠ "external"

/-! ## The walk over the graphs -/

namespace Model

variable {model : Model}

/-- Only graphs of the model are left if only such graphs are to be visited. -/
theorem mem_graphs_of_mem_leaveOrder {pending : List String} {visits : List Visit} (h : ∀ visit ∈ visits, visit.graph ∈ model.graphs)
    {graph : Graph} (hmem : graph ∈ model.leaveOrder pending visits) : graph ∈ model.graphs := by
  fun_induction Model.leaveOrder model pending visits with
  | case1 pending => contradiction
  | case2 pending left rest ih =>
    obtain ⟨hleft, hrest⟩ := List.forall_mem_cons.1 h
    rcases List.mem_cons.1 hmem with rfl | hmem
    · exact hleft
    · exact ih hrest hmem
  | case3 pending entered rest hpending ih =>
    obtain ⟨hentered, hrest⟩ := List.forall_mem_cons.1 h
    refine ih (fun visit hvisit => ?_) hmem
    rcases List.mem_append.1 hvisit with hvisit | hvisit
    · obtain ⟨child, hchild, rfl⟩ := List.mem_map.1 hvisit
      exact (mem_nestedGraphsOf.1 hchild).1
    · rcases List.mem_cons.1 hvisit with rfl | hvisit
      · exact hentered
      · exact hrest visit hvisit
  | case4 pending entered rest hpending ih => exact ih (List.forall_mem_cons.1 h).2 hmem

theorem mem_graphs_of_mem_graphsChildrenFirst {graph : Graph} (h : graph ∈ model.graphsChildrenFirst) : graph ∈ model.graphs := by
  refine mem_graphs_of_mem_leaveOrder (fun visit hvisit => ?_) h
  obtain ⟨top, htop, rfl⟩ := List.mem_map.1 hvisit
  exact List.mem_of_mem_filter htop

/-- Graphs of the order are called differently if all graphs of the model are. -/
theorem nodup_propertyName_graphsChildrenFirst (hnames : model.graphNames.Nodup) (hproperties : (model.graphs.map (·.propertyName)).Nodup) :
    (model.graphsChildrenFirst.map (·.propertyName)).Nodup := by
  refine (nodup_graphsChildrenFirst hnames).map_on fun first hfirst second hsecond heq => ?_
  exact List.inj_on_of_nodup_map hproperties (mem_graphs_of_mem_graphsChildrenFirst hfirst) (mem_graphs_of_mem_graphsChildrenFirst hsecond) heq

end Model

namespace Generation

variable {generation : Generation}

/-! ## All members -/

/-- There are graphs to list exactly if a module has a top level graph. -/
theorem externalGraphs_ne_nil_iff : generation.externalGraphs ≠ [] ↔ ∃ surface ∈ generation.model.modules, surface.topLevelGraphs ≠ [] := by
  rw [externalGraphs, ne_eq, List.flatMap_eq_nil_iff]
  simp

/-- Beside graphs with distinct names, the list of graphs of other modules has a name of its own exactly if none of them has that name. -/
theorem nodup_properties_iff_of_nodup (h : (generation.model.graphsChildrenFirst.map (·.propertyName)).Nodup) :
    generation.graphsSource.properties.Nodup ↔ generation.model.ExternalApart := by
  have hlist : (if generation.externalGraphs.isEmpty then [] else ["external"]).Nodup := by
    split
    · exact List.nodup_nil
    · exact List.nodup_singleton _
  have hmem : "external" ∈ (if generation.externalGraphs.isEmpty then [] else ["external"]) ↔
      ∃ surface ∈ generation.model.modules, surface.topLevelGraphs ≠ [] := by
    rw [← externalGraphs_ne_nil_iff, ne_eq, ← List.isEmpty_iff]
    cases generation.externalGraphs.isEmpty <;> simp
  have honly : ∀ name ∈ (if generation.externalGraphs.isEmpty then [] else ["external"]), name = "external" := by
    split <;> simp
  rw [properties_graphsSource, List.nodup_append]
  constructor
  · rintro ⟨-, -, hdisjoint⟩ surface hsurface htop graph hgraph
    exact hdisjoint _ (List.mem_map_of_mem hgraph) _ (hmem.2 ⟨surface, hsurface, htop⟩)
  · intro hapart
    refine ⟨h, hlist, fun name hname other hother heq => ?_⟩
    obtain ⟨graph, hgraph, rfl⟩ := List.mem_map.1 hname
    obtain rfl := honly other hother
    obtain ⟨surface, hsurface, htop⟩ := hmem.1 hother
    exact hapart surface hsurface htop graph hgraph heq

/-- The members of the object that is generated for a valid model have distinct names exactly if the graphs of other modules can be listed apart from
those of the model. -/
theorem nodup_graphsObject_iff (generation : Generation) (hvalid : generation.model.isValid = true) :
    generation.graphsSource.properties.Nodup ↔ generation.model.ExternalApart := by
  have hmodel := (Model.isValid_iff_wellFormed generation.model).1 hvalid
  exact nodup_properties_iff_of_nodup (Model.nodup_propertyName_graphsChildrenFirst hmodel.graphTypes hmodel.names.propertyNames)

/-- Two screens, one of them in a graph that is nested in the root graph, and a module that publishes a graph. -/
def linkTable (graph : String) : SymbolTable :=
  let start := [("start", AnnotationValue.bool true)]
  { declarations := [
      { qualified := "app.HomeScreen"
        kind := .function
        annotations := [{ type := Library.destination, typeArguments := [], arguments := start }] },
      { qualified := graph, kind := .annotationClass, annotations := [.plain Library.navGraph] },
      { qualified := "app.LinkScreen"
        kind := .function
        annotations := [{ type := Library.destination, typeArguments := [.plain graph], arguments := start }] },
      { qualified := Library.registryPackage ++ "._ModuleRegistry_feature"
        kind := .object
        annotations := [{
          type := Library.registryPackage ++ "._Info_feature"
          typeArguments := []
          arguments := [
            ("moduleName", .text "feature"),
            ("packageName", .text "feature.gen"),
            ("hasNavArgsPackage", .bool false),
            ("topLevelGraphs", .array [.text "feature"])] }] }] }

/-- A graph of external links stands apart from the list of the graph that the module publishes. -/
theorem nodup_graphsObject_iff_externalLinks :
    ∃ model, (Model.assemble? (linkTable "app.ExternalLinksGraph").symbols).result = .ok (some model) ∧ model.isValid = true ∧
      (inApp model).graphsSource.properties = ["externalLinks", "root", "external"] ∧ model.ExternalApart := by
  obtain ⟨model, hassembled, hvalid, hproperties⟩ := Model.exists_assembled (linkTable "app.ExternalLinksGraph").symbols
    (fun model => model.isValid = true ∧ (inApp model).graphsSource.properties = ["externalLinks", "root", "external"]) (by decide +kernel)
  refine ⟨model, hassembled, hvalid, hproperties, (nodup_graphsObject_iff (inApp model) hvalid).1 ?_⟩
  rw [hproperties]
  decide

/-- That the members of the object of a valid model have distinct names is false in general: a graph can be called `external` itself. -/
theorem nodup_graphsObject_false : ¬∀ generation : Generation, generation.model.isValid = true → generation.graphsSource.properties.Nodup := by
  intro hdistinct
  obtain ⟨model, -, hvalid, hproperties⟩ := Model.exists_assembled (linkTable "app.ExternalGraph").symbols
    (fun model => model.isValid = true ∧ (inApp model).graphsSource.properties = ["external", "root", "external"]) (by decide +kernel)
  have hnodup := hdistinct (inApp model) hvalid
  rw [hproperties] at hnodup
  contradiction

end Generation

end NavGen
