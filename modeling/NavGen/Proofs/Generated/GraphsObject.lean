import NavGen.Proofs.Check.WellFormed
import NavGen.Proofs.Generated.Declarations
import NavGen.Proofs.Model.ChildrenFirst

/-!
# The order of the graphs in the generated object

A property of the generated object is initialised when the ones above it are, so what the declaration of a graph uses has to stand above it in the
text of the file. It does, and each graph of the model is declared, because the order of the graphs is one of children first that leaves none out.
-/

namespace NavGen

namespace GraphEntry

/-- The text that declares a graph inside the object. -/
def text (entry : GraphEntry) : String :=
  Layout.textFrom 1 entry.layout

/-- A list of items inside a declaration declares nothing itself. -/
theorem properties_listProperty (declaration : String) (items : List String) : Layout.properties (listProperty declaration items) = [] := by
  unfold listProperty
  split
  · rfl
  · rw [Layout.properties_bracketed, Layout.properties_map_code]
    rfl

theorem properties_layout (entry : GraphEntry) : Layout.properties entry.layout = [entry.property] := by
  have harguments : Layout.properties
      (if entry.startArguments.isEmpty then [] else listProperty "defaultStartArgs: List<Any?>" entry.startArguments) = [] := by
    split
    · rfl
    · exact properties_listProperty _ _
  rw [layout, Layout.properties_braced, Layout.properties_append, Layout.properties_append, Layout.properties_append,
    properties_listProperty, properties_listProperty, harguments]
  rfl

theorem wellNested_listProperty (declaration : String) (items : List String) : Layout.WellNested (listProperty declaration items) := by
  unfold listProperty
  split
  · exact Layout.wellNested_nil.code _
  · exact (Layout.wellNested_map_code _ _).bracketed _ _

/-- The declaration of a graph closes the scopes that it opens. -/
theorem wellNested_layout (entry : GraphEntry) : Layout.WellNested entry.layout := by
  have harguments : Layout.WellNested
      (if entry.startArguments.isEmpty then [] else listProperty "defaultStartArgs: List<Any?>" entry.startArguments) := by
    split
    · exact Layout.wellNested_nil
    · exact wellNested_listProperty _ _
  exact ((((Layout.wellNested_nil.code _).code _).append (wellNested_listProperty _ _)).append (wellNested_listProperty _ _)).append harguments
    |>.braced _ _

end GraphEntry

namespace Generation

variable {generation : Generation}

/-- The lines that declare some graphs, an empty line before each. -/
def graphsLayout (generation : Generation) (graphs : List Graph) : List Layout :=
  graphs.flatMap fun graph => .blank :: (generation.graphEntry graph).layout

theorem properties_graphsLayout (graphs : List Graph) :
    Layout.properties (generation.graphsLayout graphs) = graphs.map (·.propertyName) := by
  have heach : ∀ graph : Graph, Layout.properties (.blank :: (generation.graphEntry graph).layout) = [graph.propertyName] :=
    fun graph => (generation.graphEntry graph).properties_layout
  rw [graphsLayout, Layout.properties_flatMap]
  simp only [heach, List.map_eq_flatMap]

theorem wellNested_graphsLayout (graphs : List Graph) : Layout.WellNested (generation.graphsLayout graphs) :=
  Layout.WellNested.flatMap fun graph _ => (generation.graphEntry graph).wellNested_layout.blank

theorem properties_externalLayout :
    Layout.properties generation.externalLayout = if generation.externalGraphs.isEmpty then [] else ["external"] := by
  unfold externalLayout
  split
  · rfl
  · change Layout.properties (Layout.bracketed _ _ _) = _
    rw [Layout.properties_bracketed, Layout.properties_map_code]
    rfl

/-- The lines of the object. -/
theorem layout_graphsSource :
    generation.graphsSource.body.layout =
      Layout.braced (.object "NavGraphs" none)
        (generation.graphsLayout generation.model.graphsChildrenFirst ++ generation.externalLayout) "" := by
  change Layout.braced _ (List.flatMap _ (generation.model.graphsChildrenFirst.map generation.graphEntry) ++ _) _ = _
  rw [List.flatMap_map, graphsLayout]

/-- The object declares a property for each graph of its order, and one for the graphs of other modules if there are any. -/
theorem properties_graphsSource :
    generation.graphsSource.properties =
      generation.model.graphsChildrenFirst.map (·.propertyName) ++ if generation.externalGraphs.isEmpty then [] else ["external"] := by
  change Layout.properties generation.graphsSource.body.layout = _
  rw [layout_graphsSource, Layout.properties_braced, Layout.properties_append, properties_graphsLayout, properties_externalLayout]
  rfl

/-- What stands in the file above the first graph. -/
def graphsOpening (generation : Generation) : String :=
  generation.graphsSource.opening ++ (Layout.openBrace (.object "NavGraphs" none)).text 0

/-- Above the declaration of a graph stand those of all graphs that come before it. -/
theorem content_graphsFile {before after : List Graph} {graph : Graph}
    (h : generation.model.graphsChildrenFirst = before ++ graph :: after) :
    ∃ closing, generation.graphsFile.content =
      generation.graphsOpening ++ Layout.textFrom 1 (generation.graphsLayout before ++ [.blank]) ++ (generation.graphEntry graph).text
        ++ closing := by
  have hlayout : generation.graphsSource.body.layout =
      .openBrace (.object "NavGraphs" none) :: ((generation.graphsLayout before ++ [.blank]) ++ ((generation.graphEntry graph).layout ++
        (generation.graphsLayout after ++ generation.externalLayout ++ [.closeBrace ""]))) := by
    rw [layout_graphsSource, h, Layout.braced]
    simp only [graphsLayout, List.flatMap_append, List.flatMap_cons, List.append_assoc, List.cons_append, List.nil_append]
  have hbefore : Layout.WellNested (generation.graphsLayout before ++ [.blank]) :=
    (wellNested_graphsLayout before).append Layout.wellNested_nil.blank
  refine ⟨Layout.textFrom 1 (generation.graphsLayout after ++ generation.externalLayout ++ [.closeBrace ""]), ?_⟩
  change generation.graphsSource.text = _
  rw [SourceFile.text_eq, hlayout, Layout.textFrom_cons, Layout.depthAfter, hbefore.level.textFrom_append,
    (generation.graphEntry graph).wellNested_layout.level.textFrom_append, graphsOpening, GraphEntry.text]
  simp only [String.append_assoc]

/-- The properties that the declaration of a graph uses: that of the graph that it starts with and those of the graphs nested in it. -/
def usedGraphs (generation : Generation) (graph : Graph) : List String :=
  (match graph.start with
    | .destination _ => []
    | .graph _ => [(generation.graphEntry graph).start]) ++ (generation.graphEntry graph).nested

/-- Whether a file declares the graphs of the model in an order: each once, each with a name of its own and what it uses above it. -/
structure DeclaresInOrder (generation : Generation) (order : List Graph) : Prop where
  each : order.Perm generation.model.graphs
  distinct : (order.map (·.propertyName)).Nodup
  properties : generation.graphsSource.properties =
    order.map (·.propertyName) ++ if generation.externalGraphs.isEmpty then [] else ["external"]
  usedAbove : ∀ before graph after, order = before ++ graph :: after →
    ∃ opening closing, generation.graphsFile.content = opening ++ (generation.graphEntry graph).text ++ closing ∧
      ∀ property ∈ generation.usedGraphs graph, HasLine ("public val " ++ property ++ ": ") opening

/-- What a graph of a well-formed model uses are properties of graphs that are nested in it. -/
theorem exists_nested_of_mem_usedGraphs (hmodel : generation.model.WellFormed) {graph : Graph} (hgraph : graph ∈ generation.model.graphs)
    {property : String} (h : property ∈ generation.usedGraphs graph) :
    ∃ child ∈ generation.model.nestedGraphsOf graph.type, child.propertyName = property := by
  rcases List.mem_append.1 h with h | h
  · cases hstart : graph.start with
    | destination name =>
      rw [hstart] at h
      contradiction
    | graph type =>
      rw [hstart] at h
      obtain ⟨child, hchild, rfl, hparent⟩ : ∃ child ∈ generation.model.graphs, child.type = type ∧ child.parent? = some graph.type := by
        have hinside := (hmodel.graphs graph hgraph).start
        rwa [Model.StartsInside, hstart] at hinside
      have hfound : generation.model.graph? child.type = some child :=
        (find?_key_eq_some (Model.nodup_types hmodel.graphTypes)).2 ⟨hchild, rfl⟩
      have hcode : generation.startCode graph = child.propertyName := by
        rw [startCode, hstart]
        dsimp only
        rw [hfound]
      exact ⟨child, Model.mem_nestedGraphsOf.2 ⟨hchild, hparent⟩, hcode.symm.trans (List.mem_singleton.1 h).symm⟩
  · exact List.mem_map.1 h

/-- The object declares the graphs of a well-formed model children first. -/
theorem declaresInOrder_of_wellFormed (hmodel : generation.model.WellFormed)
    (hparents : ∀ graph ∈ generation.model.graphs, ∀ parent, graph.parent? = some parent →
      ∃ other ∈ generation.model.graphs, other.type = parent) :
    generation.DeclaresInOrder generation.model.graphsChildrenFirst := by
  have hwell := Model.wellFounded_hasParent hmodel.graphTypes ((Model.parentCycle?_eq_none_iff hmodel.graphTypes).2 hmodel.parentChains)
  have heach := Model.perm_graphsChildrenFirst hmodel.graphTypes hparents hwell
  refine ⟨heach, (heach.map _).nodup_iff.2 hmodel.names.propertyNames, properties_graphsSource, ?_⟩
  · intro before graph after h
    have hgraph : graph ∈ generation.model.graphs := heach.mem_iff.1 (by simp [h])
    obtain ⟨closing, hcontent⟩ := content_graphsFile h
    refine ⟨_, closing, hcontent, fun property hproperty => ?_⟩
    obtain ⟨child, hchild, rfl⟩ := exists_nested_of_mem_usedGraphs hmodel hgraph hproperty
    have hbefore := Model.children_before hmodel.graphTypes before graph after h child hchild
    have hends : EndsLine generation.graphsOpening := Layout.endsLine_append_text generation.graphsSource.endsLine_opening _ _
    refine Layout.hasLine_of_mem_properties hends ?_ 1
    rw [Layout.properties_append, properties_graphsLayout]
    exact List.mem_append_left _ (List.mem_map_of_mem hbefore)

end Generation

end NavGen
