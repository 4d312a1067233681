import NavGen.Proofs.Check.ParentChains

/-!
# When nothing is found of the graphs

The check of the graphs finds nothing exactly if their types are distinct, each graph is well formed on its own, no chain of parents repeats a
graph and at most one graph, a host, is the default. What a graph starts with is looked up by name, so the statement about starts asks that names
are distinct.
-/

namespace NavGen.Model

/-- Whether a graph starts with a destination that it owns or a graph that is nested in it. -/
def StartsInside (model : Model) (graph : Graph) : Prop :=
  match graph.start with
  | .destination name => ∃ destination ∈ model.destinations, destination.name = name ∧ destination.graph = graph.type
  | .graph type => ∃ child ∈ model.graphs, child.type = type ∧ child.parent? = some graph.type

/-- Whether a graph of a model is well formed on its own. Parents are compared by qualified name; who owns a destination and what is nested in a
graph is compared by the whole name. -/
structure WellFormedGraph (model : Model) (graph : Graph) : Prop where
  hostParent : graph.isHost = true → graph.parent? = none
  nestedParent : graph.isHost = false → ∃ parent, graph.parent? = some parent ∧ parent.qualified ∈ model.graphNames
  oneMarkedStart :
    (model.destinationsOf graph.type).countP (·.isStart) + (model.nestedGraphsOf graph.type).countP (·.isParentStart) = 1
  start : model.StartsInside graph
  startArguments : graph.startArguments ≠ [] → graph.isHost = true

/-! ## One graph -/

theorem parentFaults_eq_nil_iff (model : Model) (graph : Graph) :
    model.parentFaults graph = [] ↔
      (graph.isHost = true → graph.parent? = none) ∧
        (graph.isHost = false → ∃ parent, graph.parent? = some parent ∧ parent.qualified ∈ model.graphNames) := by
  unfold parentFaults
  cases hparent : graph.parent? with
  | none => cases hhost : graph.isHost <;> simp
  | some parent =>
    cases hhost : graph.isHost with
    | true => simp
    | false => simp [graphNamed?_eq_none_iff]

theorem length_markedStarts (model : Model) (graph : Graph) :
    (model.markedStarts graph).length =
      (model.destinationsOf graph.type).countP (·.isStart) + (model.nestedGraphsOf graph.type).countP (·.isParentStart) := by
  simp only [markedStarts, List.length_append, List.length_map, List.countP_eq_length_filter]

theorem markedStartFaults_eq_nil_iff (model : Model) (graph : Graph) :
    model.markedStartFaults graph = [] ↔ (model.markedStarts graph).length = 1 := by
  unfold markedStartFaults
  split
  · rename_i h
    simp [h]
  · rename_i h
    simp [h]
  · rename_i marked hnil hone
    refine iff_of_false (List.cons_ne_nil _ _) fun h => ?_
    obtain ⟨item, hitem⟩ := List.length_eq_one_iff.1 h
    exact hone item hitem

/-- Types with distinct names are distinct. -/
theorem nodup_types {model : Model} (hnames : model.graphNames.Nodup) : (model.graphs.map (·.type)).Nodup := by
  refine List.Nodup.of_map (·.qualified) ?_
  rw [List.map_map]
  exact hnames

/-- Of destinations with distinct names and graphs with distinct types, what a graph starts with is the one of that name. -/
theorem startFaults_eq_nil_iff {model : Model} (hdestinations : (model.destinations.map (·.name)).Nodup)
    (hgraphs : model.graphNames.Nodup) (graph : Graph) : model.startFaults graph = [] ↔ model.StartsInside graph := by
  have htypes := nodup_types hgraphs
  rw [startFaults, StartsInside]
  cases graph.start with
  | destination name =>
    simp only [destination?]
    cases hfind : model.destinations.find? (·.name == name) with
    | none =>
      refine iff_of_false (List.cons_ne_nil _ _) ?_
      rintro ⟨destination, hmem, hname, -⟩
      exact find?_key_eq_none.1 hfind (hname ▸ List.mem_map_of_mem hmem)
    | some found =>
      obtain ⟨hmem, hname⟩ := mem_of_find?_key hfind
      simp only [ite_eq_left_iff, List.cons_ne_nil, imp_false, not_not]
      constructor
      · intro howner
        exact ⟨found, hmem, hname, howner⟩
      · rintro ⟨destination, homem, honame, howner⟩
        rw [(find?_key_eq_some hdestinations).2 ⟨homem, honame⟩, Option.some.injEq] at hfind
        exact hfind ▸ howner
  | graph type =>
    simp only [graph?]
    cases hfind : model.graphs.find? (·.type == type) with
    | none =>
      refine iff_of_false (List.cons_ne_nil _ _) ?_
      rintro ⟨child, hmem, htype, -⟩
      exact find?_key_eq_none.1 hfind (htype ▸ List.mem_map_of_mem hmem)
    | some found =>
      obtain ⟨hmem, htype⟩ := mem_of_find?_key hfind
      simp only [ite_eq_left_iff, List.cons_ne_nil, imp_false, not_not]
      constructor
      · intro hparent
        exact ⟨found, hmem, htype, hparent⟩
      · rintro ⟨child, hcmem, hctype, hparent⟩
        rw [(find?_key_eq_some htypes).2 ⟨hcmem, hctype⟩, Option.some.injEq] at hfind
        exact hfind ▸ hparent

/-- Nothing is found of a graph exactly if it is well formed on its own. -/
theorem graphFaults_eq_nil_iff {model : Model} (hdestinations : (model.destinations.map (·.name)).Nodup)
    (hgraphs : model.graphNames.Nodup) (graph : Graph) :
    model.graphFaults graph = [] ↔ model.WellFormedGraph graph := by
  have harguments : (if !graph.startArguments.isEmpty && !graph.isHost then [Fault.startArgumentsOfNested] else []) = [] ↔
      (graph.startArguments ≠ [] → graph.isHost = true) := by
    simp
  rw [graphFaults, List.append_eq_nil_iff, List.append_eq_nil_iff, List.append_eq_nil_iff, parentFaults_eq_nil_iff,
    markedStartFaults_eq_nil_iff, length_markedStarts, startFaults_eq_nil_iff hdestinations hgraphs, harguments]
  exact ⟨fun ⟨⟨⟨⟨h1, h2⟩, h3⟩, h4⟩, h5⟩ => ⟨h1, h2, h3, h4, h5⟩,
    fun h => ⟨⟨⟨⟨h.hostParent, h.nestedParent⟩, h.oneMarkedStart⟩, h.start⟩, h.startArguments⟩⟩

/-! ## All graphs -/

theorem repeatedGraphs_eq_nil_iff (seen : List String) (graphs : List Graph) :
    repeatedGraphs seen graphs = [] ↔ FreshAfter seen (graphs.map (·.type.qualified)) := by
  induction graphs generalizing seen with
  | nil => simp [repeatedGraphs, freshAfter_nil]
  | cons graph rest ih => simp [repeatedGraphs, freshAfter_cons, ih]

theorem defaultFindings_eq_nil_iff (model : Model) :
    model.defaultFindings = [] ↔
      model.graphs.countP (·.isDefault) ≤ 1 ∧ ∀ graph ∈ model.graphs, graph.isDefault = true → graph.isHost = true := by
  have hcount : model.graphs.countP (·.isDefault) = model.defaultGraphs.length := by
    rw [defaultGraphs, List.length_map, List.countP_eq_length_filter]
  have hnested : (model.graphs.filter fun graph => graph.isDefault && !graph.isHost) = [] ↔
      ∀ graph ∈ model.graphs, graph.isDefault = true → graph.isHost = true := by
    simp
  rw [defaultFindings, List.append_eq_nil_iff, List.map_eq_nil_iff, hnested, hcount]
  refine and_congr ?_ Iff.rfl
  split
  · rename_i h
    simp [h]
  · rename_i h
    refine iff_of_true rfl ?_
    match hdefaults : model.defaultGraphs with
    | [] => simp
    | [_] => simp
    | first :: second :: rest => exact absurd hdefaults (h first second rest)

end NavGen.Model
