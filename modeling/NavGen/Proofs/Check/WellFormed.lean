import NavGen.Check.Model
import NavGen.Proofs.Check.Destinations
import NavGen.Proofs.Check.Names
import NavGen.Proofs.Check.Topology

/-!
# Well-formed models

What it takes for a model to be one that code can be generated for, said without the check, and the statement that the check accepts exactly
these models.
-/

namespace NavGen.Model

/-- Whether a model is well formed. -/
structure WellFormed (model : Model) : Prop where
  destinations : ∀ destination ∈ model.destinations, model.WellFormedDestination destination
  graphTypes : model.graphNames.Nodup
  graphs : ∀ graph ∈ model.graphs, model.WellFormedGraph graph
  parentChains : ∀ chain : List String, chain.IsChain model.HasParent → chain.Nodup
  oneDefault : model.graphs.countP (·.isDefault) ≤ 1
  defaultIsHost : ∀ graph ∈ model.graphs, graph.isDefault = true → graph.isHost = true
  names : model.WellNamed

/-- A model is valid if nothing is found of its destinations, of its graphs and of its names. -/
theorem isValid_iff_findings (model : Model) :
    model.isValid = true ↔
      model.destinations.flatMap model.destinationFindings = [] ∧ model.graphFindings = [] ∧ model.nameFindings = [] := by
  rw [isValid, List.isEmpty_iff, findings, List.append_eq_nil_iff, List.append_eq_nil_iff, and_assoc]

/-- When destinations have distinct names, nothing is found of the graphs exactly if they are well formed one by one and together. -/
theorem graphFindings_eq_nil_iff {model : Model} (hnames : (model.destinations.map (·.name)).Nodup) :
    model.graphFindings = [] ↔
      model.graphNames.Nodup ∧ (∀ graph ∈ model.graphs, model.WellFormedGraph graph) ∧
        (∀ chain : List String, chain.IsChain model.HasParent → chain.Nodup) ∧
          model.graphs.countP (·.isDefault) ≤ 1 ∧ ∀ graph ∈ model.graphs, graph.isDefault = true → graph.isHost = true := by
  rw [graphFindings, List.append_eq_nil_iff, List.append_eq_nil_iff, List.append_eq_nil_iff, repeatedGraphs_eq_nil_iff,
    freshAfter_nil_iff, parentCycles_eq_nil_iff, defaultFindings_eq_nil_iff, and_assoc, and_assoc]
  refine and_congr_right fun hgraphs => ?_
  simp only [List.flatMap_eq_nil_iff, List.map_eq_nil_iff, graphFaults_eq_nil_iff hnames hgraphs,
    parentCycle?_eq_none_iff hgraphs]

/-- The check of a model accepts exactly the well-formed models. -/
theorem isValid_iff_wellFormed (model : Model) : model.isValid = true ↔ model.WellFormed := by
  rw [isValid_iff_findings, destinationFindings_eq_nil_iff, nameFindings_eq_nil_iff]
  constructor
  · rintro ⟨hdestinations, hgraphs, hnames⟩
    obtain ⟨htypes, heach, hchains, hone, hhost⟩ := (graphFindings_eq_nil_iff hnames.destinationNames).1 hgraphs
    exact ⟨hdestinations, htypes, heach, hchains, hone, hhost, hnames⟩
  · intro h
    refine ⟨h.destinations, ?_, h.names⟩
    exact (graphFindings_eq_nil_iff h.names.destinationNames).2
      ⟨h.graphTypes, h.graphs, h.parentChains, h.oneDefault, h.defaultIsHost⟩

end NavGen.Model
