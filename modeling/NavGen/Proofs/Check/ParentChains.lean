import Mathlib.Data.List.Chain
import Mathlib.Order.WellFounded
import NavGen.Check.Topology
import NavGen.Proofs.Keys

/-!
# Chains of parents

The check of a model follows parents by name from each graph and reports a cycle when it comes back to a graph of the chain. Each chain that
the search reports is a chain of parents in the model. A search that ends without a report has shown that parents cannot be followed for ever,
so that no chain of parents in the model repeats a graph.
-/

namespace NavGen.Model

/-- Whether a graph of the first name is nested in a graph type of the second. Parents are followed by qualified names. -/
def HasParent (model : Model) (child parent : String) : Prop :=
  ∃ graph ∈ model.graphs, graph.type.qualified = child ∧ graph.parent?.map (·.qualified) = some parent

/-! ## Looking graphs up by name -/

theorem graphNamed?_eq_none_iff (model : Model) (qualified : String) :
    model.graphNamed? qualified = none ↔ qualified ∉ model.graphNames := by
  rw [graphNamed?, find?_key_eq_none, List.map_reverse, List.mem_reverse, graphNames]

/-- What a search by name gives is a graph of the model that has the name. -/
theorem mem_of_graphNamed? {model : Model} {qualified : String} {graph : Graph}
    (h : model.graphNamed? qualified = some graph) : graph ∈ model.graphs ∧ graph.type.qualified = qualified := by
  obtain ⟨hmem, hname⟩ := mem_of_find?_key h
  exact ⟨List.mem_reverse.1 hmem, hname⟩

/-- When the names of graphs are distinct, a graph of the model and its parent are a step, and the only one from its name. -/
theorem hasParent_iff {model : Model} (hnames : model.graphNames.Nodup) {graph : Graph} (hmem : graph ∈ model.graphs)
    {parent : String} :
    model.HasParent graph.type.qualified parent ↔ graph.parent?.map (·.qualified) = some parent := by
  constructor
  · rintro ⟨other, homem, hname, hparent⟩
    have heq : other = graph := List.inj_on_of_nodup_map hnames homem hmem hname
    rw [← heq]
    exact hparent
  · intro hparent
    exact ⟨graph, hmem, rfl, hparent⟩

/-! ## What the search reports -/

/-- A chain of parents that ends in a graph stays one when the parent of the graph is added. -/
theorem isChain_concat_parent {model : Model} {chain : List String} {current : Graph} {parent : Name}
    (hmem : current ∈ model.graphs) (hlast : chain.getLast? = some current.type.qualified)
    (hchain : chain.IsChain model.HasParent) (hparent : current.parent? = some parent) :
    (chain ++ [parent.qualified]).IsChain model.HasParent := by
  refine List.isChain_append.2 ⟨hchain, List.isChain_singleton _, ?_⟩
  intro last hlast' next hnext
  rw [hlast, Option.mem_some_iff] at hlast'
  rw [List.head?_singleton, Option.mem_some_iff] at hnext
  subst hlast' hnext
  exact ⟨current, hmem, rfl, by rw [hparent, Option.map_some]⟩

/-- The search goes on along parents: if it comes back to a graph, then the chain that it started with, carried on to the graph that it comes
back to, is a chain of parents, and that graph is on it. -/
theorem isChain_of_parentCycleFrom? {model : Model} {pending chain found : List String} {current : Graph} {again : String}
    (hmem : current ∈ model.graphs) (hlast : chain.getLast? = some current.type.qualified)
    (hchain : chain.IsChain model.HasParent) (h : model.parentCycleFrom? pending chain current = some (found, again)) :
    (found ++ [again]).IsChain model.HasParent ∧ again ∈ found := by
  fun_induction parentCycleFrom? model pending chain current with
  | case1 | case3 | case5 => contradiction
  | case2 pending chain current parent hparent hcontains =>
    simp only [Option.some.injEq, Prod.mk.injEq] at h
    obtain ⟨rfl, rfl⟩ := h
    exact ⟨isChain_concat_parent hmem hlast hchain hparent, by simpa using hcontains⟩
  | case4 pending chain current parent hparent hcontains next hnext hpending ih =>
    obtain ⟨hnextMem, hnextName⟩ := mem_of_graphNamed? hnext
    refine ih hnextMem ?_ (isChain_concat_parent hmem hlast hchain hparent) h
    rw [List.getLast?_concat, hnextName]

/-! ## What the search rules out -/

/-- The only way on from the name of a graph is its parent: if parents can be followed only finitely often from there, then also from the
graph. -/
theorem acc_of_parent {model : Model} (hnames : model.graphNames.Nodup) {graph : Graph} (hmem : graph ∈ model.graphs)
    (hparent : ∀ parent : Name, graph.parent? = some parent →
      Acc (fun parent child => model.HasParent child parent) parent.qualified) :
    Acc (fun parent child => model.HasParent child parent) graph.type.qualified := by
  refine Acc.intro _ fun name hname => ?_
  obtain ⟨parent, hsome, rfl⟩ := Option.map_eq_some_iff.1 ((hasParent_iff hnames hmem).1 hname)
  exact hparent parent hsome

/-- From a name that no graph has there is no way on. -/
theorem acc_of_not_mem_graphNames {model : Model} {name : String} (h : name ∉ model.graphNames) :
    Acc (fun parent child => model.HasParent child parent) name := by
  refine Acc.intro _ ?_
  rintro parent ⟨graph, hmem, rfl, -⟩
  exact absurd (List.mem_map_of_mem hmem) h

/-- If the search from a graph ends without a report, then parents can be followed from its name only finitely often. `pending` has to hold
all names of graphs that are not on the chain. -/
theorem acc_of_parentCycleFrom? {model : Model} (hnames : model.graphNames.Nodup) {pending chain : List String}
    {current : Graph} (hmem : current ∈ model.graphs)
    (hpending : ∀ name ∈ model.graphNames, name ∉ chain → name ∈ pending)
    (h : model.parentCycleFrom? pending chain current = none) :
    Acc (fun parent child => model.HasParent child parent) current.type.qualified := by
  fun_induction parentCycleFrom? model pending chain current with
  | case1 pending chain current hparent =>
    refine acc_of_parent hnames hmem fun parent hsome => ?_
    rw [hparent] at hsome
    contradiction
  | case2 => contradiction
  | case3 pending chain current parent hparent hcontains hnone =>
    refine acc_of_parent hnames hmem fun other hother => ?_
    obtain rfl : other = parent := Option.some.inj (hother.symm.trans hparent)
    exact acc_of_not_mem_graphNames ((graphNamed?_eq_none_iff model _).1 hnone)
  | case4 pending chain current parent hparent hcontains next hnext hin ih =>
    obtain ⟨hnextMem, hnextName⟩ := mem_of_graphNamed? hnext
    refine acc_of_parent hnames hmem fun other hother => ?_
    obtain rfl : other = parent := Option.some.inj (hother.symm.trans hparent)
    rw [← hnextName]
    refine ih hnextMem (fun name hname hchain => ?_) h
    rw [List.mem_append, List.mem_singleton, not_or] at hchain
    exact List.mem_filter.2 ⟨hpending name hname hchain.1, by simpa using hchain.2⟩
  | case5 pending chain current parent hparent hcontains next hnext hout =>
    -- a graph that is not on the chain is pending
    obtain ⟨hnextMem, hnextName⟩ := mem_of_graphNamed? hnext
    exact absurd (hpending _ (hnextName ▸ List.mem_map_of_mem hnextMem) (by simpa using hcontains)) hout

/-- If no chain of parents from a graph comes back, then parents can be followed from its name only finitely often. -/
theorem acc_of_parentCycle? {model : Model} (hnames : model.graphNames.Nodup) {graph : Graph} (hmem : graph ∈ model.graphs)
    (h : model.parentCycle? graph = none) : Acc (fun parent child => model.HasParent child parent) graph.type.qualified := by
  refine acc_of_parentCycleFrom? hnames hmem (fun other hother hchain => ?_) h
  exact List.mem_filter.2 ⟨hother, by simpa using hchain⟩

/-- If the search finds nothing from any graph, then parents cannot be followed for ever from any name. -/
theorem wellFounded_hasParent {model : Model} (hnames : model.graphNames.Nodup)
    (h : ∀ graph ∈ model.graphs, model.parentCycle? graph = none) :
    WellFounded fun parent child => model.HasParent child parent := by
  refine ⟨fun name => ?_⟩
  by_cases hname : name ∈ model.graphNames
  · obtain ⟨graph, hmem, rfl⟩ := List.mem_map.1 hname
    exact acc_of_parentCycle? hnames hmem (h graph hmem)
  · exact acc_of_not_mem_graphNames hname

/-- Where parents cannot be followed for ever, no chain of them repeats a graph. -/
theorem nodup_of_isChain_hasParent {model : Model} (h : WellFounded fun parent child => model.HasParent child parent)
    {chain : List String} (hchain : chain.IsChain model.HasParent) : chain.Nodup := by
  have hpairwise : chain.Pairwise (Relation.TransGen model.HasParent) :=
    List.isChain_iff_pairwise.1 (hchain.imp fun _ _ => Relation.TransGen.single)
  refine hpairwise.imp ?_
  rintro name _ hstep rfl
  exact h.transGen.irrefl.irrefl name (Relation.transGen_swap.2 hstep)

/-- When the names of graphs are distinct, the search finds nothing from any graph exactly if no chain of parents repeats a graph. -/
theorem parentCycle?_eq_none_iff {model : Model} (hnames : model.graphNames.Nodup) :
    (∀ graph ∈ model.graphs, model.parentCycle? graph = none) ↔
      ∀ chain : List String, chain.IsChain model.HasParent → chain.Nodup := by
  constructor
  · intro h chain hchain
    exact nodup_of_isChain_hasParent (wellFounded_hasParent hnames h) hchain
  · intro h graph hmem
    refine Option.eq_none_iff_forall_ne_some.2 ?_
    rintro ⟨found, again⟩ hsome
    obtain ⟨hchain, hagain⟩ := isChain_of_parentCycleFrom? hmem rfl (List.isChain_singleton _) hsome
    have hnodup := h _ hchain
    rw [List.nodup_append] at hnodup
    exact hnodup.2.2 again hagain again (List.mem_singleton_self again) rfl

/-- A cycle is passed over only if one with the same graphs was reported: nothing is reported exactly if no search finds a cycle. -/
theorem parentCycles_eq_nil_iff (model : Model) (graphs : List Graph) :
    model.parentCycles [] graphs = [] ↔ ∀ graph ∈ graphs, model.parentCycle? graph = none := by
  induction graphs with
  | nil => simp [parentCycles]
  | cons graph rest ih =>
    rw [parentCycles, List.forall_mem_cons]
    cases hcycle : model.parentCycle? graph with
    | none => simpa using ih
    | some found => simp

end NavGen.Model
