import NavGen.Check.Model
import NavGen.Proofs.Check.ParentCycles

/-!
# The search along parents

From each graph the check follows parents by name until there is none, or one that is no graph of the model, or one that is on the chain already. Nothing
counts its steps. It comes to an end because a name that is added to the chain is the name of a graph and was not on the chain before, and there are only
so many names of graphs. This holds of all models, also of those in which several graphs have the same type, so that the graph a search starts from need
not be the one that its name leads to.

What is reported of a search that came back are the names that it came by, each of them the parent of the graph before it.
-/

namespace NavGen

/-- Where a search along parents stands: the names on its chain, and the graph whose parent is looked at next. -/
structure ParentSearch where
  chain : List String
  current : Graph

namespace ParentSearch

/-- The search from a graph, before the first look. -/
def start (graph : Graph) : ParentSearch :=
  { chain := [graph.type.qualified], current := graph }

/-- What comes of a look at a parent. -/
inductive Look where
  /-- There is no parent, or it is no graph of the model. -/
  | over
  /-- The parent is on the chain. -/
  | back (again : String)
  /-- The parent is added to the chain. -/
  | on (next : ParentSearch)

/-- Looks at the parent of the current graph. -/
def look (model : Model) (search : ParentSearch) : Look :=
  match search.current.parent? with
  | none => .over
  | some parent =>
    if parent.qualified ∈ search.chain then .back parent.qualified
    else
      match model.graphNamed? parent.qualified with
      | none => .over
      | some next => .on { chain := search.chain ++ [parent.qualified], current := next }

/-- Whether a search goes on after a look. -/
def GoesOn (model : Model) (search next : ParentSearch) : Prop :=
  search.look model = .on next

/-- Whether a search comes to an end, with a chain and the name on it that it comes back to, or with nothing. -/
def EndsWith (model : Model) (search : ParentSearch) (found? : Option (List String × String)) : Prop :=
  ∃ last, Relation.ReflTransGen (GoesOn model) search last ∧
    match last.look model with
    | .over => found? = none
    | .back again => found? = some (last.chain, again)
    | .on _ => False

variable {model : Model} {search next : ParentSearch}

/-- A search goes on to the parent of its current graph, if that is the name of a graph that is not on the chain. -/
theorem goesOn_iff :
    GoesOn model search next ↔
      ∃ parent, search.current.parent? = some parent ∧ parent.qualified ∉ search.chain ∧
        model.graphNamed? parent.qualified = some next.current ∧ next.chain = search.chain ++ [parent.qualified] := by
  obtain ⟨chain, current⟩ := next
  rw [GoesOn, look]
  cases hparent : search.current.parent? with
  | none => simp
  | some parent =>
    by_cases hmem : parent.qualified ∈ search.chain
    · simp [hmem]
    · cases hnamed : model.graphNamed? parent.qualified with
      | none => simp [hmem, hnamed]
      | some graph =>
        simp only [if_neg hmem, hnamed, Look.on.injEq, mk.injEq, Option.some.injEq]
        constructor
        · rintro ⟨rfl, rfl⟩
          exact ⟨parent, rfl, hmem, hnamed, rfl⟩
        · rintro ⟨_, rfl, -, hcurrent, rfl⟩
          exact ⟨rfl, Option.some.inj (hnamed.symm.trans hcurrent)⟩

/-! ## How a search ends -/

/-- The names of graphs that are not on the chain of a search. -/
def remaining (model : Model) (search : ParentSearch) : List String :=
  model.graphNames.filter (· ∉ search.chain)

/-- With each look that goes on, fewer names remain. -/
theorem length_remaining_lt (h : GoesOn model search next) : (remaining model next).length < (remaining model search).length := by
  obtain ⟨parent, -, hnew, hnamed, hchain⟩ := goesOn_iff.1 h
  obtain ⟨hmem, hname⟩ := Model.mem_of_graphNamed? hnamed
  have hparent : parent.qualified ∈ remaining model search := by
    refine List.mem_filter.2 ⟨?_, by simpa using hnew⟩
    rw [← hname]
    exact List.mem_map_of_mem hmem
  have hwithout : remaining model next = without (remaining model search) parent.qualified := by
    rw [remaining, remaining, without, List.filter_filter, hchain]
    refine List.filter_congr fun name _ => ?_
    by_cases hon : name ∈ search.chain <;> by_cases heq : name = parent.qualified <;> simp [hon, heq]
  rw [hwithout]
  exact length_without_lt hparent

/-- No search goes on for ever, wherever it starts. -/
theorem wellFounded_goesOn (model : Model) : WellFounded fun next search => GoesOn model search next :=
  Subrelation.wf (fun h => length_remaining_lt h) (InvImage.wf (fun search => (remaining model search).length) Nat.lt_wfRel.wf)

/-- A search whose last look does not go on ends there. -/
theorem endsWith_of_look {found? : Option (List String × String)}
    (h : match search.look model with
      | .over => found? = none
      | .back again => found? = some (search.chain, again)
      | .on _ => False) : EndsWith model search found? :=
  ⟨search, .refl, h⟩

theorem EndsWith.head {found? : Option (List String × String)} (h : EndsWith model next found?) (hstep : GoesOn model search next) :
    EndsWith model search found? := by
  obtain ⟨last, hreach, hlook⟩ := h
  exact ⟨last, .head hstep hreach, hlook⟩

/-- The check looks at one parent after the other and finds what the last look says. The names that it keeps as pending never hold it up, as long as they
are those that are not on the chain. -/
theorem endsWith_parentCycleFrom? {pending chain : List String} {current : Graph}
    (hpending : ∀ name ∈ model.graphNames, name ∉ chain → name ∈ pending) :
    EndsWith model ⟨chain, current⟩ (model.parentCycleFrom? pending chain current) := by
  fun_induction Model.parentCycleFrom? model pending chain current with
  | case1 pending chain current hparent =>
    refine endsWith_of_look ?_
    simp [look, hparent]
  | case2 pending chain current parent hparent hcontains =>
    have hmem : parent.qualified ∈ chain := by simpa using hcontains
    refine endsWith_of_look ?_
    simp [look, hparent, hmem]
  | case3 pending chain current parent hparent hcontains hnone =>
    have hnew : parent.qualified ∉ chain := by simpa using hcontains
    refine endsWith_of_look ?_
    simp [look, hparent, hnew, hnone]
  | case4 pending chain current parent hparent hcontains next hnext hin ih =>
    have hnew : parent.qualified ∉ chain := by simpa using hcontains
    refine EndsWith.head (ih ?_) (goesOn_iff.2 ⟨parent, hparent, hnew, hnext, rfl⟩)
    intro name hname hoff
    rw [List.mem_append, List.mem_singleton, not_or] at hoff
    exact List.mem_filter.2 ⟨hpending name hname hoff.1, by simpa using hoff.2⟩
  | case5 pending chain current parent hparent hcontains next hnext hout =>
    have hnew : parent.qualified ∉ chain := by simpa using hcontains
    obtain ⟨hmem, hname⟩ := Model.mem_of_graphNamed? hnext
    exact absurd (hpending _ (hname ▸ List.mem_map_of_mem hmem) hnew) hout

theorem endsWith_parentCycle? (model : Model) (graph : Graph) : EndsWith model (start graph) (model.parentCycle? graph) := by
  refine endsWith_parentCycleFrom? fun name hname hoff => ?_
  exact List.mem_filter.2 ⟨hname, by simpa using hoff⟩

/-! ## What a search came by -/

/-- The graph that a name on a chain stands for: the first for the graph that the search started from, any other for the last graph with that name. -/
def holder? (model : Model) (graph : Graph) (names : List String) : Nat → Option Graph
  | 0 => some graph
  | i + 1 => names[i + 1]?.bind model.graphNamed?

/-- Whether, after distinct names, the parents from a graph come back to one of these names. -/
structure ComesBack (model : Model) (graph : Graph) (names : List String) (again : String) : Prop where
  first : names.head? = some graph.type.qualified
  distinct : names.Nodup
  back : again ∈ names
  /-- Behind each name stands the parent of the graph that the name stands for. -/
  parents : ∀ i < names.length, ∃ holder, holder? model graph names i = some holder ∧
    holder.parent?.map (·.qualified) = (names ++ [again])[i + 1]?

/-- What holds of a search all along. -/
structure Traced (model : Model) (graph : Graph) (search : ParentSearch) : Prop where
  first : search.chain.head? = some graph.type.qualified
  distinct : search.chain.Nodup
  current : holder? model graph search.chain (search.chain.length - 1) = some search.current
  parents : ∀ i, i + 1 < search.chain.length → ∃ holder, holder? model graph search.chain i = some holder ∧
    holder.parent?.map (·.qualified) = search.chain[i + 1]?

variable {graph : Graph}

theorem holder?_append {names : List String} {i : Nat} (h : i < names.length) (more : List String) :
    holder? model graph (names ++ more) i = holder? model graph names i := by
  cases i with
  | zero => rfl
  | succ i => rw [holder?, holder?, List.getElem?_append_left h]

theorem traced_start (model : Model) (graph : Graph) : Traced model graph (start graph) where
  first := rfl
  distinct := List.nodup_singleton _
  current := rfl
  parents i h := by
    simp [start] at h

theorem Traced.length_pos (h : Traced model graph search) : 0 < search.chain.length := by
  have hfirst := h.first
  cases hchain : search.chain with
  | nil => simp [hchain] at hfirst
  | cons _ _ => simp

/-- With the parent of the current graph behind it, the chain has a parent behind each name. -/
theorem Traced.parents_append (h : Traced model graph search) {parent : Name} (hparent : search.current.parent? = some parent) :
    ∀ i < search.chain.length, ∃ holder, holder? model graph search.chain i = some holder ∧
      holder.parent?.map (·.qualified) = (search.chain ++ [parent.qualified])[i + 1]? := by
  intro i hi
  have hpos := h.length_pos
  by_cases hlast : i + 1 < search.chain.length
  · rw [List.getElem?_append_left hlast]
    exact h.parents i hlast
  · obtain rfl : i = search.chain.length - 1 := by omega
    refine ⟨search.current, h.current, ?_⟩
    rw [hparent, Nat.sub_add_cancel hpos, List.getElem?_concat_length]
    rfl

/-- One look keeps what holds of a search. -/
theorem Traced.goesOn (h : Traced model graph search) (hstep : GoesOn model search next) : Traced model graph next := by
  obtain ⟨parent, hparent, hnew, hnamed, hchain⟩ := goesOn_iff.1 hstep
  have hpos := h.length_pos
  refine ⟨?_, ?_, ?_, ?_⟩
  · rw [hchain, List.head?_append, h.first]
    rfl
  · rw [hchain, List.nodup_append]
    refine ⟨h.distinct, List.nodup_singleton _, ?_⟩
    rintro name hname other hother rfl
    exact hnew (List.mem_singleton.1 hother ▸ hname)
  · obtain ⟨last, hlast⟩ : ∃ last, search.chain.length = last + 1 := ⟨search.chain.length - 1, by omega⟩
    rw [hchain, List.length_append, List.length_singleton, Nat.add_sub_cancel, hlast, holder?, ← hlast, List.getElem?_concat_length,
      Option.bind_some, hnamed]
  · intro i hi
    rw [hchain, List.length_append, List.length_singleton, Nat.add_lt_add_iff_right] at hi
    rw [hchain, holder?_append hi]
    exact h.parents_append hparent i hi

/-- So a whole search does. -/
theorem traced_of_reaches (h : Relation.ReflTransGen (GoesOn model) (start graph) search) : Traced model graph search := by
  induction h with
  | refl => exact traced_start model graph
  | tail _ hstep ih => exact ih.goesOn hstep

/-- A search that ends with a chain has come back to it. -/
theorem comesBack_of_endsWith {names : List String} {again : String} (h : EndsWith model (start graph) (some (names, again))) :
    ComesBack model graph names again := by
  obtain ⟨last, hreach, hlook⟩ := h
  have htraced := traced_of_reaches hreach
  unfold look at hlook
  cases hparent : last.current.parent? with
  | none => simp [hparent] at hlook
  | some parent =>
    by_cases hmem : parent.qualified ∈ last.chain
    · simp only [hparent, if_pos hmem, Option.some.injEq, Prod.mk.injEq] at hlook
      obtain ⟨rfl, rfl⟩ := hlook
      exact ⟨htraced.first, htraced.distinct, hmem, htraced.parents_append hparent⟩
    · cases hnamed : model.graphNamed? parent.qualified <;> simp [hparent, hmem, hnamed] at hlook

end ParentSearch

/-! ## What is reported -/

namespace Model

open ParentSearch

variable {model : Model}

/-- Nothing that is found of a destination is that parents run in circles. -/
theorem isParentCycle_of_mem_destinationFindings {destination : Destination} {finding : Finding}
    (h : finding ∈ model.destinationFindings destination) : finding.fault.isParentCycle = false := by
  have hrepeated : ∀ (seen : List String) (arguments : List Argument), ∀ fault ∈ repeatedArguments seen arguments,
      fault.isParentCycle = false := by
    intro seen arguments
    induction arguments generalizing seen with
    | nil => exact fun _ h => absurd h List.not_mem_nil
    | cons argument rest ih =>
      intro fault hmem
      rw [repeatedArguments, List.mem_append] at hmem
      rcases hmem with hmem | hmem
      · split at hmem
        · rw [List.mem_singleton.1 hmem]
          rfl
        · contradiction
      · exact ih _ fault hmem
  obtain ⟨fault, hfault, rfl⟩ := List.mem_map.1 h
  rw [destinationFaults, List.mem_append, List.mem_append, List.mem_flatMap] at hfault
  rcases hfault with (hfault | ⟨link, -, hfault⟩) | hfault
  · exact hrepeated _ _ fault hfault
  · grind [Destination.deepLinkFaults, Fault.isParentCycle]
  · grind [Fault.isParentCycle]

/-- Nor is what is found by looking for something, if it says something else whatever is found. -/
theorem isParentCycle_of_mem_map {α : Type} {found? : Option α} {item : α → Finding} (hitem : ∀ a, (item a).fault.isParentCycle = false)
    {finding : Finding} (h : finding ∈ (found?.map item).toList) : finding.fault.isParentCycle = false := by
  obtain ⟨a, -, rfl⟩ := Option.map_eq_some_iff.1 (Option.mem_toList.1 h)
  exact hitem a

/-- Nor is anything that is found of a route. -/
theorem isParentCycle_of_mem_routeFindings {earlier : List (String × String)} {route declaration : String} {finding : Finding}
    (h : finding ∈ routeFindings earlier route declaration) : finding.fault.isParentCycle = false := by
  obtain ⟨fault, hfault, rfl⟩ := List.mem_map.1 h
  rw [List.mem_append, Option.mem_toList, Option.mem_toList] at hfault
  rcases hfault with hfault | hfault
  · unfold routeFault? at hfault
    split at hfault
    · obtain rfl := Option.some.inj hfault
      rfl
    · obtain ⟨reserved, -, rfl⟩ := Option.map_eq_some_iff.1 hfault
      rfl
  · obtain ⟨other, -, rfl⟩ := Option.map_eq_some_iff.1 hfault
    rfl

/-- Nor is anything that is found of the names of a model. -/
theorem isParentCycle_of_mem_nameFindings {finding : Finding} (h : finding ∈ model.nameFindings) : finding.fault.isParentCycle = false := by
  rw [nameFindings, List.mem_append, List.mem_append] at h
  rcases h with (h | h) | h
  · generalize model.destinations = destinations, ([] : List Destination) = earlier at h
    induction destinations generalizing earlier with
    | nil => contradiction
    | cons destination rest ih =>
      rw [destinationNameFindings, List.mem_append, List.mem_append] at h
      rcases h with (h | h) | h
      · exact isParentCycle_of_mem_map (fun _ => rfl) h
      · exact isParentCycle_of_mem_routeFindings h
      · exact ih _ h
  · generalize model.graphs = graphs, ([] : List Graph) = earlier at h
    induction graphs generalizing earlier with
    | nil => contradiction
    | cons graph rest ih =>
      rw [graphNameFindings, List.mem_append, List.mem_append] at h
      rcases h with (h | h) | h
      · exact isParentCycle_of_mem_routeFindings h
      · exact isParentCycle_of_mem_map (fun _ => rfl) h
      · exact ih _ h
  · generalize model.valueTypes = types, ([] : List ValueType) = earlier at h
    induction types generalizing earlier with
    | nil => contradiction
    | cons type rest ih =>
      rw [navTypeNameFindings, List.mem_append] at h
      rcases h with h | h
      · exact isParentCycle_of_mem_map (fun _ => rfl) h
      · exact ih _ h

/-- A finding that parents run in circles is about a search from a graph of the model. -/
theorem exists_graph_of_isParentCycle {finding : Finding} (hmem : finding ∈ model.findings) (hfault : finding.fault.isParentCycle = true) :
    ∃ graph ∈ model.graphs, ∃ names again, model.parentCycle? graph = some (names, again) ∧
      finding = ⟨graph.type.qualified, .parentCycle names again⟩ := by
  have hcycle : finding ∈ model.cycleFindings := by
    refine List.mem_filter.2 ⟨?_, hfault⟩
    rw [findings, List.mem_append, List.mem_append] at hmem
    rcases hmem with (hmem | hmem) | hmem
    · obtain ⟨destination, -, hmem⟩ := List.mem_flatMap.1 hmem
      rw [isParentCycle_of_mem_destinationFindings hmem] at hfault
      contradiction
    · exact hmem
    · rw [isParentCycle_of_mem_nameFindings hmem] at hfault
      contradiction
  rw [cycleFindings_eq] at hcycle
  obtain ⟨walk, hreported, rfl⟩ := List.mem_map.1 hcycle
  obtain ⟨graph, hgraph, hwalk⟩ := List.mem_filterMap.1 (mem_parentWalks_of_mem_reportedWalks hreported)
  obtain ⟨⟨names, again⟩, hfound, rfl⟩ := Option.map_eq_some_iff.1 hwalk
  exact ⟨graph, hgraph, names, again, hfound, rfl⟩

/-- No search along parents goes on for ever. From each graph it ends with what the check takes it to find, and each problem that parents run in circles
names the parents from a graph of the model up to the first that comes back. -/
theorem parentSearch_exact (model : Model) :
    WellFounded (fun next search => GoesOn model search next) ∧
      (∀ graph, EndsWith model (start graph) (model.parentCycle? graph)) ∧
        ∀ finding ∈ model.findings, finding.fault.isParentCycle = true →
          ∃ graph ∈ model.graphs, ∃ names again, ComesBack model graph names again ∧
            finding.problem = {
              kind := .validation
              declaration := graph.type.qualified
              message := "nav graph parent cycle: " ++ " -> ".intercalate (names ++ [again]) } := by
  refine ⟨wellFounded_goesOn model, endsWith_parentCycle? model, fun finding hmem hfault => ?_⟩
  obtain ⟨graph, hgraph, names, again, hfound, rfl⟩ := exists_graph_of_isParentCycle hmem hfault
  have hends := endsWith_parentCycle? model graph
  rw [hfound] at hends
  exact ⟨graph, hgraph, names, again, comesBack_of_endsWith hends, rfl⟩

/-- Two graphs of one type, the first of which is nested in a circle of two others, and the second in itself. -/
def entryTwice : Model :=
  withLoop [graphInside "app.OddGraph" "app.EntryGraph", graphInside "app.EntryGraph" "app.EntryGraph"]

/-- The search from the first graph of the type leads into the circle, although the name of the type leads to the second. -/
theorem parentSearch_exact_entryTwice :
    ¬entryTwice.graphNames.Nodup ∧
      ∃ finding ∈ entryTwice.findings, finding.fault.isParentCycle = true ∧
        finding.problem.message = "nav graph parent cycle: app.EntryGraph -> app.OddGraph -> app.EvenGraph -> app.OddGraph" ∧
          ∃ graph ∈ entryTwice.graphs, ∃ names again, ComesBack entryTwice graph names again ∧
            finding.problem.message = "nav graph parent cycle: " ++ " -> ".intercalate (names ++ [again]) := by
  have hfound : entryTwice.findings.any (fun finding => decide (finding.fault.isParentCycle = true ∧ finding.problem.message =
      "nav graph parent cycle: app.EntryGraph -> app.OddGraph -> app.EvenGraph -> app.OddGraph")) = true := by decide +kernel
  obtain ⟨finding, hmem, hfinding⟩ := List.any_eq_true.1 hfound
  obtain ⟨hfault, hmessage⟩ := of_decide_eq_true hfinding
  obtain ⟨graph, hgraph, names, again, hback, hproblem⟩ := (parentSearch_exact entryTwice).2.2 finding hmem hfault
  refine ⟨by decide +kernel, finding, hmem, hfault, hmessage, graph, hgraph, names, again, hback, ?_⟩
  rw [hproblem]

end Model

end NavGen
