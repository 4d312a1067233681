import Mathlib.Data.Set.Card
import NavGen.Proofs.Check.ParentChains
import NavGen.Proofs.FirstOfEach
import NavGen.Proofs.Order
import NavGen.Proofs.ReturningWalks

/-!
# Each cycle of parents once

A cycle of parents is met from each of its graphs, and from each graph whose parents lead into it. The check reports a walk unless it has reported one
over the same graphs. Walks from the graphs of a cycle are over the same graphs, so one of them is reported; but a walk that leads into the cycle is
over more graphs, and no other walk is over the same, so it is reported as well. There are as many findings as cycles and graphs that lead into one,
and each cycle is reported once exactly if there are no such graphs.
-/

namespace NavGen

/-- Whether a fault is that parents run in circles. -/
def Fault.isParentCycle : Fault → Bool
  | .parentCycle _ _ => true
  | _ => false

/-- A walk along parents that comes back to a graph, as it is reported. -/
structure ParentWalk where
  start : String
  chain : List String
  again : String
  deriving DecidableEq

/-- A list of distinct items has as many as there are. -/
theorem encard_setOf_mem {α : Type} {items : List α} (h : items.Nodup) : {item | item ∈ items}.encard = items.length := by
  classical
  rw [← List.coe_toFinset, Set.encard_coe_eq_coe_finsetCard, List.toFinset_card_of_nodup h]

namespace ParentWalk

/-- What walks are compared by before they are reported. -/
def members (walk : ParentWalk) : List String :=
  sortBy textLe walk.chain

def finding (walk : ParentWalk) : Finding :=
  ⟨walk.start, .parentCycle walk.chain walk.again⟩

/-- Walks compare equal if they are over the same graphs. -/
theorem members_eq_iff (walk other : ParentWalk) : walk.members = other.members ↔ walk.chain.Perm other.chain := by
  constructor
  · intro h
    have hperm : walk.chain.Perm walk.members := (perm_sortBy walk.chain).symm
    rw [h] at hperm
    exact hperm.trans (perm_sortBy other.chain)
  · intro h
    exact sortBy_eq_of_perm textLe_total textLe_trans h fun _ _ _ _ => textLe_antisymm

end ParentWalk

namespace Model

/-- The findings that parents run in circles. -/
def cycleFindings (model : Model) : List Finding :=
  model.graphFindings.filter (·.fault.isParentCycle)

/-- Whether each cycle of parents is reported once, and at one of its graphs. -/
structure ReportsCyclesOnce (model : Model) : Prop where
  count : (model.cycleFindings.length : ℕ∞) = {cycle | IsCycleOf model.HasParent cycle}.encard
  attributed : ∀ finding ∈ model.cycleFindings, ∀ chain again, finding.fault = .parentCycle chain again →
    ∃ cycle, IsCycleOf model.HasParent cycle ∧ again ∈ cycle ∧ finding.declaration ∈ cycle

/-- The walk along parents from a graph, if it comes back. -/
def parentWalk? (model : Model) (graph : Graph) : Option ParentWalk :=
  (model.parentCycle? graph).map fun found => ⟨graph.type.qualified, found.1, found.2⟩

def parentWalks (model : Model) : List ParentWalk :=
  model.graphs.filterMap model.parentWalk?

/-- The walks that are reported. -/
def reportedWalks (model : Model) : List ParentWalk :=
  firstOfEach ParentWalk.members [] model.parentWalks

variable {model : Model}

/-! ## What is reported -/

theorem parentCycles_eq (reported : List (List String)) (graphs : List Graph) :
    model.parentCycles reported graphs = (firstOfEach ParentWalk.members reported (graphs.filterMap model.parentWalk?)).map ParentWalk.finding := by
  induction graphs generalizing reported with
  | nil => rfl
  | cons graph rest ih =>
    rw [parentCycles, List.filterMap_cons, parentWalk?]
    cases model.parentCycle? graph with
    | none => exact ih reported
    | some found =>
      dsimp only [Option.map_some]
      have hmembers : ParentWalk.members ⟨graph.type.qualified, found.1, found.2⟩ = sortBy textLe found.1 := rfl
      by_cases hreported : sortBy textLe found.1 ∈ reported
      · rw [firstOfEach, hmembers, if_pos hreported, if_pos (List.contains_iff_mem.2 hreported), ih]
      · rw [firstOfEach, hmembers, if_neg hreported, if_neg (mt List.contains_iff_mem.1 hreported), List.map_cons, ih]
        rfl

theorem isParentCycle_of_mem_graphFaults {graph : Graph} {fault : Fault} (h : fault ∈ model.graphFaults graph) :
    fault.isParentCycle = false := by
  rw [graphFaults, List.mem_append, List.mem_append, List.mem_append] at h
  rcases h with ((h | h) | h) | h
  · grind [parentFaults, Fault.isParentCycle]
  · grind [markedStartFaults, Fault.isParentCycle]
  · grind [startFaults, Fault.isParentCycle]
  · grind [Fault.isParentCycle]

theorem isParentCycle_of_mem_repeatedGraphs {seen : List String} {graphs : List Graph} {finding : Finding}
    (h : finding ∈ repeatedGraphs seen graphs) : finding.fault.isParentCycle = false := by
  induction graphs generalizing seen with
  | nil => contradiction
  | cons graph rest ih =>
    rw [repeatedGraphs, List.mem_append] at h
    rcases h with h | h
    · split at h
      · rw [List.mem_singleton.1 h]
        rfl
      · contradiction
    · exact ih h

theorem isParentCycle_of_mem_defaultFindings {finding : Finding} (h : finding ∈ model.defaultFindings) : finding.fault.isParentCycle = false := by
  rw [defaultFindings, List.mem_append] at h
  rcases h with h | h
  · split at h
    · rw [List.mem_singleton.1 h]
      rfl
    · contradiction
  · obtain ⟨graph, -, rfl⟩ := List.mem_map.1 h
    rfl

/-- All findings that parents run in circles come from following them. -/
theorem cycleFindings_eq (model : Model) : model.cycleFindings = model.reportedWalks.map ParentWalk.finding := by
  have hnone {findings : List Finding} (h : ∀ finding ∈ findings, finding.fault.isParentCycle = false) :
      findings.filter (·.fault.isParentCycle) = [] :=
    List.filter_eq_nil_iff.2 fun finding hmem => Bool.not_eq_true _ ▸ h finding hmem
  have hfaults : ∀ finding ∈ model.graphs.flatMap (fun graph => (model.graphFaults graph).map (Finding.mk graph.type.qualified)),
      finding.fault.isParentCycle = false := by
    intro finding hmem
    obtain ⟨graph, -, hfound⟩ := List.mem_flatMap.1 hmem
    obtain ⟨fault, hfault, rfl⟩ := List.mem_map.1 hfound
    exact isParentCycle_of_mem_graphFaults hfault
  rw [cycleFindings, graphFindings, List.filter_append, List.filter_append, List.filter_append, hnone fun _ => isParentCycle_of_mem_repeatedGraphs,
    hnone hfaults, hnone fun _ => isParentCycle_of_mem_defaultFindings, List.nil_append, List.nil_append, List.append_nil, parentCycles_eq]
  refine List.filter_eq_self.2 fun finding hmem => ?_
  obtain ⟨walk, -, rfl⟩ := List.mem_map.1 hmem
  rfl

/-! ## Walks along parents -/

theorem rightUnique_hasParent (hnames : model.graphNames.Nodup) : Relator.RightUnique model.HasParent := by
  rintro _ parent other ⟨graph, hmem, rfl, hparent⟩ hother
  rw [hasParent_iff hnames hmem, hparent] at hother
  exact Option.some.inj hother

/-- The search goes on along different graphs. -/
theorem isPrefix_of_parentCycleFrom? {pending chain found : List String} {current : Graph} {again : String} (hdistinct : chain.Nodup)
    (h : model.parentCycleFrom? pending chain current = some (found, again)) : chain <+: found ∧ found.Nodup := by
  fun_induction parentCycleFrom? model pending chain current with
  | case1 | case3 | case5 => contradiction
  | case2 pending chain current parent hparent hcontains =>
    simp only [Option.some.injEq, Prod.mk.injEq] at h
    obtain ⟨rfl, -⟩ := h
    exact ⟨List.prefix_refl chain, hdistinct⟩
  | case4 pending chain current parent hparent hcontains next hnext hpending ih =>
    have hnew : parent.qualified ∉ chain := by simpa using hcontains
    obtain ⟨hbegins, hfound⟩ := ih (by simpa [List.nodup_append] using ⟨hdistinct, fun name hname heq => hnew (heq ▸ hname)⟩) h
    exact ⟨(List.prefix_append chain _).trans hbegins, hfound⟩

/-- What is reported of a graph is a walk along parents that starts there and comes back. -/
theorem returningWalk_of_mem {walk : ParentWalk} (hmem : walk ∈ model.parentWalks) :
    ∃ further, walk.chain = walk.start :: further ∧ ReturningWalk model.HasParent walk.start further walk.again := by
  obtain ⟨graph, hgraph, hwalk⟩ := List.mem_filterMap.1 hmem
  obtain ⟨⟨chain, again⟩, hfound, rfl⟩ := Option.map_eq_some_iff.1 hwalk
  obtain ⟨⟨further, rfl⟩, hdistinct⟩ := isPrefix_of_parentCycleFrom? (List.nodup_singleton _) hfound
  obtain ⟨hchain, hagain⟩ := isChain_of_parentCycleFrom? hgraph rfl (List.isChain_singleton _) hfound
  exact ⟨further, rfl, hdistinct, hchain, hagain⟩

/-- From each name that leads to a cycle there is a walk. -/
theorem exists_mem_parentWalks (hnames : model.graphNames.Nodup) {cycle : Cycle String} (hcycle : IsCycleOf model.HasParent cycle)
    {name member : String} (hmember : member ∈ cycle) (hreach : Relation.ReflTransGen model.HasParent name member) :
    ∃ walk ∈ model.parentWalks, walk.start = name := by
  have hforever := hcycle.not_acc hmember hreach
  have hname : name ∈ model.graphNames := by
    by_contra hunknown
    exact hforever (acc_of_not_mem_graphNames hunknown)
  obtain ⟨graph, hgraph, rfl⟩ := List.mem_map.1 hname
  obtain ⟨found, hfound⟩ := Option.ne_none_iff_exists'.1 fun hnone => hforever (acc_of_parentCycle? hnames hgraph hnone)
  exact ⟨_, List.mem_filterMap.2 ⟨graph, hgraph, Option.map_eq_some_iff.2 ⟨found, hfound, rfl⟩⟩, rfl⟩

/-- Walks start at different graphs. -/
theorem nodup_starts_parentWalks (hnames : model.graphNames.Nodup) : (model.parentWalks.map (·.start)).Nodup := by
  have hsublist (graphs : List Graph) :
      ((graphs.filterMap model.parentWalk?).map (·.start)).Sublist (graphs.map (·.type.qualified)) := by
    induction graphs with
    | nil => exact List.Sublist.slnil
    | cons graph rest ih =>
      rw [List.filterMap_cons, parentWalk?]
      cases model.parentCycle? graph with
      | none => exact ih.cons _
      | some found => exact ih.cons_cons _
  exact hnames.sublist (hsublist model.graphs)

/-! ## Which walks are reported -/

theorem mem_parentWalks_of_mem_reportedWalks {walk : ParentWalk} (hmem : walk ∈ model.reportedWalks) : walk ∈ model.parentWalks :=
  (firstOfEach_sublist _ _ _).mem hmem

/-- Of each walk, one over the same graphs is reported. -/
theorem exists_mem_reportedWalks {walk : ParentWalk} (hmem : walk ∈ model.parentWalks) :
    ∃ other ∈ model.reportedWalks, walk.chain.Perm other.chain := by
  have hmembers : walk.members ∈ model.reportedWalks.map ParentWalk.members :=
    mem_keys_firstOfEach.2 ⟨List.mem_map_of_mem hmem, List.not_mem_nil⟩
  obtain ⟨other, hother, heq⟩ := List.mem_map.1 hmembers
  exact ⟨other, hother, (walk.members_eq_iff other).1 heq.symm⟩

/-- A walk that starts on a cycle goes round it. -/
theorem chain_eq_of_mem (hnames : model.graphNames.Nodup) {walk : ParentWalk} (hmem : walk ∈ model.parentWalks) {cycle : Cycle String}
    (hcycle : IsCycleOf model.HasParent cycle) (hstart : walk.start ∈ cycle) :
    walk.again = walk.start ∧ (↑walk.chain : Cycle String) = cycle := by
  obtain ⟨further, hchain, hwalk⟩ := returningWalk_of_mem hmem
  rw [hchain]
  exact hwalk.eq_of_mem (rightUnique_hasParent hnames) hcycle hstart

/-- A walk that comes back to its start goes round a cycle. -/
theorem isCycleOf_chain {walk : ParentWalk} (hmem : walk ∈ model.parentWalks) (hagain : walk.again = walk.start) :
    IsCycleOf model.HasParent (↑walk.chain : Cycle String) := by
  obtain ⟨further, hchain, hwalk⟩ := returningWalk_of_mem hmem
  rw [hagain] at hwalk
  rw [hchain]
  exact returningWalk_start_iff.1 hwalk

/-- A walk starts outside the cycle that it leads into exactly if it comes back to another graph. -/
theorem leadsIntoCycle_start_iff (hnames : model.graphNames.Nodup) {walk : ParentWalk} (hmem : walk ∈ model.parentWalks) :
    LeadsIntoCycle model.HasParent walk.start ↔ walk.again ≠ walk.start := by
  obtain ⟨further, -, hwalk⟩ := returningWalk_of_mem hmem
  exact hwalk.leadsIntoCycle_iff (rightUnique_hasParent hnames)

/-- A walk that leads into a cycle is reported. -/
theorem mem_reportedWalks_of_ne (hnames : model.graphNames.Nodup) {walk : ParentWalk} (hmem : walk ∈ model.parentWalks)
    (hne : walk.again ≠ walk.start) : walk ∈ model.reportedWalks := by
  obtain ⟨other, hother, hperm⟩ := exists_mem_reportedWalks hmem
  have hotherMem := mem_parentWalks_of_mem_reportedWalks hother
  obtain ⟨further, hchain, hwalk⟩ := returningWalk_of_mem hmem
  obtain ⟨further', hchain', hwalk'⟩ := returningWalk_of_mem hotherMem
  rw [hchain, hchain'] at hperm
  have hstart := hwalk.start_eq_of_perm (rightUnique_hasParent hnames) hwalk' hperm hne
  rw [← List.inj_on_of_nodup_map (nodup_starts_parentWalks hnames) hotherMem hmem hstart]
  exact hother

/-! ## How many walks are reported -/

/-- The reported walks that come back to their starts. -/
def closedWalks (model : Model) : List ParentWalk :=
  model.reportedWalks.filter fun walk => walk.again == walk.start

/-- The reported walks that come back to another graph. -/
def openWalks (model : Model) : List ParentWalk :=
  model.reportedWalks.filter fun walk => !(walk.again == walk.start)

theorem mem_closedWalks {walk : ParentWalk} : walk ∈ model.closedWalks ↔ walk ∈ model.reportedWalks ∧ walk.again = walk.start := by
  rw [closedWalks, List.mem_filter, beq_iff_eq]

theorem mem_openWalks {walk : ParentWalk} : walk ∈ model.openWalks ↔ walk ∈ model.reportedWalks ∧ walk.again ≠ walk.start := by
  simp [openWalks]

/-- Every cycle is gone round by a reported walk, and nothing else is. -/
theorem mem_cycles_closedWalks (hnames : model.graphNames.Nodup) (cycle : Cycle String) :
    cycle ∈ model.closedWalks.map (fun walk => (↑walk.chain : Cycle String)) ↔ IsCycleOf model.HasParent cycle := by
  constructor
  · intro h
    obtain ⟨walk, hwalk, rfl⟩ := List.mem_map.1 h
    obtain ⟨hmem, hagain⟩ := mem_closedWalks.1 hwalk
    exact isCycleOf_chain (mem_parentWalks_of_mem_reportedWalks hmem) hagain
  · intro hcycle
    obtain ⟨member, hmember⟩ := hcycle.exists_mem
    obtain ⟨walk, hwalk, rfl⟩ := exists_mem_parentWalks hnames hcycle hmember .refl
    obtain ⟨-, rfl⟩ := chain_eq_of_mem hnames hwalk hcycle hmember
    -- the walk that is reported starts at a graph of the same cycle
    obtain ⟨other, hother, hperm⟩ := exists_mem_reportedWalks hwalk
    have hotherMem := mem_parentWalks_of_mem_reportedWalks hother
    obtain ⟨further, hchain, -⟩ := returningWalk_of_mem hotherMem
    have hstart : other.start ∈ (↑walk.chain : Cycle String) :=
      Cycle.mem_coe_iff.2 (hperm.mem_iff.2 (hchain ▸ List.mem_cons_self))
    obtain ⟨hagain, heq⟩ := chain_eq_of_mem hnames hotherMem hcycle hstart
    exact List.mem_map.2 ⟨other, mem_closedWalks.2 ⟨hother, hagain⟩, heq⟩

theorem nodup_cycles_closedWalks (model : Model) : (model.closedWalks.map fun walk => (↑walk.chain : Cycle String)).Nodup := by
  have hmembers : (model.reportedWalks.map ParentWalk.members).Nodup := nodup_keys_firstOfEach _ _ _
  rw [List.Nodup, List.pairwise_map] at hmembers
  rw [List.Nodup, List.pairwise_map]
  refine (hmembers.filter _).imp fun {walk other} hne heq => hne ?_
  exact (walk.members_eq_iff other).2 (Cycle.coe_eq_coe.1 heq).perm

/-- Every graph that leads into a cycle starts a reported walk that does not come back to it, and no other graph does. -/
theorem mem_starts_openWalks (hnames : model.graphNames.Nodup) (name : String) :
    name ∈ model.openWalks.map (·.start) ↔ LeadsIntoCycle model.HasParent name := by
  constructor
  · intro h
    obtain ⟨walk, hwalk, rfl⟩ := List.mem_map.1 h
    obtain ⟨hmem, hne⟩ := mem_openWalks.1 hwalk
    exact (leadsIntoCycle_start_iff hnames (mem_parentWalks_of_mem_reportedWalks hmem)).2 hne
  · intro hleads
    have ⟨cycle, hcycle, _, member, hmember, hreach⟩ := hleads
    obtain ⟨walk, hwalk, rfl⟩ := exists_mem_parentWalks hnames hcycle hmember hreach
    have hne := (leadsIntoCycle_start_iff hnames hwalk).1 hleads
    exact List.mem_map_of_mem (mem_openWalks.2 ⟨mem_reportedWalks_of_ne hnames hwalk hne, hne⟩)

theorem nodup_starts_openWalks (hnames : model.graphNames.Nodup) : (model.openWalks.map (·.start)).Nodup :=
  (nodup_starts_parentWalks hnames).sublist ((List.filter_sublist.trans (firstOfEach_sublist _ _ _)).map _)

/-- There are as many findings that parents run in circles as there are cycles and graphs that lead into one. -/
theorem length_cycleFindings (hnames : model.graphNames.Nodup) :
    (model.cycleFindings.length : ℕ∞) =
      {cycle | IsCycleOf model.HasParent cycle}.encard + {name | LeadsIntoCycle model.HasParent name}.encard := by
  have hcycles : {cycle | IsCycleOf model.HasParent cycle} =
      {cycle | cycle ∈ model.closedWalks.map fun walk => (↑walk.chain : Cycle String)} :=
    Set.ext fun cycle => (mem_cycles_closedWalks hnames cycle).symm
  have hstarts : {name | LeadsIntoCycle model.HasParent name} = {name | name ∈ model.openWalks.map (·.start)} :=
    Set.ext fun name => (mem_starts_openWalks hnames name).symm
  have hlength : model.reportedWalks.length = model.closedWalks.length + model.openWalks.length :=
    List.length_eq_length_filter_add _
  rw [hcycles, hstarts, encard_setOf_mem (nodup_cycles_closedWalks model), encard_setOf_mem (nodup_starts_openWalks hnames), cycleFindings_eq,
    List.length_map, List.length_map, List.length_map, hlength, Nat.cast_add]

/-! ## Each cycle once -/

/-- A graph that leads into a cycle is reported with a cycle that it does not lie on. -/
theorem ReportsCyclesOnce.not_leadsIntoCycle (h : model.ReportsCyclesOnce) (hnames : model.graphNames.Nodup) (name : String) :
    ¬LeadsIntoCycle model.HasParent name := by
  intro hleads
  obtain ⟨walk, hwalk, rfl⟩ := List.mem_map.1 ((mem_starts_openWalks hnames name).2 hleads)
  obtain ⟨hmem, hne⟩ := mem_openWalks.1 hwalk
  have hfinding : walk.finding ∈ model.cycleFindings := cycleFindings_eq model ▸ List.mem_map_of_mem hmem
  obtain ⟨cycle, hcycle, -, hstart⟩ := h.attributed _ hfinding walk.chain walk.again rfl
  exact hne (chain_eq_of_mem hnames (mem_parentWalks_of_mem_reportedWalks hmem) hcycle hstart).1

/-- Where graphs have distinct names, each cycle of parents is reported once, and at one of its graphs, exactly if no graph that is not on a cycle
leads into one. -/
theorem reportsCyclesOnce_iff (hnames : model.graphNames.Nodup) :
    model.ReportsCyclesOnce ↔ ∀ name, ¬LeadsIntoCycle model.HasParent name := by
  constructor
  · intro h
    exact h.not_leadsIntoCycle hnames
  · intro h
    refine ⟨?count, ?attributed⟩
    case count =>
      have hnone : {name | LeadsIntoCycle model.HasParent name} = ∅ := Set.eq_empty_of_forall_notMem h
      rw [length_cycleFindings hnames, hnone, Set.encard_empty, add_zero]
    case attributed =>
      intro finding hmem chain again hfault
      rw [cycleFindings_eq] at hmem
      obtain ⟨walk, hreported, rfl⟩ := List.mem_map.1 hmem
      obtain ⟨rfl, rfl⟩ := Fault.parentCycle.inj hfault
      have hwalk := mem_parentWalks_of_mem_reportedWalks hreported
      have hagain : walk.again = walk.start := not_not.1 (mt (leadsIntoCycle_start_iff hnames hwalk).2 (h walk.start))
      obtain ⟨further, hchain, -⟩ := returningWalk_of_mem hwalk
      have hstart : walk.start ∈ (↑walk.chain : Cycle String) := Cycle.mem_coe_iff.2 (hchain ▸ List.mem_cons_self)
      exact ⟨_, isCycleOf_chain hwalk hagain, hagain.symm ▸ hstart, hstart⟩

/-- A graph that is nested in another. -/
def graphInside (parent name : String) : Graph :=
  { type := Name.ofQualified name
    route := name
    start := .destination (name ++ "Destination")
    parent? := some (Name.ofQualified parent)
    isParentStart := false
    isHost := false
    isDefault := false
    startArguments := []
    sourceIds := [] }

/-- Two graphs that are nested in each other, and others. -/
def withLoop (others : List Graph) : Model :=
  { destinations := []
    graphs := graphInside "app.EvenGraph" "app.OddGraph" :: graphInside "app.OddGraph" "app.EvenGraph" :: others
    serializers := []
    modules := [] }

/-- The two graphs alone are reported once. -/
theorem reportsCyclesOnce_withLoop :
    (withLoop []).graphNames.Nodup ∧ (withLoop []).cycleFindings.length = 1 ∧ (withLoop []).ReportsCyclesOnce := by
  have hnames : (withLoop []).graphNames.Nodup := by decide +kernel
  have hopen : (withLoop []).openWalks = [] := by decide +kernel
  refine ⟨hnames, ?_, (reportsCyclesOnce_iff hnames).2 fun name hleads => ?_⟩
  · rw [cycleFindings_eq, List.length_map]
    decide +kernel
  · have hmem := (mem_starts_openWalks hnames name).2 hleads
    rw [hopen] at hmem
    contradiction

/-- That cycles are reported once, and at one of their graphs, is false: with a third graph that is nested in one of the two, their cycle is reported
at one of its own and at the third. -/
theorem reportsCyclesOnce_false : ¬∀ model : Model, model.graphNames.Nodup → model.ReportsCyclesOnce := by
  intro h
  have hnames : (withLoop [graphInside "app.EvenGraph" "app.TailGraph"]).graphNames.Nodup := by decide +kernel
  have htail : "app.TailGraph" ∈ (withLoop [graphInside "app.EvenGraph" "app.TailGraph"]).openWalks.map (·.start) := by decide +kernel
  exact (h _ hnames).not_leadsIntoCycle hnames "app.TailGraph" ((mem_starts_openWalks hnames _).1 htail)

end Model

end NavGen
