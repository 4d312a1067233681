import NavGen.Proofs.Check.ParentChains

/-!
# Every graph once, after its children

The walk that puts graphs in order keeps what is still to be entered and left in a list of visits. No graph is met twice, whatever the parents of
graphs are, so each is entered when it is met and left after all graphs nested in it. The graphs that are met are those from which parents lead up to
a graph without one. A graph is missed if its parents run in circles or if one of them is not in the model; when that is so of none, the order holds
every graph of the model once, after its children.
-/

namespace NavGen

/-- The graph of a visit. -/
def Visit.graph : Visit → Graph
  | .enter graph | .leave graph => graph

@[simp] theorem Visit.graph_enter (graph : Graph) : (Visit.enter graph).graph = graph :=
  rfl

@[simp] theorem Visit.graph_leave (graph : Graph) : (Visit.leave graph).graph = graph :=
  rfl

@[simp] theorem mem_without {texts : List String} {text other : String} : other ∈ without texts text ↔ other ∈ texts ∧ other ≠ text := by
  simp [without]

namespace Model

theorem mem_nestedGraphsOf {model : Model} {type : Name} {graph : Graph} :
    graph ∈ model.nestedGraphsOf type ↔ graph ∈ model.graphs ∧ graph.parent? = some type := by
  simp [nestedGraphsOf]

/-- Whether parents lead from a graph of a model up to one that has none. A parent leads on if it is the type of a graph of the model. -/
inductive ReachesTop (model : Model) : Graph → Prop where
  | top {graph : Graph} (known : graph ∈ model.graphs) (parent : graph.parent? = none) : ReachesTop model graph
  | nested {graph above : Graph} (known : graph ∈ model.graphs) (parent : graph.parent? = some above.type)
      (reaches : ReachesTop model above) : ReachesTop model graph

theorem ReachesTop.mem {model : Model} {graph : Graph} (h : model.ReachesTop graph) : graph ∈ model.graphs := by
  cases h with
  | top known => exact known
  | nested known => exact known

/-- What holds on the walk when the graphs `done` were left, those named in `pending` were not entered, and `visits` are to come. -/
structure OnWalk (model : Model) (done : List Graph) (pending : List String) (visits : List Visit) : Prop where
  distinct : ((done ++ visits.map (·.graph)).map (·.type.qualified)).Nodup
  reached : ∀ graph ∈ done ++ visits.map (·.graph), model.ReachesTop graph
  notEntered : ∀ graph ∈ model.graphs, graph.type.qualified ∈ pending ↔ graph ∉ done ∧ Visit.leave graph ∉ visits
  /-- A graph that was not entered is about to be, or waits for its parent, which may not be in the model. -/
  waiting : ∀ graph ∈ model.graphs, graph.type.qualified ∈ pending →
    Visit.enter graph ∈ visits ∨ ∃ parent, graph.parent? = some parent ∧
      ∀ above ∈ model.graphs, above.type = parent → above.type.qualified ∈ pending
  parents : ∀ graph ∈ done ++ visits.map (·.graph), ∀ parent, graph.parent? = some parent → parent.qualified ∉ pending
  /-- The children of a graph come before it is left. -/
  children : ∀ above graph below, visits = above ++ .leave graph :: below →
    ∀ child ∈ model.nestedGraphsOf graph.type, child ∈ done ∨ child ∈ above.map (·.graph)

variable {model : Model} {done : List Graph} {pending : List String} {visits : List Visit}

/-! ## Steps -/

/-- A graph is left after its children, and the walk goes on. -/
theorem OnWalk.leave {graph : Graph} (h : model.OnWalk done pending (.leave graph :: visits)) :
    model.OnWalk (done ++ [graph]) pending visits ∧ ∀ child ∈ model.nestedGraphsOf graph.type, child ∈ done := by
  have hall : done ++ (Visit.leave graph :: visits).map (·.graph) = (done ++ [graph]) ++ visits.map (·.graph) := by simp
  constructor
  · constructor
    · rw [← hall]
      exact h.distinct
    · rw [← hall]
      exact h.reached
    · intro other hother
      rw [h.notEntered other hother]
      simp [not_or, and_assoc]
    · intro other hother hpending
      simpa using h.waiting other hother hpending
    · rw [← hall]
      exact h.parents
    · intro above other below hvisits child hchild
      have := h.children (.leave graph :: above) other below (by rw [hvisits]; rfl) child hchild
      simpa [or_assoc] using this
  · intro child hchild
    simpa using h.children [] graph visits rfl child hchild

/-- A graph that is met was not entered before. -/
theorem OnWalk.mem_pending {graph : Graph} (h : model.OnWalk done pending (.enter graph :: visits)) :
    graph.type.qualified ∈ pending := by
  have hdistinct := List.Nodup.of_map _ h.distinct
  rw [List.map_cons, Visit.graph_enter, List.nodup_middle, List.nodup_cons, List.mem_append, not_or] at hdistinct
  refine (h.notEntered graph (h.reached graph (by simp)).mem).2 ⟨hdistinct.1.1, fun hleave => hdistinct.1.2 ?_⟩
  have hmem : Visit.leave graph ∈ visits := by simpa using hleave
  exact List.mem_map_of_mem hmem

/-- When a graph is entered its children are met, to be entered before it is left. -/
theorem OnWalk.enter (hnames : model.graphNames.Nodup) {graph : Graph} (h : model.OnWalk done pending (.enter graph :: visits)) :
    model.OnWalk done (without pending graph.type.qualified)
      ((model.nestedGraphsOf graph.type).map Visit.enter ++ .leave graph :: visits) := by
  have hpending := h.mem_pending
  have hreached : model.ReachesTop graph := h.reached graph (by simp)
  have hsame : ∀ other ∈ model.graphs, ∀ another ∈ model.graphs, other.type.qualified = another.type.qualified → other = another :=
    fun other hother another hanother heq => List.inj_on_of_nodup_map hnames hother hanother heq
  have hall : (done ++ ((model.nestedGraphsOf graph.type).map Visit.enter ++ .leave graph :: visits).map (·.graph)).Perm
      (model.nestedGraphsOf graph.type ++ (done ++ (Visit.enter graph :: visits).map (·.graph))) := by
    simp only [List.map_append, List.map_map, List.map_cons, Visit.graph_leave, Visit.graph_enter, Function.comp_def, List.map_id']
    rw [← List.append_assoc, ← List.append_assoc]
    exact List.Perm.append_right _ List.perm_append_comm
  -- the parent of a graph that was met is entered, and that of a child is not yet
  have hfresh : ∀ child ∈ model.nestedGraphsOf graph.type, child ∉ done ++ (Visit.enter graph :: visits).map (·.graph) :=
    fun child hchild hmet => h.parents child hmet _ (mem_nestedGraphsOf.1 hchild).2 hpending
  refine ⟨?distinct, ?reached, ?notEntered, ?waiting, ?parents, ?children⟩
  case distinct =>
    refine (hall.map _).nodup_iff.2 ?_
    rw [List.map_append, List.nodup_append]
    refine ⟨hnames.sublist (List.filter_sublist.map _), h.distinct, fun name hname other hother heq => ?_⟩
    obtain ⟨child, hchild, rfl⟩ := List.mem_map.1 hname
    obtain ⟨met, hmet, rfl⟩ := List.mem_map.1 hother
    have hchildMet := hsame child (mem_nestedGraphsOf.1 hchild).1 met (h.reached met hmet).mem heq
    exact hfresh child hchild (hchildMet ▸ hmet)
  case reached =>
    intro other hother
    rcases List.mem_append.1 (hall.mem_iff.1 hother) with hchild | hmet
    · obtain ⟨hknown, hparent⟩ := mem_nestedGraphsOf.1 hchild
      exact .nested hknown hparent hreached
    · exact h.reached other hmet
  case notEntered =>
    intro other hother
    have hne : other.type.qualified ≠ graph.type.qualified ↔ other ≠ graph :=
      ⟨fun hne heq => hne (heq ▸ rfl), fun hne heq => hne (hsame other hother graph hreached.mem heq)⟩
    rw [mem_without, hne, h.notEntered other hother]
    simp only [List.mem_append, List.mem_map, List.mem_cons, reduceCtorEq, and_false, exists_false, false_or, Visit.leave.injEq, not_or]
    rw [and_assoc, and_comm (a := Visit.leave other ∉ visits)]
  case waiting =>
    intro other hother hwithout
    obtain ⟨hotherPending, hne⟩ := mem_without.1 hwithout
    rcases h.waiting other hother hotherPending with hmet | ⟨parent, hparent, hparentPending⟩
    · refine Or.inl (List.mem_append_right _ (List.mem_cons_of_mem _ ?_))
      rcases List.mem_cons.1 hmet with heq | hmet
      · exact absurd (Visit.enter.inj heq ▸ rfl) hne
      · exact hmet
    · by_cases htype : parent = graph.type
      · rw [htype] at hparent
        exact Or.inl (List.mem_append_left _ (List.mem_map_of_mem (mem_nestedGraphsOf.2 ⟨hother, hparent⟩)))
      · refine Or.inr ⟨parent, hparent, fun above habove haboveType => ?_⟩
        refine mem_without.2 ⟨hparentPending above habove haboveType, fun heq => htype ?_⟩
        rw [← haboveType, hsame above habove graph hreached.mem heq]
  case parents =>
    intro other hother parent hparent hwithout
    obtain ⟨hparentPending, hne⟩ := mem_without.1 hwithout
    rcases List.mem_append.1 (hall.mem_iff.1 hother) with hchild | hmet
    · rw [(mem_nestedGraphsOf.1 hchild).2, Option.some.injEq] at hparent
      exact hne (hparent ▸ rfl)
    · exact h.parents other hmet parent hparent hparentPending
  case children =>
    intro above other below hvisits child hchild
    obtain ⟨inner, hinner, hrest⟩ | ⟨outer, houter, hrest⟩ := List.append_eq_append_iff.1 hvisits
    · cases inner with
      | nil =>
        -- it is the graph that is entered here which is left there
        obtain ⟨rfl, rfl⟩ : graph = other ∧ visits = below := by simpa using hrest
        refine Or.inr ?_
        rw [hinner]
        simpa [Function.comp_def] using hchild
      | cons first inner =>
        obtain ⟨rfl, hvisits⟩ : Visit.leave graph = first ∧ visits = inner ++ .leave other :: below := by simpa using hrest
        have := h.children (.enter graph :: inner) other below (by rw [hvisits]; rfl) child hchild
        rw [hinner]
        simp only [List.map_append, List.map_cons, Visit.graph_enter, Visit.graph_leave, List.mem_append] at this ⊢
        exact this.imp_right Or.inr
    · cases outer with
      | nil =>
        obtain ⟨rfl, rfl⟩ : other = graph ∧ below = visits := by simpa using hrest
        refine Or.inr ?_
        rw [← List.append_nil above, ← houter]
        simpa [Function.comp_def] using hchild
      | cons first outer =>
        obtain ⟨rfl, -⟩ : Visit.leave other = first ∧ _ := by simpa using hrest
        have hmem : Visit.leave other ∈ (model.nestedGraphsOf graph.type).map Visit.enter := by rw [houter]; simp
        simp at hmem

/-! ## The whole walk -/

/-- The walk starts above the top level graphs. -/
theorem onWalk_start (hnames : model.graphNames.Nodup) :
    model.OnWalk [] model.graphNames (model.topLevelGraphs.map Visit.enter) := by
  have htop : ∀ graph, graph ∈ model.topLevelGraphs ↔ graph ∈ model.graphs ∧ graph.parent? = none := by simp [topLevelGraphs]
  have hall : [] ++ (model.topLevelGraphs.map Visit.enter).map (·.graph) = model.topLevelGraphs := by simp [Function.comp_def]
  refine ⟨?distinct, ?reached, ?notEntered, ?waiting, ?parents, ?children⟩
  case distinct =>
    rw [hall]
    exact hnames.sublist (List.filter_sublist.map _)
  case reached =>
    rw [hall]
    exact fun graph hmem => .top ((htop graph).1 hmem).1 ((htop graph).1 hmem).2
  case notEntered =>
    exact fun graph hmem => iff_of_true (List.mem_map_of_mem hmem) (by simp)
  case waiting =>
    intro graph hmem _
    cases hparent : graph.parent? with
    | none => exact Or.inl (List.mem_map_of_mem ((htop graph).2 ⟨hmem, hparent⟩))
    | some parent => exact Or.inr ⟨parent, rfl, fun above habove _ => List.mem_map_of_mem habove⟩
  case parents =>
    rw [hall]
    intro graph hmem parent hparent
    rw [((htop graph).1 hmem).2] at hparent
    contradiction
  case children =>
    intro above graph below hvisits
    have hmem : Visit.leave graph ∈ model.topLevelGraphs.map Visit.enter := by rw [hvisits]; simp
    simp at hmem

/-- When the walk is over, all that it left comes after its children. -/
theorem OnWalk.leaveOrder (hnames : model.graphNames.Nodup) (h : model.OnWalk done pending visits) :
    (∃ pending', model.OnWalk (done ++ model.leaveOrder pending visits) pending' []) ∧
      ∀ before graph after, model.leaveOrder pending visits = before ++ graph :: after →
        ∀ child ∈ model.nestedGraphsOf graph.type, child ∈ done ++ before := by
  fun_induction Model.leaveOrder model pending visits generalizing done with
  | case1 pending => exact ⟨⟨pending, by simpa using h⟩, by simp⟩
  | case2 pending graph rest ih =>
    obtain ⟨hwalk, hchildren⟩ := h.leave
    obtain ⟨⟨pending', hend⟩, horder⟩ := ih hwalk
    refine ⟨⟨pending', by simpa using hend⟩, fun before other after heq child hchild => ?_⟩
    cases before with
    | nil =>
      obtain ⟨rfl, -⟩ := List.cons.inj heq
      exact List.mem_append_left _ (hchildren child hchild)
    | cons first before =>
      obtain ⟨rfl, hrest⟩ := List.cons.inj heq
      simpa using horder before other after hrest child hchild
  | case3 pending graph rest hpending ih => exact ih (h.enter hnames)
  | case4 pending graph rest hpending => exact absurd h.mem_pending hpending

/-- When the walk is over, all graphs were met from which parents lead to the top: such a graph cannot be waiting, because then its parent were, and
so on up to a graph that waits for none. -/
theorem OnWalk.mem_done (h : model.OnWalk done pending []) {graph : Graph} (hreaches : model.ReachesTop graph) : graph ∈ done := by
  have hentered : graph.type.qualified ∉ pending := by
    induction hreaches with
    | top known parent =>
      intro hpending
      obtain hmet | ⟨other, hother, -⟩ := h.waiting _ known hpending
      · contradiction
      · rw [parent] at hother
        contradiction
    | nested known parent reaches ih =>
      intro hpending
      obtain hmet | ⟨other, hother, hwaiting⟩ := h.waiting _ known hpending
      · contradiction
      · rw [parent, Option.some.injEq] at hother
        exact ih (hwaiting _ reaches.mem hother)
  by_contra hdone
  exact hentered ((h.notEntered graph hreaches.mem).2 ⟨hdone, List.not_mem_nil⟩)

/-- Where the parent of each graph is in the model and parents do not run in circles, parents lead from every graph to the top. -/
theorem reachesTop_of_wellFounded
    (hparents : ∀ graph ∈ model.graphs, ∀ parent, graph.parent? = some parent → ∃ other ∈ model.graphs, other.type = parent)
    (hwell : WellFounded fun parent child => model.HasParent child parent) {graph : Graph} (hmem : graph ∈ model.graphs) :
    model.ReachesTop graph := by
  generalize hname : graph.type.qualified = name
  induction name using hwell.induction generalizing graph with
  | _ name ih =>
    cases hparent : graph.parent? with
    | none => exact .top hmem hparent
    | some parent =>
      obtain ⟨above, habove, rfl⟩ := hparents graph hmem parent hparent
      exact .nested hmem hparent (ih above.type.qualified ⟨graph, hmem, hname, by rw [hparent]; rfl⟩ habove rfl)

section

variable (hnames : model.graphNames.Nodup)

include hnames

/-- The order holds no graph twice. -/
theorem nodup_graphsChildrenFirst : model.graphsChildrenFirst.Nodup := by
  obtain ⟨⟨pending, hend⟩, -⟩ := (onWalk_start hnames).leaveOrder hnames
  rw [List.nil_append, ← graphsChildrenFirst] at hend
  exact List.Nodup.of_map _ (by simpa using hend.distinct)

/-- The order holds the graphs from which parents lead to the top. -/
theorem mem_graphsChildrenFirst_iff {graph : Graph} : graph ∈ model.graphsChildrenFirst ↔ model.ReachesTop graph := by
  obtain ⟨⟨pending, hend⟩, -⟩ := (onWalk_start hnames).leaveOrder hnames
  rw [List.nil_append, ← graphsChildrenFirst] at hend
  exact ⟨fun hmem => hend.reached graph (by simpa using hmem), hend.mem_done⟩

/-- Before a graph come all graphs that are nested in it. -/
theorem children_before (before : List Graph) (graph : Graph) (after : List Graph) (h : model.graphsChildrenFirst = before ++ graph :: after) :
    ∀ child ∈ model.nestedGraphsOf graph.type, child ∈ before := by
  obtain ⟨-, horder⟩ := (onWalk_start hnames).leaveOrder hnames
  simpa using horder before graph after h

/-- Where parents lead to the top from all graphs, the order holds every graph of the model once. -/
theorem perm_graphsChildrenFirst
    (hparents : ∀ graph ∈ model.graphs, ∀ parent, graph.parent? = some parent → ∃ other ∈ model.graphs, other.type = parent)
    (hwell : WellFounded fun parent child => model.HasParent child parent) : model.graphsChildrenFirst.Perm model.graphs := by
  refine (List.perm_ext_iff_of_nodup (nodup_graphsChildrenFirst hnames) (List.Nodup.of_map _ hnames)).2 fun graph => ?_
  rw [mem_graphsChildrenFirst_iff hnames]
  exact ⟨ReachesTop.mem, reachesTop_of_wellFounded hparents hwell⟩

/-- Whatever the parents of graphs with distinct names are, the order holds once each graph from which parents lead to the top, and no other graph,
and before each graph it has all graphs that name it as their parent. -/
theorem childrenFirst_exact :
    model.graphsChildrenFirst.Nodup ∧ (∀ graph, graph ∈ model.graphsChildrenFirst ↔ model.ReachesTop graph) ∧
      ∀ before graph after, model.graphsChildrenFirst = before ++ graph :: after →
        ∀ child ∈ model.graphs, child.parent? = some graph.type → child ∈ before := by
  refine ⟨nodup_graphsChildrenFirst hnames, fun graph => mem_graphsChildrenFirst_iff hnames, ?_⟩
  intro before graph after h child hchild hparent
  exact children_before hnames before graph after h child (mem_nestedGraphsOf.2 ⟨hchild, hparent⟩)

end

/-- A graph with a route and a parent. -/
def routedGraph (route : String) (parent? : Option String) : Graph :=
  { type := Name.ofQualified ("app." ++ route)
    route
    start := .destination "HomeDestination"
    parent? := parent?.map fun parent => Name.ofQualified ("app." ++ parent)
    isParentStart := false
    isHost := parent?.isNone
    isDefault := false
    startArguments := []
    sourceIds := [] }

/-- Three levels of graphs below one without a parent. Of the others one is its own parent, two are the parents of each other, one is nested in these
and one in a graph that the model does not have. -/
def tangledParents : Model :=
  { destinations := []
    graphs := [
      routedGraph "Even" (some "Odd"),
      routedGraph "Lost" (some "Missing"),
      routedGraph "Main" none,
      routedGraph "Odd" (some "Even"),
      routedGraph "Photos" (some "Profile"),
      routedGraph "Profile" (some "Main"),
      routedGraph "Self" (some "Self"),
      routedGraph "Settings" (some "Main"),
      routedGraph "Tail" (some "Odd")]
    serializers := []
    modules := [] }

/-- The order holds the four graphs that are on a way to the top. -/
theorem childrenFirst_exact_tangledParents :
    tangledParents.graphNames.Nodup ∧
      tangledParents.graphsChildrenFirst.map (·.route) = ["Photos", "Profile", "Settings", "Main"] ∧
        tangledParents.graphsChildrenFirst.Nodup ∧
          (∀ graph, graph ∈ tangledParents.graphsChildrenFirst ↔ tangledParents.ReachesTop graph) ∧
            ∀ before graph after, tangledParents.graphsChildrenFirst = before ++ graph :: after →
              ∀ child ∈ tangledParents.graphs, child.parent? = some graph.type → child ∈ before := by
  have hnames : tangledParents.graphNames.Nodup := by decide +kernel
  exact ⟨hnames, by decide +kernel, childrenFirst_exact hnames⟩

end Model

end NavGen
