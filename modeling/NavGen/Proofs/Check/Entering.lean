import Mathlib.Data.List.Perm.Subperm
import NavGen.Proofs.Check.WellFormed

/-!
# Valid models can be entered

Whoever shows a graph of a valid model needs the host above it and the screen that it opens with. Neither is checked as such. Parents are followed
up to a host and starts are followed down to a destination, and both ways end because no chain of parents repeats a graph: a graph that another
starts with is nested in it, so a way down is a chain of parents read backwards.
-/

namespace NavGen

/-! ## Following a way to its end -/

section

variable {α : Type} {next : α → Option α}

/-- Where a way leads in a number of steps, if it goes on for so long. -/
def follow (next : α → Option α) : (steps : Nat) → α → Option α
  | 0, item => some item
  | steps + 1, item => (next item).bind (follow next steps)

/-- A way that does not leave a list of items and never repeats one ends. The items before `item` on the way are `passed`, and `left` is more than
the number of items that can still follow. -/
theorem exists_follow_end_of_passed {items : List α} (hnext : ∀ a ∈ items, ∀ b, next a = some b → b ∈ items)
    (hnodup : ∀ way : List α, way ⊆ items → way.IsChain (next · = some ·) → way.Nodup) {left : Nat} {passed : List α} {item : α}
    (hway : (passed ++ [item]).IsChain (next · = some ·)) (hsubset : passed ++ [item] ⊆ items)
    (hleft : items.length ≤ passed.length + left) :
    ∃ steps < left, ∃ last ∈ items, follow next steps item = some last ∧ next last = none := by
  induction left generalizing passed item with
  | zero =>
    have hlength := ((hnodup _ hsubset hway).subperm hsubset).length_le
    simp only [List.length_append, List.length_singleton] at hlength
    omega
  | succ left ih =>
    have hmem : item ∈ items := hsubset (List.mem_append_right _ (List.mem_singleton_self item))
    cases hitem : next item with
    | none => exact ⟨0, Nat.succ_pos left, item, hmem, rfl, hitem⟩
    | some other =>
      have hway' : ((passed ++ [item]) ++ [other]).IsChain (next · = some ·) := by
        refine List.isChain_append.2 ⟨hway, List.isChain_singleton _, ?_⟩
        simpa using hitem
      have hsubset' : (passed ++ [item]) ++ [other] ⊆ items := by
        refine List.append_subset.2 ⟨hsubset, ?_⟩
        simpa using hnext item hmem other hitem
      obtain ⟨steps, hsteps, last, hlast, hfollow, hend⟩ := ih hway' hsubset' (by simp; omega)
      exact ⟨steps + 1, Nat.succ_lt_succ hsteps, last, hlast, by rw [follow, hitem, Option.bind_some, hfollow], hend⟩

/-- A way through a list of items that never repeats one ends in fewer steps than there are items. -/
theorem exists_follow_end {items : List α} (hnext : ∀ a ∈ items, ∀ b, next a = some b → b ∈ items)
    (hnodup : ∀ way : List α, way ⊆ items → way.IsChain (next · = some ·) → way.Nodup) {item : α} (hmem : item ∈ items) :
    ∃ steps < items.length, ∃ last ∈ items, follow next steps item = some last ∧ next last = none := by
  have hway : ([] ++ [item]).IsChain (next · = some ·) := List.isChain_singleton item
  have hsubset : [] ++ [item] ⊆ items := by simpa using hmem
  exact exists_follow_end_of_passed hnext hnodup hway hsubset (by simp)

end

namespace Model

/-- The graph that a graph is nested in. Parents are followed by qualified name. -/
def parentOf? (model : Model) (graph : Graph) : Option Graph :=
  graph.parent?.bind fun parent => model.graphNamed? parent.qualified

/-- The nested graph that a graph starts with, if it does not start with a destination. -/
def startGraphOf? (model : Model) (graph : Graph) : Option Graph :=
  match graph.start with
  | .destination _ => none
  | .graph type => model.graph? type

/-! ## Ways are chains of parents -/

theorem hasParent_of_parentOf? {model : Model} {graph parent : Graph} (hmem : graph ∈ model.graphs)
    (h : model.parentOf? graph = some parent) : model.HasParent graph.type.qualified parent.type.qualified := by
  obtain ⟨name, hname, hparent⟩ := Option.bind_eq_some_iff.1 h
  refine ⟨graph, hmem, rfl, ?_⟩
  rw [hname, Option.map_some, (mem_of_graphNamed? hparent).2]

theorem mem_of_parentOf? {model : Model} {graph parent : Graph} (h : model.parentOf? graph = some parent) :
    parent ∈ model.graphs := by
  obtain ⟨name, -, hparent⟩ := Option.bind_eq_some_iff.1 h
  exact (mem_of_graphNamed? hparent).1

theorem mem_of_startGraphOf? {model : Model} {graph child : Graph} (h : model.startGraphOf? graph = some child) :
    child ∈ model.graphs := by
  unfold startGraphOf? at h
  split at h
  · contradiction
  · exact List.mem_of_find?_eq_some h

/-- Where each graph starts inside itself and types are distinct, a graph is the parent of the graph it starts with. -/
theorem parent?_of_startGraphOf? {model : Model} (htypes : (model.graphs.map (·.type)).Nodup) {graph child : Graph}
    (hinside : model.StartsInside graph) (h : model.startGraphOf? graph = some child) : child.parent? = some graph.type := by
  unfold startGraphOf? at h
  unfold StartsInside at hinside
  split at h
  · contradiction
  · rename_i type hstart
    rw [hstart] at hinside
    obtain ⟨nested, hnested, htype, hparent⟩ := hinside
    have hfind : model.graph? type = some nested := (find?_key_eq_some htypes).2 ⟨hnested, htype⟩
    rw [h, Option.some.injEq] at hfind
    rw [hfind]
    exact hparent

/-- Where destinations have distinct names, a graph that does not start with another graph starts with a destination that it owns. -/
theorem exists_start_destination {model : Model} (hnames : (model.destinations.map (·.name)).Nodup) {graph : Graph}
    (hinside : model.StartsInside graph) (hlast : model.startGraphOf? graph = none) :
    ∃ destination ∈ model.destinations, graph.start = .destination destination.name ∧
      model.destination? destination.name = some destination ∧ destination.graph = graph.type := by
  unfold StartsInside at hinside
  unfold startGraphOf? at hlast
  cases hstart : graph.start with
  | destination name =>
    rw [hstart] at hinside
    obtain ⟨destination, hmem, rfl, howner⟩ := hinside
    exact ⟨destination, hmem, rfl, (find?_key_eq_some hnames).2 ⟨hmem, rfl⟩, howner⟩
  | graph type =>
    rw [hstart] at hinside hlast
    obtain ⟨nested, hnested, rfl, -⟩ := hinside
    exact absurd (List.mem_map_of_mem hnested) (find?_key_eq_none.1 hlast)

/-! ## Where the ways end -/

section

variable {model : Model} (h : model.WellFormed)

include h

/-- A way along parents names a chain of parents, so it repeats no graph. -/
theorem WellFormed.nodup_of_isChain_parentOf? {way : List Graph} (hmem : way ⊆ model.graphs)
    (hway : way.IsChain (model.parentOf? · = some ·)) : way.Nodup := by
  refine List.Nodup.of_map (·.type.qualified) (h.parentChains _ ?_)
  rw [List.isChain_map]
  exact hway.imp_of_mem_imp fun child parent hchild _ hstep => hasParent_of_parentOf? (hmem hchild) hstep

/-- A way along starts, read backwards, names a chain of parents, so it repeats no graph. -/
theorem WellFormed.nodup_of_isChain_startGraphOf? {way : List Graph} (hmem : way ⊆ model.graphs)
    (hway : way.IsChain (model.startGraphOf? · = some ·)) : way.Nodup := by
  refine List.nodup_reverse.1 (List.Nodup.of_map (·.type.qualified) (h.parentChains _ ?_))
  rw [List.isChain_map, List.isChain_reverse]
  refine hway.imp_of_mem_imp fun graph child hgraph hchild hstep => ⟨child, hmem hchild, rfl, ?_⟩
  rw [parent?_of_startGraphOf? (nodup_types h.graphTypes) (h.graphs graph (hmem hgraph)).start hstep, Option.map_some]

/-- A graph of a well-formed model without a parent to go on to is a host. -/
theorem WellFormed.isHost_of_parentOf?_eq_none {graph : Graph} (hmem : graph ∈ model.graphs)
    (hlast : model.parentOf? graph = none) : graph.parent? = none ∧ graph.isHost = true := by
  cases hhost : graph.isHost with
  | true => exact ⟨(h.graphs graph hmem).hostParent hhost, rfl⟩
  | false =>
    obtain ⟨parent, hparent, hknown⟩ := (h.graphs graph hmem).nestedParent hhost
    rw [parentOf?, hparent, Option.bind_some, graphNamed?_eq_none_iff] at hlast
    exact absurd hknown hlast

end

/-- Every graph of a valid model can be entered. Following parents from it ends in a host without a parent, and following starts from it ends in a
graph that starts with a destination of its own; both take fewer steps than there are graphs. -/
theorem enterable_of_isValid {model : Model} (h : model.isValid = true) {graph : Graph} (hmem : graph ∈ model.graphs) :
    (∃ steps < model.graphs.length, ∃ top ∈ model.graphs,
        follow model.parentOf? steps graph = some top ∧ top.parent? = none ∧ top.isHost = true) ∧
      ∃ steps < model.graphs.length, ∃ last ∈ model.graphs, follow model.startGraphOf? steps graph = some last ∧
        ∃ destination ∈ model.destinations, last.start = .destination destination.name ∧
          model.destination? destination.name = some destination ∧ destination.graph = last.type := by
  have hwell := (isValid_iff_wellFormed model).1 h
  constructor
  · obtain ⟨steps, hsteps, top, htop, hfollow, hlast⟩ := exists_follow_end (fun _ _ _ => mem_of_parentOf?)
      (fun _ => hwell.nodup_of_isChain_parentOf?) hmem
    exact ⟨steps, hsteps, top, htop, hfollow, hwell.isHost_of_parentOf?_eq_none htop hlast⟩
  · obtain ⟨steps, hsteps, last, hlastMem, hfollow, hlast⟩ := exists_follow_end (fun _ _ _ => mem_of_startGraphOf?)
      (fun _ => hwell.nodup_of_isChain_startGraphOf?) hmem
    exact ⟨steps, hsteps, last, hlastMem, hfollow,
      exists_start_destination hwell.names.destinationNames (hwell.graphs last hlastMem).start hlast⟩

/-- A graph on one of three levels. The one without a parent is the host, each other is what its parent starts with. -/
def levelGraph (type route : String) (start : Start) (parent? : Option String) : Graph :=
  { type := Name.ofQualified type
    route
    start
    parent? := parent?.map Name.ofQualified
    isParentStart := parent?.isSome
    isHost := parent?.isNone
    isDefault := parent?.isNone
    startArguments := []
    sourceIds := [] }

/-- The graph in the middle of three levels. -/
def userGraph : Graph :=
  levelGraph "app.UserGraph" "user" (.graph (Name.ofQualified "app.IntroGraph")) (some "app.MainGraph")

/-- A host that starts with a nested graph, which in turn starts with a graph of one screen. -/
def threeLevels : Model :=
  { destinations := [{
      name := "WelcomeDestination"
      target := Name.ofQualified "app.Welcome"
      kind := .composable
      baseRoute := "welcome"
      graph := Name.ofQualified "app.IntroGraph"
      isStart := true
      arguments := []
      argumentsClass? := none
      deepLinks := []
      result? := none
      sourceIds := [] }]
    graphs := [
      levelGraph "app.IntroGraph" "intro" (.destination "WelcomeDestination") (some "app.UserGraph"),
      levelGraph "app.MainGraph" "main" (.graph (Name.ofQualified "app.UserGraph")) none,
      userGraph]
    serializers := []
    modules := [] }

/-- From the graph in the middle there is a way up to the host and a way down to the screen. -/
theorem enterable_threeLevels : threeLevels.isValid = true ∧ userGraph ∈ threeLevels.graphs ∧
    (∃ steps < threeLevels.graphs.length, ∃ top ∈ threeLevels.graphs,
        follow threeLevels.parentOf? steps userGraph = some top ∧ top.parent? = none ∧ top.isHost = true) ∧
      ∃ steps < threeLevels.graphs.length, ∃ last ∈ threeLevels.graphs,
        follow threeLevels.startGraphOf? steps userGraph = some last ∧
          ∃ destination ∈ threeLevels.destinations, last.start = .destination destination.name ∧
            threeLevels.destination? destination.name = some destination ∧ destination.graph = last.type := by
  have hvalid : threeLevels.isValid = true := by decide +kernel
  have hmem : userGraph ∈ threeLevels.graphs := by simp [threeLevels]
  exact ⟨hvalid, hmem, enterable_of_isValid hvalid hmem⟩

end Model

end NavGen
