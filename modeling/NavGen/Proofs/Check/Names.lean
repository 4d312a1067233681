import NavGen.Check.Names
import NavGen.Proofs.Keys

/-!
# When nothing is found of the names

The check of the names goes through destinations, graphs and value types once and compares each with those before it. It finds nothing exactly
if the names of each kind are distinct and every route, of a destination or of a graph, is distinct from all others and free of the characters
that arguments are written with.
-/

namespace NavGen

/-- Whether a route can be the base that arguments are written after. -/
structure PlainRoute (route : String) : Prop where
  notBlank : Text.isBlank route = false
  unreserved : ∀ c ∈ route.toList, c ∉ reservedInRoutes

/-- The routes of all destinations and graphs. -/
def Model.routes (model : Model) : List String :=
  model.destinations.map (·.baseRoute) ++ model.graphs.map (·.route)

/-- Whether the names of a model are such that code can be generated under them. -/
structure Model.WellNamed (model : Model) : Prop where
  destinationNames : (model.destinations.map (·.name)).Nodup
  plainRoutes : ∀ route ∈ model.routes, PlainRoute route
  distinctRoutes : model.routes.Nodup
  propertyNames : (model.graphs.map (·.propertyName)).Nodup
  /-- The generated nav types are called by the simple names of their value types. -/
  valueTypeNames : (model.valueTypes.map (·.value.simple)).Nodup

/-! ## Routes -/

theorem routeFault?_eq_none_iff (route : String) : routeFault? route = none ↔ PlainRoute route := by
  unfold routeFault?
  split
  · rename_i hblank
    refine iff_of_false (Option.some_ne_none _) fun h => ?_
    rw [h.notBlank] at hblank
    contradiction
  · rename_i hblank
    have hfind : route.toList.find? (reservedInRoutes.contains ·) = none ↔ ∀ c ∈ route.toList, c ∉ reservedInRoutes := by
      simp
    rw [Option.map_eq_none_iff, hfind]
    exact ⟨fun h => ⟨by simpa using hblank, h⟩, fun h => h.unreserved⟩

/-- Nothing is found of a route that is plain and that no declaration before has. -/
theorem routeFindings_eq_nil_iff (earlier : List (String × String)) (route declaration : String) :
    routeFindings earlier route declaration = [] ↔ PlainRoute route ∧ route ∉ earlier.map (·.1) := by
  have hlookup : earlier.lookup route = none ↔ route ∉ earlier.map (·.1) := by
    simp only [List.lookup_eq_none_iff, bne_iff_ne, List.mem_map, not_exists, not_and]
    exact ⟨fun h entry hmem heq => h entry hmem heq.symm, fun h entry hmem heq => h entry hmem heq.symm⟩
  simp only [routeFindings, List.map_eq_nil_iff, List.append_eq_nil_iff, Option.toList_eq_nil_iff, Option.map_eq_none_iff,
    routeFault?_eq_none_iff, hlookup]

namespace Model

/-! ## One list after the other -/

theorem destinationNameFindings_eq_nil_iff (earlier destinations : List Destination) :
    destinationNameFindings earlier destinations = [] ↔
      FreshAfter (earlier.map (·.name)) (destinations.map (·.name)) ∧
        FreshAfter (earlier.map (·.baseRoute)) (destinations.map (·.baseRoute)) ∧
          ∀ destination ∈ destinations, PlainRoute destination.baseRoute := by
  induction destinations generalizing earlier with
  | nil => simp [destinationNameFindings, freshAfter_nil]
  | cons destination rest ih =>
    simp only [destinationNameFindings, List.append_eq_nil_iff, Option.toList_eq_nil_iff, Option.map_eq_none_iff,
      find?_key_eq_none, routeFindings_eq_nil_iff, ih, List.map_cons, List.map_map, Function.comp_def, freshAfter_cons,
      List.forall_mem_cons]
    exact ⟨fun ⟨⟨hname, hplain, hroute⟩, hnames, hroutes, hrest⟩ => ⟨⟨hname, hnames⟩, ⟨hroute, hroutes⟩, hplain, hrest⟩,
      fun ⟨⟨hname, hnames⟩, ⟨hroute, hroutes⟩, hplain, hrest⟩ => ⟨⟨hname, hplain, hroute⟩, hnames, hroutes, hrest⟩⟩

theorem graphNameFindings_eq_nil_iff (routes : List (String × String)) (earlier graphs : List Graph) :
    graphNameFindings routes earlier graphs = [] ↔
      FreshAfter (earlier.map (·.route) ++ routes.map (·.1)) (graphs.map (·.route)) ∧
        FreshAfter (earlier.map (·.propertyName)) (graphs.map (·.propertyName)) ∧
          ∀ graph ∈ graphs, PlainRoute graph.route := by
  induction graphs generalizing earlier with
  | nil => simp [graphNameFindings, freshAfter_nil]
  | cons graph rest ih =>
    simp only [graphNameFindings, List.append_eq_nil_iff, Option.toList_eq_nil_iff, Option.map_eq_none_iff,
      find?_key_eq_none, routeFindings_eq_nil_iff, ih, List.map_cons, List.map_append, List.map_map, Function.comp_def,
      List.cons_append, freshAfter_cons, List.forall_mem_cons]
    exact ⟨fun ⟨⟨⟨hplain, hroute⟩, hname⟩, hroutes, hnames, hrest⟩ => ⟨⟨hroute, hroutes⟩, ⟨hname, hnames⟩, hplain, hrest⟩,
      fun ⟨⟨hroute, hroutes⟩, ⟨hname, hnames⟩, hplain, hrest⟩ => ⟨⟨⟨hplain, hroute⟩, hname⟩, hroutes, hnames, hrest⟩⟩

theorem navTypeNameFindings_eq_nil_iff (earlier types : List ValueType) :
    navTypeNameFindings earlier types = [] ↔
      FreshAfter (earlier.map (·.value.simple)) (types.map (·.value.simple)) := by
  induction types generalizing earlier with
  | nil => simp [navTypeNameFindings, freshAfter_nil]
  | cons type rest ih =>
    simp only [navTypeNameFindings, List.append_eq_nil_iff, Option.toList_eq_nil_iff, Option.map_eq_none_iff,
      find?_key_eq_none, ih, List.map_cons, freshAfter_cons]

/-! ## All names -/

/-- The routes of graphs come after those of destinations: together they are distinct if both are and no graph repeats a destination. -/
theorem nodup_routes_iff (model : Model) :
    model.routes.Nodup ↔
      (model.destinations.map (·.baseRoute)).Nodup ∧
        FreshAfter (model.destinations.reverse.map (·.baseRoute)) (model.graphs.map (·.route)) := by
  rw [routes, List.nodup_append, FreshAfter]
  simp only [List.map_reverse, List.mem_reverse]
  constructor
  · rintro ⟨hdestinations, hgraphs, hdisjoint⟩
    exact ⟨hdestinations, hgraphs, fun route hroute hother => hdisjoint route hother route hroute rfl⟩
  · rintro ⟨hdestinations, hgraphs, hfresh⟩
    exact ⟨hdestinations, hgraphs, fun route hroute other hother heq => hfresh other hother (heq ▸ hroute)⟩

/-- Nothing is found of the names of a model exactly if it is well named. -/
theorem nameFindings_eq_nil_iff (model : Model) : model.nameFindings = [] ↔ model.WellNamed := by
  simp only [nameFindings, List.append_eq_nil_iff, destinationNameFindings_eq_nil_iff, graphNameFindings_eq_nil_iff,
    navTypeNameFindings_eq_nil_iff, List.map_nil, List.nil_append, List.map_map, Function.comp_def, freshAfter_nil_iff]
  constructor
  · rintro ⟨⟨⟨hnames, hroutes, hplain⟩, hfresh, hproperties, hgraphs⟩, htypes⟩
    refine ⟨hnames, fun route hroute => ?_, (nodup_routes_iff model).2 ⟨hroutes, hfresh⟩, hproperties, htypes⟩
    rcases List.mem_append.1 hroute with h | h
    · obtain ⟨destination, hmem, rfl⟩ := List.mem_map.1 h
      exact hplain destination hmem
    · obtain ⟨graph, hmem, rfl⟩ := List.mem_map.1 h
      exact hgraphs graph hmem
  · intro h
    obtain ⟨hroutes, hfresh⟩ := (nodup_routes_iff model).1 h.distinctRoutes
    refine ⟨⟨⟨h.destinationNames, hroutes, fun destination hmem => ?_⟩, hfresh, h.propertyNames, fun graph hmem => ?_⟩,
      h.valueTypeNames⟩
    · exact h.plainRoutes _ (List.mem_append_left _ (List.mem_map_of_mem hmem))
    · exact h.plainRoutes _ (List.mem_append_right _ (List.mem_map_of_mem hmem))

end Model

end NavGen
