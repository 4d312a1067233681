import NavGen.Proofs.Generated.DeepLinks

/-!
# Routes with arguments

The check of a model compares base routes. What is navigated to are routes with a placeholder for each argument, and a base route with slashes may look
like a shorter one with arguments behind it. They stay apart because the characters that arguments are written with are reserved: wherever a route goes
on behind its base, it goes on with a character that no base route has, or with a slash and then such a character. So the base can be read off from
the route, whatever its arguments are called.
-/

namespace NavGen

/-- The part of a route before its arguments. It ends where the query begins, or with the slash before the first placeholder. -/
def beforeArguments : List Char → List Char
  | [] => []
  | '?' :: _ => []
  | '/' :: '\x7b' :: _ => []
  | c :: rest => c :: beforeArguments rest

/-- Whether a text is what can stand behind a base route: nothing, a query, or a segment that is a placeholder. -/
inductive ArgumentsText : List Char → Prop where
  | none : ArgumentsText []
  | query (rest : List Char) : ArgumentsText ('?' :: rest)
  | segment (rest : List Char) : ArgumentsText ('/' :: '\x7b' :: rest)

theorem ArgumentsText.beforeArguments_eq {behind : List Char} (h : ArgumentsText behind) : beforeArguments behind = [] := by
  cases h <;> rfl

/-- What stands behind a base route does not begin with an opening brace, so that a slash at the end of the base is no part of the arguments. -/
theorem ArgumentsText.ne_brace {behind rest : List Char} (h : ArgumentsText behind) : behind ≠ '\x7b' :: rest := by
  cases h <;> simp

/-- A character that begins neither a query nor a placeholder belongs to the base. -/
theorem beforeArguments_cons {c : Char} {rest : List Char} (hquery : c ≠ '?') (hsegment : ∀ after, rest ≠ '\x7b' :: after) :
    beforeArguments (c :: rest) = c :: beforeArguments rest := by
  rw [beforeArguments]
  · exact hquery
  · exact fun after _ => hsegment after

/-- A base without reserved characters is what comes before the arguments behind it. -/
theorem beforeArguments_append {base behind : List Char} (hbase : ∀ c ∈ base, c ∉ reservedInRoutes) (hbehind : ArgumentsText behind) :
    beforeArguments (base ++ behind) = base := by
  induction base with
  | nil => exact hbehind.beforeArguments_eq
  | cons c rest ih =>
    obtain ⟨hc, hrest⟩ := List.forall_mem_cons.1 hbase
    have hquery : c ≠ '?' := by
      rintro rfl
      exact hc (by decide)
    have hsegment : ∀ after, rest ++ behind ≠ '\x7b' :: after := by
      intro after heq
      cases rest with
      | nil => exact hbehind.ne_brace heq
      | cons next _ =>
        obtain ⟨rfl, -⟩ := List.cons.inj heq
        exact hrest _ List.mem_cons_self (by decide)
    rw [List.cons_append, beforeArguments_cons hquery hsegment, ih hrest]

namespace Destination

/-- The parts of a route begin with a segment if an argument has to be given, and with the query if not. -/
theorem argumentsText_routeParts (destination : Destination) : ArgumentsText (destination.routeParts.flatMap (·.template.toList)) := by
  rw [routeParts]
  cases destination.mandatory with
  | cons argument rest =>
    rw [List.map_cons, List.cons_append, List.flatMap_cons, toList_template]
    simp only [List.append_assoc]
    exact .segment _
  | nil =>
    cases destination.optional with
    | nil => exact .none
    | cons argument rest =>
      rw [List.map_nil, List.nil_append, queryParts, List.flatMap_cons, toList_template]
      simp only [String.toList_append, List.append_assoc]
      exact .query _

/-- The base of the route of a destination is what comes before its arguments. -/
theorem beforeArguments_routeTemplate {destination : Destination} (h : PlainRoute destination.baseRoute) :
    beforeArguments destination.routeTemplate.toList = destination.baseRoute.toList := by
  rw [toList_routeTemplate]
  exact beforeArguments_append h.unreserved destination.argumentsText_routeParts

end Destination

/-- A route without arguments is all base. -/
theorem PlainRoute.beforeArguments_eq {route : String} (h : PlainRoute route) : beforeArguments route.toList = route.toList := by
  have happend := beforeArguments_append h.unreserved .none
  rwa [List.append_nil] at happend

namespace Model

/-- The routes that are navigated to: those of destinations, with their arguments, and those of graphs. -/
def fullRoutes (model : Model) : List String :=
  model.destinations.map (·.routeTemplate) ++ model.graphs.map (·.route)

/-- Without their arguments, the routes that are navigated to are the routes that the check compares. -/
theorem WellNamed.beforeArguments_fullRoutes {model : Model} (h : model.WellNamed) :
    model.fullRoutes.map (beforeArguments ·.toList) = model.routes.map (·.toList) := by
  rw [fullRoutes, routes, List.map_append, List.map_append, List.map_map, List.map_map, List.map_map, List.map_map]
  congr 1
  · refine List.map_congr_left fun destination hdestination => ?_
    exact Destination.beforeArguments_routeTemplate (h.plainRoutes _ (List.mem_append_left _ (List.mem_map_of_mem hdestination)))
  · refine List.map_congr_left fun graph hgraph => ?_
    exact (h.plainRoutes _ (List.mem_append_right _ (List.mem_map_of_mem hgraph))).beforeArguments_eq

/-- In a valid model, the routes of all destinations with their arguments and the routes of all graphs are distinct. -/
theorem nodup_fullRoutes {model : Model} (hvalid : model.isValid = true) : model.fullRoutes.Nodup := by
  have hnames := ((isValid_iff_wellFormed model).1 hvalid).names
  refine List.Nodup.of_map (beforeArguments ·.toList) ?_
  rw [hnames.beforeArguments_fullRoutes]
  exact hnames.distinctRoutes.map fun _ _ => String.toList_injective

/-- A destination with an argument behind its route, one whose route has a slash where the argument begins, and one that begins with a slash and
has nothing but a query. -/
def nearRoutes : Model :=
  let graph := Name.ofQualified "app.RootGraph"
  let screen (name route : String) (arguments : List Argument) (isStart : Bool) : Destination :=
    { name, target := Name.ofQualified ("app." ++ name), kind := .composable, baseRoute := route, graph, isStart, arguments,
      argumentsClass? := none, deepLinks := [], result? := none, sourceIds := [] }
  let id : Argument := { name := "id", type := ⟨Name.ofQualified "kotlin.Int", false, []⟩, navType := .primitive .int, default? := none }
  let tab : Argument := { name := "tab", type := ⟨Name.ofQualified "kotlin.String", true, []⟩, navType := .primitive .string, default? := none }
  { destinations := [
      screen "UserDestination" "user" [id] true,
      screen "UserIdDestination" "user/id" [] false,
      screen "UserPageDestination" "user/" [id] false,
      screen "UserTabDestination" "user//" [tab] false]
    graphs := [{
      type := graph, route := "user//id", start := .destination "UserDestination", parent? := none, isParentStart := false, isHost := true,
      isDefault := true, startArguments := [], sourceIds := [] }]
    serializers := []
    modules := [] }

/-- Routes that are alike but for their arguments are distinct. -/
theorem nodup_fullRoutes_nearRoutes :
    nearRoutes.isValid = true ∧ nearRoutes.fullRoutes = ["user/\x7bid\x7d", "user/id", "user//\x7bid\x7d", "user//?tab=\x7btab\x7d", "user//id"] ∧
      nearRoutes.fullRoutes.Nodup := by
  have hvalid : nearRoutes.isValid = true := by decide +kernel
  exact ⟨hvalid, by decide +kernel, nodup_fullRoutes hvalid⟩

end Model

end NavGen
