import Mathlib.Algebra.Order.BigOperators.Group.List
import NavGen.Proofs.Check.WellFormed
import NavGen.Proofs.Generated.ArgumentRenderings
import NavGen.Proofs.Pass.AssembledModel

/-!
# Names in the operator of a destination

The operator that builds a direction takes the arguments as parameters, and its body names them beside the base route of the destination and the nav
types that write their values. A parameter hides whatever else has its name. The check of a model compares the names of arguments with one another
only. So the body builds the route that the destination declares exactly if no argument is called like the base route or like one of these nav types.
-/

namespace NavGen

/-! ## What the body says -/

/-- The expression for a route: a base, and what is appended to it. -/
structure RouteExpression where
  base : String
  parts : List SerializedPart

/-- The expression as code. -/
def RouteExpression.layout (expression : RouteExpression) : List Layout :=
  [Layout.code (expression.base ++ " +"), .indent] ++ SerializedPart.lines expression.parts ++ [.dedent]

/-- The operator with its parameters, which returns the direction of a route. -/
def RouteExpression.operator (parameters : List String) (expression : RouteExpression) : List Layout :=
  [Layout.code "public operator fun invoke(", .indent] ++ parameters.map Layout.code ++ [.dedent]
    ++ Layout.braced (.code "): Direction")
      ([Layout.code "return Direction(", .indent] ++ expression.layout ++ [.dedent, Layout.code ")"]) ""

/-! ## What the body means -/

/-- What happens to values when a route is built. -/
structure RouteRuntime (V : Type) where
  /-- A value as text. -/
  text : V → String
  /-- What an object writes for a value. -/
  serialize : V → V → String

/-- The route that an expression builds when `scope` says what identifiers stand for. -/
def RouteExpression.value {V : Type} (runtime : RouteRuntime V) (scope : String → V) (expression : RouteExpression) : String :=
  runtime.text (scope expression.base) ++
    String.join (expression.parts.map fun part => part.opening ++ runtime.serialize (scope part.receiver) (scope part.argument))

namespace Destination

variable {V : Type} {destination : Destination}

/-- What an identifier stands for in the operator: the parameter of that name if there is one, else what it stands for outside. -/
def scope (destination : Destination) (values : Argument → V) (outside : String → V) (identifier : String) : V :=
  match destination.argument? identifier with
  | some argument => values argument
  | none => outside identifier

/-- The name of an argument stands for its value if arguments have distinct names. -/
theorem scope_name (hnames : (destination.arguments.map (·.name)).Nodup) {argument : Argument} (h : argument ∈ destination.arguments)
    (values : Argument → V) (outside : String → V) : destination.scope values outside argument.name = values argument := by
  have hfound : destination.argument? argument.name = some argument := (find?_key_eq_some hnames).2 ⟨h, rfl⟩
  rw [scope, hfound]

/-- No parameter hides what no argument is called like. -/
theorem scope_of_forall_ne {identifier : String} (h : ∀ argument ∈ destination.arguments, argument.name ≠ identifier)
    (values : Argument → V) (outside : String → V) : destination.scope values outside identifier = outside identifier := by
  have hfound : destination.argument? identifier = none := by
    rw [argument?, find?_key_eq_none, List.mem_map]
    rintro ⟨argument, hargument, hname⟩
    exact h argument hargument hname
  rw [scope, hfound]

/-- What an argument is called like is hidden by a parameter. -/
theorem scope_of_exists {identifier : String} (h : ∃ argument ∈ destination.arguments, argument.name = identifier) (inside : V)
    (outside : String → V) : destination.scope (fun _ => inside) outside identifier = inside := by
  obtain ⟨argument, hfound⟩ := Option.isSome_iff_exists.1 (find?_key_isSome.2 h)
  rw [scope, argument?, hfound]

end Destination

namespace Generation

variable {generation : Generation} {destination : Destination}

/-- The expression in the operator of a destination. -/
def routeExpression (generation : Generation) (destination : Destination) : RouteExpression where
  base := "baseRoute"
  parts := destination.routeParts.map generation.serializedPart

/-- The route that a destination declares for values of its arguments: its base route, then each value as the nav type of its argument writes it. -/
def declaredRoute {V : Type} (generation : Generation) (destination : Destination) (runtime : RouteRuntime V) (outside : String → V)
    (values : Argument → V) : String :=
  destination.baseRoute ++ String.join (destination.routeParts.map fun part =>
    part.opening ++ runtime.serialize (outside (generation.navTypeOf part.argument).simple) (values part.argument))

/-- Whether the operator of a destination builds the declared route, whatever the values are and however they are written, if outside of the operator
the base route is what the destination declares. -/
def BuildsDeclared (generation : Generation) (destination : Destination) : Prop :=
  ∀ (V : Type) (runtime : RouteRuntime V) (outside : String → V) (values : Argument → V),
    runtime.text (outside "baseRoute") = destination.baseRoute →
      (generation.routeExpression destination).value runtime (destination.scope values outside) =
        generation.declaredRoute destination runtime outside values

/-- Whether no argument of a destination is called like something else that the body of the operator names. -/
structure NamesApart (generation : Generation) (destination : Destination) : Prop where
  baseRoute : ∀ argument ∈ destination.arguments, argument.name ≠ "baseRoute"
  navTypes : ∀ argument ∈ destination.arguments, ∀ used ∈ destination.arguments, argument.name ≠ (generation.navTypeOf used).simple

instance (generation : Generation) (destination : Destination) : Decidable (generation.NamesApart destination) :=
  decidable_of_iff
    ((∀ argument ∈ destination.arguments, argument.name ≠ "baseRoute") ∧
      ∀ argument ∈ destination.arguments, ∀ used ∈ destination.arguments, argument.name ≠ (generation.navTypeOf used).simple)
    ⟨fun h => ⟨h.1, h.2⟩, fun h => ⟨h.baseRoute, h.navTypes⟩⟩

/-- The operator of a destination returns what the expression builds. -/
theorem layout_invokeOperator_eq_operator (h : destination.arguments ≠ []) :
    (generation.invokeOperator destination).layout =
      (generation.routeExpression destination).operator (destination.arguments.map (·.parameterCode)) := by
  have hbase : "baseRoute" ++ " +" = "baseRoute +" := rfl
  rw [invokeOperator, if_neg (by simpa using h), ← lines_serializedParts, RouteExpression.operator, RouteExpression.layout, routeExpression,
    hbase, List.map_map]
  simp only [List.append_assoc, List.cons_append, List.nil_append]
  rfl

/-- The expression builds its route from the parts of the declared one. -/
theorem value_routeExpression {V : Type} (runtime : RouteRuntime V) (scope : String → V) :
    (generation.routeExpression destination).value runtime scope =
      runtime.text (scope "baseRoute") ++ String.join (destination.routeParts.map fun part =>
        part.opening ++ runtime.serialize (scope (generation.navTypeOf part.argument).simple) (scope part.argument.name)) := by
  rw [RouteExpression.value, routeExpression, List.map_map]
  rfl

/-- If nothing is hidden, the expression builds the declared route. -/
theorem NamesApart.buildsDeclared (h : generation.NamesApart destination) (hnames : (destination.arguments.map (·.name)).Nodup) :
    generation.BuildsDeclared destination := by
  intro V runtime outside values hbase
  have hparts : ∀ part ∈ destination.routeParts,
      destination.scope values outside (generation.navTypeOf part.argument).simple = outside (generation.navTypeOf part.argument).simple ∧
        destination.scope values outside part.argument.name = values part.argument := by
    intro part hpart
    have hargument : part.argument ∈ destination.arguments := destination.perm_argument_routeParts.mem_iff.1 (List.mem_map_of_mem hpart)
    exact ⟨Destination.scope_of_forall_ne (fun argument hmem => h.navTypes argument hmem _ hargument) values outside,
      Destination.scope_name hnames hargument values outside⟩
  rw [value_routeExpression, declaredRoute, Destination.scope_of_forall_ne h.baseRoute, hbase]
  refine congrArg (destination.baseRoute ++ String.join ·) (List.map_congr_left fun part hpart => ?_)
  obtain ⟨hreceiver, hvalue⟩ := hparts part hpart
  rw [hreceiver, hvalue]

/-- A runtime that shows which identifiers of an expression stand for parameters: a parameter adds a sign to the route. -/
def markingRuntime (base : String) : RouteRuntime Bool where
  text hidden := base ++ if hidden then "!" else ""
  serialize hidden _ := if hidden then "!" else ""

/-- Whatever is hidden changes a route that the expression builds. -/
theorem BuildsDeclared.namesApart (h : generation.BuildsDeclared destination) : generation.NamesApart destination := by
  have hroute := h Bool (markingRuntime destination.baseRoute) (fun _ => false) (fun _ => true) (String.append_empty)
  have hlength := congrArg String.length hroute
  simp only [value_routeExpression, declaredRoute, markingRuntime, List.map_map, Function.comp_def, String.length_append, String.length_join,
    Bool.false_eq_true, if_false, String.length_empty, Nat.add_zero] at hlength
  generalize hscope : destination.scope (fun _ => true) (fun _ => false) = hidden at hlength
  have hhidden : ∀ {identifier : String}, (∃ argument ∈ destination.arguments, argument.name = identifier) → hidden identifier = true :=
    fun hexists => hscope ▸ Destination.scope_of_exists hexists true _
  have hle : ∀ part ∈ destination.routeParts, part.opening.length ≤
      part.opening.length + (if hidden (generation.navTypeOf part.argument).simple = true then "!" else "").length :=
    fun _ _ => Nat.le_add_right _ _
  constructor
  · intro argument hargument hname
    rw [hhidden ⟨argument, hargument, hname⟩, if_pos rfl] at hlength
    have hsum := List.sum_le_sum hle
    have hsign : "!".length = 1 := rfl
    omega
  · intro argument hargument used hused hname
    obtain ⟨part, hpart, rfl⟩ := List.mem_map.1 (destination.perm_argument_routeParts.mem_iff.2 hused)
    have hlt : part.opening.length <
        part.opening.length + (if hidden (generation.navTypeOf part.argument).simple = true then "!" else "").length := by
      rw [hhidden ⟨argument, hargument, hname⟩, if_pos rfl]
      exact Nat.lt_add_one _
    have hsum := List.sum_lt_sum _ _ hle ⟨part, hpart, hlt⟩
    omega

/-- The file of a destination with arguments has an operator that builds the declared route exactly if no argument has a name that the body of the
operator means something else by. -/
theorem buildsDeclared_iff_namesApart (generation : Generation) (hvalid : generation.model.isValid = true)
    (hdestination : destination ∈ generation.model.destinations) (harguments : destination.arguments ≠ []) :
    Layout.WrittenIn ((generation.routeExpression destination).operator (destination.arguments.map (·.parameterCode)))
        (generation.destinationFile destination).content ∧
      (generation.BuildsDeclared destination ↔ generation.NamesApart destination) := by
  have hmodel := (Model.isValid_iff_wellFormed generation.model).1 hvalid
  have hnames := (hmodel.destinations destination hdestination).argumentNames
  refine ⟨?_, BuildsDeclared.namesApart, fun h => h.buildsDeclared hnames⟩
  rw [← layout_invokeOperator_eq_operator harguments]
  exact writtenIn_destinationFile List.infix_rfl (Fragment.infix_concat_of_mem (by simp))

/-- A screen with an argument of a given name and one of an enumeration. -/
def proxyTable (argument : String) : SymbolTable :=
  { declarations := [
      { qualified := "app.ProxyMode", kind := .enumClass },
      { qualified := "app.ProxyScreen"
        kind := .function
        parameters := [
          { name := argument, type := .plain "kotlin.String", default? := none },
          { name := "mode", type := .plain "app.ProxyMode", default? := none }]
        annotations := [{ type := Library.destination, typeArguments := [], arguments := [("start", .bool true)] }] }] }

/-- An argument that is called like the type of another, but not like its nav type, hides nothing. -/
theorem buildsDeclared_iff_namesApart_proxyMode :
    ∃ model, (Model.assemble? (proxyTable "proxyMode").symbols).result = .ok (some model) ∧ model.isValid = true ∧
      ∃ destination ∈ model.destinations, destination.arguments ≠ [] ∧
        (destination.arguments.map fun argument => ((inApp model).navTypeOf argument).simple) = ["DestinationsStringNavType", "proxyModeNavType"] ∧
        (inApp model).BuildsDeclared destination := by
  obtain ⟨model, hassembled, hvalid, destination, hdestination, hnavTypes, hapart⟩ := Model.exists_assembled (proxyTable "proxyMode").symbols
    (fun model => model.isValid = true ∧ ∃ destination ∈ model.destinations,
      (destination.arguments.map fun argument => ((inApp model).navTypeOf argument).simple) = ["DestinationsStringNavType", "proxyModeNavType"] ∧
      (inApp model).NamesApart destination) (by decide +kernel)
  have harguments : destination.arguments ≠ [] := by
    intro hnil
    rw [hnil] at hnavTypes
    contradiction
  exact ⟨model, hassembled, hvalid, destination, hdestination, harguments, hnavTypes,
    (buildsDeclared_iff_namesApart (inApp model) hvalid hdestination harguments).2.2 hapart⟩

/-- That all names are apart, or at least the declared route is built, is false in general: an argument of a valid model can be called `baseRoute`. -/
theorem buildsDeclared_false :
    ¬∀ generation : Generation, generation.model.isValid = true →
      ∀ destination ∈ generation.model.destinations, destination.arguments ≠ [] →
        generation.NamesApart destination ∨ generation.BuildsDeclared destination := by
  intro hall
  obtain ⟨model, -, hvalid, destination, hdestination, hlength, hhidden⟩ := Model.exists_assembled (proxyTable "baseRoute").symbols
    (fun model => model.isValid = true ∧ ∃ destination ∈ model.destinations,
      destination.arguments.length = 2 ∧ ¬(inApp model).NamesApart destination) (by decide +kernel)
  have harguments : destination.arguments ≠ [] := List.ne_nil_of_length_pos (hlength ▸ Nat.two_pos)
  exact hhidden ((hall (inApp model) hvalid destination hdestination harguments).elim id BuildsDeclared.namesApart)

end Generation

end NavGen
