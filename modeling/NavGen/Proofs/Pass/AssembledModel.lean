import NavGen.Pass.Run
import NavGen.Proofs.Pass.DeclaredGraphs

/-!
# Assembled models

A model may hold anything, but one that is assembled from declarations does not. Its arguments and results cross a route as single values, as arrays
of primitives or as lists of single values, because reading refuses all else, and the parent of each graph is the type of a graph.
-/

namespace NavGen

namespace NavType

/-- Whether a nav type is that of a single value, which is neither an array nor a list. -/
def IsSingle : NavType → Prop
  | .primitiveArray _ | .list _ => False
  | _ => True

/-- Whether a nav type is one that an argument can have: only single values can be in lists. -/
def IsSupported : NavType → Prop
  | .list element => element.IsSingle
  | _ => True

theorem IsSingle.isSupported {navType : NavType} (h : navType.IsSingle) : navType.IsSupported := by
  cases navType with
  | list element => exact h.elim
  | _ => trivial

end NavType

/-! ## Types that can be read -/

namespace TypeContext

theorem isSingle_of_classNavType? {context : TypeContext} {declaration : Declaration} {navType : NavType}
    (h : context.classNavType? declaration = some navType) : navType.IsSingle := by
  unfold classNavType? at h
  split at h
  · cases h
    trivial
  · split at h
    · cases h
      trivial
    · dsimp only at h
      split at h
      · cases h
        trivial
      · split at h
        · cases h
          trivial
        · contradiction

theorem isSingle_of_singleNavType {context : TypeContext} {type : TypeExpr} {navType : NavType}
    (h : context.singleNavType type = .ok navType) : navType.IsSingle := by
  unfold singleNavType at h
  split at h
  · cases h
    trivial
  · split at h
    · cases h
      trivial
    · split at h
      · rename_i hclass
        cases h
        obtain ⟨declaration, -, hdeclaration⟩ := Option.bind_eq_some_iff.1 hclass
        exact isSingle_of_classNavType? hdeclaration
      · contradiction

/-- A type that can be read crosses a route in a way that is supported. -/
theorem isSupported_of_navType {context : TypeContext} {type : TypeExpr} {navType : NavType} (h : context.navType type = .ok navType) :
    navType.IsSupported := by
  unfold TypeContext.navType at h
  split at h
  · unfold arrayNavType at h
    split at h
    · contradiction
    · cases h
      trivial
  · split at h
    · split at h
      · contradiction
      · rename_i element _
        cases hsingle : context.singleNavType element with
        | error error =>
          rw [hsingle] at h
          contradiction
        | ok single =>
          rw [hsingle] at h
          cases h
          exact isSingle_of_singleNavType hsingle
    · exact (isSingle_of_singleNavType h).isSupported

end TypeContext

/-! ## Destinations that can be read -/

namespace DestinationReader

variable {reader : DestinationReader} {owner : String}

/-- Whether a nav type is that of a type that can be read, whoever declares it. -/
def Maps (reader : DestinationReader) (navType : NavType) : Prop :=
  ∃ owner argument type, (reader.context owner argument).navType type = .ok navType

/-- Whether a type of the model is read from a written one, and a nav type with it. -/
def Reads (reader : DestinationReader) (type : TypeUse) (navType : NavType) : Prop :=
  ∃ owner argument written, TypeExpr.typeUse written = type ∧ (reader.context owner argument).navType written = .ok navType

theorem Reads.maps {type : TypeUse} {navType : NavType} (h : reader.Reads type navType) : reader.Maps navType := by
  obtain ⟨owner, argument, written, -, hread⟩ := h
  exact ⟨owner, argument, written, hread⟩

theorem reads_of_resultSender {type : TypeExpr} {result : ResultSender} (h : reader.resultSender owner type = .ok result) :
    reader.Reads result.type result.navType := by
  obtain ⟨navType, hnavType, h⟩ := bind_eq_ok.1 h
  cases h
  exact ⟨owner, "result", type, rfl, hnavType⟩

theorem reads_of_parameterResult {parameter : Parameter} {result : ResultSender}
    (h : reader.parameterResult owner parameter = .ok result) : reader.Reads result.type result.navType := by
  unfold parameterResult at h
  split at h
  · contradiction
  · exact reads_of_resultSender h

theorem reads_of_argument {parameter : Parameter} {argument : Argument} (h : reader.argument owner parameter = .ok argument) :
    reader.Reads argument.type argument.navType := by
  unfold DestinationReader.argument at h
  split at h
  · contradiction
  · obtain ⟨navType, hnavType, h⟩ := bind_eq_ok.1 h
    cases h
    exact ⟨owner, parameter.name, parameter.type, rfl, hnavType⟩

/-- Whether the types of all arguments and of the result can be read with their nav types. -/
structure ReadsParameters (reader : DestinationReader) (read : ReadParameters) : Prop where
  arguments : ∀ argument ∈ read.arguments, reader.Reads argument.type argument.navType
  result : ∀ result, read.result? = some result → reader.Reads result.type result.navType

theorem readsParameters_of_parameters {result? : Option ResultSender}
    (hresult : ∀ result, result? = some result → reader.Reads result.type result.navType)
    {parameters : List Parameter} {read : ReadParameters} (h : reader.parameters owner result? parameters = .ok read) :
    reader.ReadsParameters read := by
  induction parameters generalizing result? read with
  | nil =>
    cases h
    exact ⟨nofun, hresult⟩
  | cons parameter rest ih =>
    rw [DestinationReader.parameters] at h
    split at h
    · obtain ⟨result, hparameter, h⟩ := bind_eq_ok.1 h
      refine ih (fun other hother => ?_) h
      rw [← Option.some.inj hother]
      exact reads_of_parameterResult hparameter
    · split at h
      · exact ih hresult h
      · obtain ⟨argument, hargument, h⟩ := bind_eq_ok.1 h
        obtain ⟨others, hothers, h⟩ := bind_eq_ok.1 h
        cases h
        have hrest := ih hresult hothers
        exact ⟨List.forall_mem_cons.2 ⟨reads_of_argument hargument, hrest.arguments⟩, hrest.result⟩

theorem readsParameters_of_readParameters {target : Declaration} {argumentsClass? : Option Declaration} {read : ReadParameters}
    (h : reader.readParameters target argumentsClass? = .ok read) : reader.ReadsParameters read := by
  unfold readParameters at h
  split at h
  · exact readsParameters_of_parameters (by simp) h
  · split at h
    · cases h
      exact ⟨by simp, by simp⟩
    · exact readsParameters_of_parameters (by simp) h

theorem reads_of_activityResult {target : Declaration} {result : ResultSender}
    (h : reader.activityResult target = .ok (some result)) : reader.Reads result.type result.navType := by
  unfold activityResult at h
  split at h
  · cases h
  · split at h
    · contradiction
    · rename_i type _
      cases hsender : reader.resultSender target.qualified type with
      | error error =>
        rw [hsender] at h
        contradiction
      | ok sender =>
        rw [hsender] at h
        cases h
        exact reads_of_resultSender hsender

theorem result_read (reader : DestinationReader) (path : AnnotationPath) : (reader.read path).result = reader.destination path := by
  simp only [read, Logged.result_bind, Logged.result_lift, Logged.result_debug, Logged.result_pure]
  cases reader.destination path <;> rfl

/-- The result of a destination: that of an activity is sent by an interface, others by a parameter. -/
def resultOf (reader : DestinationReader) (target : Declaration) (read : ReadParameters) : Except SetupError (Option ResultSender) :=
  if target.kind = .plainClass then reader.activityResult target else .ok read.result?

/-- A destination that can be read is made of its path, of the parameters that are read and of its result. -/
theorem destination_eq_ok {path : AnnotationPath} {destination : Destination} (h : reader.destination path = .ok destination) :
    ∃ (argumentsClass? : Option Declaration) (read : ReadParameters) (result? : Option ResultSender) (links : List DeepLink),
      reader.argumentsClass? path = .ok argumentsClass? ∧ reader.readParameters path.target argumentsClass? = .ok read ∧
        reader.resultOf path.target read = .ok result? ∧ deepLinks path = .ok links ∧
        destination = {
          name := path.target.simpleName ++ "Destination"
          target := path.target.name
          kind := if path.target.kind = .plainClass then .activity (activityInfo path) else .composable
          baseRoute := (path.textArgument? "route").getD (Text.snake path.target.simpleName)
          graph := reader.graphs.owningGraph path.graphType?
          isStart := path.boolArgument "start"
          arguments := read.arguments
          argumentsClass? := argumentsClass?.map (·.name)
          deepLinks := links
          result?
          sourceIds := path.target.sourceIds } := by
  obtain ⟨argumentsClass?, hclass, h⟩ := bind_eq_ok.1 h
  obtain ⟨read, hread, h⟩ := bind_eq_ok.1 h
  refine ⟨argumentsClass?, read, ?_⟩
  simp only [resultOf]
  by_cases hkind : path.target.kind = .plainClass
  all_goals
    simp only [hkind, if_true, if_false, decide_true, decide_false, Bool.false_eq_true] at h ⊢
    obtain ⟨result?, hresult, h⟩ := bind_eq_ok.1 h
    obtain ⟨links, hlinks, h⟩ := bind_eq_ok.1 h
    cases h
    exact ⟨result?, links, hclass, hread, hresult, hlinks, rfl⟩

/-- The types of the arguments and of the result of a destination that can be read are read with their nav types. -/
theorem readsParameters_of_destination {path : AnnotationPath} {destination : Destination} (h : reader.destination path = .ok destination) :
    reader.ReadsParameters { arguments := destination.arguments, result? := destination.result? } := by
  obtain ⟨argumentsClass?, read, result?, links, -, hread, hresult, -, rfl⟩ := destination_eq_ok h
  have hreads := readsParameters_of_readParameters hread
  refine ⟨hreads.arguments, fun result hsome => ?_⟩
  unfold resultOf at hresult
  split at hresult
  · exact reads_of_activityResult (hresult.trans (congrArg Except.ok hsome))
  · cases hresult
    exact hreads.result result hsome

/-- The nav types of a destination that can be read are those of types that can be read. -/
theorem maps_of_destination {path : AnnotationPath} {destination : Destination} (h : reader.destination path = .ok destination) :
    ∀ navType ∈ destination.navTypes, reader.Maps navType := by
  have hreads := readsParameters_of_destination h
  intro navType hmem
  rcases List.mem_append.1 hmem with hmem | hmem
  · obtain ⟨argument, hargument, rfl⟩ := List.mem_map.1 hmem
    exact (hreads.arguments argument hargument).maps
  · obtain ⟨result, hsome, rfl⟩ := Option.map_eq_some_iff.1 (Option.mem_toList.1 hmem)
    exact (hreads.result result hsome).maps

end DestinationReader

/-! ## The model of a table -/

/-- What holds of a model that was assembled from declarations. -/
structure Model.Assembled (model : Model) : Prop where
  navTypes : ∀ destination ∈ model.destinations, ∀ navType ∈ destination.navTypes, navType.IsSupported
  /-- Parents are types of graphs also by their simple names. -/
  parents : ∀ graph ∈ model.graphs, ∀ parent, graph.parent? = some parent → ∃ other ∈ model.graphs, other.type = parent

/-- Completed graphs have parents among them. -/
theorem GraphDeclarations.CompletedAll.parents_of_mem {graphs : List GraphDeclaration} {destinations : List Destination}
    {completed : List Graph} (h : CompletedAll graphs destinations completed) {graph : Graph} (hmem : graph ∈ completed) {parent : Name}
    (hparent : graph.parent? = some parent) : ∃ other ∈ completed, other.type = parent := by
  obtain ⟨other, hother, htype⟩ := h.parents graph.declaration (h.declarations ▸ List.mem_map_of_mem hmem) parent hparent
  rw [← h.declarations] at hother
  obtain ⟨otherGraph, hotherGraph, rfl⟩ := List.mem_map.1 hother
  exact ⟨otherGraph, hotherGraph, htype⟩

/-- What can be decided of the model of some symbols holds of a model that is assembled from them. -/
theorem Model.exists_assembled (symbols : Symbols) (p : Model → Prop) [DecidablePred p]
    (h : (Model.assemble? symbols).result.toOption.any (fun model? => model?.any fun model => decide (p model)) = true) :
    ∃ model, (Model.assemble? symbols).result = .ok (some model) ∧ p model := by
  obtain ⟨model?, hassembled, hmodel⟩ := exists_ok_of_any (Model.assemble? symbols).result
    (fun model? => model?.any (fun model => decide (p model)) = true) (by simpa using h)
  obtain ⟨model, rfl, hp⟩ := (Option.any_eq_true _ _).1 hmodel
  exact ⟨model, hassembled, of_decide_eq_true hp⟩

/-- What is generated for a model in a package of its own, as a module that publishes nothing. -/
def Generation.inApp (model : Model) : Generation :=
  { settings := { package := "app", moduleName? := none }, model }

/-- The stages that a model of some symbols comes from: its destinations are read one by one from the paths that are found, with the serializers of the
symbols, and its graphs are completed with them. -/
theorem Model.stages_of_assemble? {symbols : Symbols} {model : Model} (h : (Model.assemble? symbols).result = .ok (some model)) :
    ∃ (composables activities : List AnnotationPath) (reader : DestinationReader) (destinations : List Destination) (graphs : List Graph),
      symbols.composablePaths.result = .ok composables ∧ symbols.activityPaths.result = .ok activities ∧
        reader.table = symbols.table ∧ (SerializerRegistry.collect symbols).result = .ok reader.registry ∧
        (composables ++ activities).mapM reader.destination = .ok destinations ∧ reader.graphs.graphsFor symbols destinations = .ok graphs ∧
        model.destinations.Perm destinations ∧ model.graphs.Perm graphs := by
  unfold Model.assemble? at h
  simp only [Logged.result_bind] at h
  obtain ⟨composables, hcomposables, h⟩ := bind_eq_ok.1 h
  obtain ⟨activities, hactivities, h⟩ := bind_eq_ok.1 h
  obtain ⟨graphs, -, h⟩ := bind_eq_ok.1 h
  split at h
  · cases h
  · simp only [Logged.result_bind, Logged.result_lift, Logged.result_debug, Logged.result_pure] at h
    obtain ⟨registry, hregistry, h⟩ := bind_eq_ok.1 h
    obtain ⟨destinations, hdestinations, h⟩ := bind_eq_ok.1 h
    obtain ⟨navGraphs, hnavGraphs, h⟩ := bind_eq_ok.1 h
    obtain ⟨modules, -, h⟩ := bind_eq_ok.1 h
    cases h
    rw [Logged.result_each] at hdestinations
    simp only [DestinationReader.result_read] at hdestinations
    exact ⟨composables, activities, _, destinations, navGraphs, hcomposables, hactivities, rfl, hregistry, hdestinations, hnavGraphs,
      perm_sortBy destinations, perm_sortBy navGraphs⟩

/-- The nav types of a model of some symbols are those of types that are read with the serializers of the symbols. -/
theorem Model.exists_reader_of_assemble? {symbols : Symbols} {model : Model} (h : (Model.assemble? symbols).result = .ok (some model)) :
    ∃ reader : DestinationReader, reader.table = symbols.table ∧ (SerializerRegistry.collect symbols).result = .ok reader.registry ∧
      ∀ destination ∈ model.destinations, ∀ navType ∈ destination.navTypes, reader.Maps navType := by
  obtain ⟨_, _, reader, _, -, -, -, htable, hregistry, hdestinations, -, hperm, -⟩ := Model.stages_of_assemble? h
  refine ⟨reader, htable, hregistry, fun destination hmem => ?_⟩
  obtain ⟨path, -, hread⟩ := exists_of_mem_mapM hdestinations (hperm.mem_iff.1 hmem)
  exact DestinationReader.maps_of_destination hread

theorem Model.assembled_of_assemble? {symbols : Symbols} {model : Model} (h : (Model.assemble? symbols).result = .ok (some model)) :
    model.Assembled := by
  constructor
  · intro destination hmem navType hnavType
    obtain ⟨reader, -, -, hmaps⟩ := Model.exists_reader_of_assemble? h
    obtain ⟨owner, argument, type, hread⟩ := hmaps destination hmem navType hnavType
    exact TypeContext.isSupported_of_navType hread
  · intro graph hmem parent hparent
    obtain ⟨_, _, _, _, graphs, -, -, -, -, -, hgraphs, -, hperm⟩ := Model.stages_of_assemble? h
    obtain ⟨other, hother, htype⟩ :=
      (GraphDeclarations.completedAll_of_graphsFor hgraphs).parents_of_mem (hperm.mem_iff.1 hmem) hparent
    exact ⟨other, hperm.mem_iff.2 hother, htype⟩

end NavGen
