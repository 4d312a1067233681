import NavGen.Pass.Run
import NavGen.Proofs.Check.WellFormed
import NavGen.Proofs.Pass.AnnotationPath
import NavGen.Proofs.Pass.Destinations
import NavGen.Proofs.Pass.Flush
import NavGen.Proofs.Pass.Modules

/-!
# A pass does not depend on the order of the declarations

Compilers list declarations in an order of their own, so a pass has to end the same for every order. Each stage reads the same things up to order,
or fails in both cases. The canonical order of a model removes the rest of the difference where its keys are distinct; where they are not, the check
finds that out, and nothing is generated.
-/

namespace NavGen

/-! ## Models -/

/-- Whether two models hold the same up to order, and no two modules have the same package. -/
structure Model.Reorders (model model' : Model) : Prop where
  destinations : model.destinations.Perm model'.destinations
  graphs : model.graphs.Perm model'.graphs
  serializers : model.serializers = model'.serializers
  modules : model.modules.Perm model'.modules
  packages : (model.modules.map (·.package)).Nodup

namespace Model.Reorders

variable {model model' : Model}

theorem symm (h : model.Reorders model') : model'.Reorders model :=
  ⟨h.destinations.symm, h.graphs.symm, h.serializers.symm, h.modules.symm, (h.modules.map _).nodup h.packages⟩

/-- A valid model in canonical order does not depend on the order it had before. -/
theorem canonical_eq (h : model.Reorders model') (hvalid : model.canonical.isValid = true) :
    model.canonical = model'.canonical := by
  have hnamed : model.canonical.WellNamed := (nameFindings_eq_nil_iff _).1 ((isValid_iff_findings _).1 hvalid).2.2
  have hnames : (model.destinations.map (·.name)).Nodup := ((perm_sortBy _).map _).nodup hnamed.destinationNames
  have hroutes : (model.graphs.map (·.route)).Nodup :=
    ((perm_sortBy _).map _).nodup (List.nodup_append.1 hnamed.distinctRoutes).2.1
  unfold canonical
  rw [sortBy_key_eq_of_perm h.destinations hnames, sortBy_key_eq_of_perm h.graphs hroutes, h.serializers,
    sortBy_key_eq_of_perm h.modules h.packages]

end Model.Reorders

/-! ## The model of a table -/

namespace SymbolTable.Reorders

variable {table table' : SymbolTable}

/-- The models of two tables are the same up to order before they are put in order, or there is no model of either. -/
theorem endAlike_assemble? (h : table.Reorders table')
    (hpackages : ((ModuleReader.registries table).filterMap ModuleReader.publishedPackage?).Nodup) :
    EndAlike
      (Option.Rel fun ordered ordered' => ∃ model model' : Model,
        model.Reorders model' ∧ ordered = model.canonical ∧ ordered' = model'.canonical)
      (Model.assemble? table.symbols).result (Model.assemble? table'.symbols).result := by
  unfold Model.assemble?
  simp only [Logged.result_bind]
  refine h.endAlike_composablePaths.bind fun composables composables' hcomposables => ?_
  refine h.endAlike_activityPaths.bind fun activities activities' hactivities => ?_
  refine h.endAlike_collect.bind fun graphs graphs' hgraphs => ?_
  have hpaths := hcomposables.append hactivities
  rw [hpaths.isEmpty_eq, hgraphs.isEmpty_eq]
  split
  · exact .ok .none
  · simp only [Logged.result_bind, Logged.result_lift, Logged.result_debug, Logged.result_pure]
    refine h.endAlike_serializers.bind fun registry registry' hregistry => ?_
    have hreader : DestinationReader.Reorders { table, registry, graphs }
        { table := table', registry := registry', graphs := graphs' } := ⟨h, hregistry, hgraphs⟩
    refine (hreader.endAlike_each_read hpaths).bind fun destinations destinations' hdestinations => ?_
    refine (h.endAlike_graphsFor hgraphs hdestinations).bind fun navGraphs navGraphs' hnavGraphs => ?_
    refine (ModuleReader.endAlike_readAll h hpackages).bind fun modules modules' hmodules => ?_
    exact .ok (.some ⟨_, _, ⟨hdestinations, hnavGraphs, hregistry.sorted_eq, hmodules.1, hmodules.2⟩, rfl, rfl⟩)

end SymbolTable.Reorders

/-! ## The pass -/

namespace Config

variable {Output : Type} [FileSink Output]

/-- Checking and writing end alike for models that are the same up to order before they are put in order. -/
theorem endAlike_checkAndWrite (config : Config) {model model' : Model} (h : model.Reorders model') (output : Output) :
    EndAlike Eq (config.checkAndWrite model.canonical output).outcome (config.checkAndWrite model'.canonical output).outcome ∧
      (config.checkAndWrite model.canonical output).output = (config.checkAndWrite model'.canonical output).output := by
  cases hvalid : model.canonical.isValid with
  | true =>
    rw [h.canonical_eq hvalid]
    exact ⟨EndAlike.of_eq rfl, rfl⟩
  | false =>
    cases hvalid' : model'.canonical.isValid with
    | true =>
      rw [← h.symm.canonical_eq hvalid', hvalid'] at hvalid
      contradiction
    | false =>
      simp only [checkAndWrite, hvalid, hvalid', Bool.false_eq_true, if_false]
      exact ⟨.error _ _, trivial⟩

/-- A pass over declarations with distinct names, of which no two registries publish the same package, does not depend on the order of the
declarations: it fails for both orders, or it ends in the same outcome, with the same package and paths. The output is the same in any case. -/
theorem run_reorder (config : Config) {table table' : SymbolTable}
    (hdeclarations : table.declarations.Perm table'.declarations)
    (hnames : (table.declarations.map (·.qualified)).Nodup)
    (hpackages : ((ModuleReader.registries table).filterMap ModuleReader.publishedPackage?).Nodup) (output : Output) :
    EndAlike Eq (config.run table output).outcome (config.run table' output).outcome ∧
      (config.run table output).output = (config.run table' output).output := by
  have h := SymbolTable.Reorders.endAlike_assemble? ⟨hdeclarations, hnames⟩ hpackages
  unfold run
  generalize Model.assemble? table.symbols = assembled at h ⊢
  generalize Model.assemble? table'.symbols = assembled' at h ⊢
  obtain ⟨log, result⟩ := assembled
  obtain ⟨log', result'⟩ := assembled'
  cases h with
  | error error error' => exact ⟨.error _ _, rfl⟩
  | ok related =>
    cases related with
    | none => exact ⟨.ok rfl, rfl⟩
    | some hmodels =>
      obtain ⟨model, model', hmodel, rfl, rfl⟩ := hmodels
      exact config.endAlike_checkAndWrite hmodel output

/-- The registry of a module that is depended on. -/
def featureRegistry : Declaration :=
  { qualified := Library.registryPackage ++ "._ModuleRegistry_Feature"
    kind := .object
    annotations := [{
      type := Library.registryPackage ++ "._Info_Feature"
      typeArguments := []
      arguments := [("moduleName", .text "feature"), ("packageName", .text "feature"), ("hasNavArgsPackage", .bool true)] }] }

/-- A screen and a module that is depended on, in both orders. -/
theorem run_reorder_homeScreen :
    (default.run { declarations := [homeScreen, featureRegistry] } MemoryOutput.empty).outcome.toOption =
        some (.generated "app"
          ["app/destinations/HomeScreenDestination.kt", "app/navargs/NavArgsGetters.kt", "app/NavGraphs.kt"]) ∧
      EndAlike Eq (default.run { declarations := [homeScreen, featureRegistry] } MemoryOutput.empty).outcome
        (default.run { declarations := [featureRegistry, homeScreen] } MemoryOutput.empty).outcome ∧
      (default.run { declarations := [homeScreen, featureRegistry] } MemoryOutput.empty).output =
        (default.run { declarations := [featureRegistry, homeScreen] } MemoryOutput.empty).output := by
  refine ⟨by decide +kernel, ?_⟩
  exact run_reorder default (List.Perm.swap _ _ []) (by decide +kernel) (by decide +kernel) MemoryOutput.empty

end Config

end NavGen
