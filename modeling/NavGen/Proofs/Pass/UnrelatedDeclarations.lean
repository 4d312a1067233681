import NavGen.Proofs.Pass.AnnotationChains
import NavGen.Proofs.Pass.Destinations
import NavGen.Proofs.Pass.Flush

/-!
# Declarations that do not matter

A table also holds declarations that have nothing to do with navigation. One that carries no annotation, that nothing in the table mentions and that is
no registry of a module is never met: a pass looks for annotations, for registries, and otherwise only for names that are written somewhere. So the pass
does the same with and without it, up to the last message of its log.
-/

namespace NavGen

namespace SymbolTable

/-- Whether two tables answer alike all that a pass over the first one asks, where names are those of a set. -/
structure AnswersAlike (names : Set String) (table table' : SymbolTable) : Prop where
  agreeOn : table.AgreeOn names table'
  annotatedWith : ∀ marker, table.annotatedWith marker = table'.annotatedWith marker
  annotationClasses : ∀ qualified ∈ names, qualified ∈ table.symbols.annotationClassNames ↔ qualified ∈ table'.symbols.annotationClassNames
  registries : ModuleReader.registries table = ModuleReader.registries table'
  declared : ∀ declaration ∈ table.declarations, declaration.qualified ∈ names
  mentioned : ∀ name ∈ table.mentions, name ∈ names

namespace AnswersAlike

variable {names : Set String} {table table' : SymbolTable}

theorem annotatedWith_symbols_eq (h : table.AnswersAlike names table') (marker : String) :
    table.symbols.annotatedWith marker = table'.symbols.annotatedWith marker := by
  rw [annotatedWith_symbols, annotatedWith_symbols, h.annotatedWith]

/-! ## What is written -/

theorem mentions_of_mem (h : table.AnswersAlike names table') {declaration : Declaration} (hmem : declaration ∈ table.declarations) :
    ∀ name ∈ declaration.mentions, name ∈ names :=
  fun name hname => h.mentioned name (List.mem_flatMap.2 ⟨declaration, hmem, hname⟩)

theorem within_of_mem (h : table.AnswersAlike names table') {declaration : Declaration} (hmem : declaration ∈ table.declarations) :
    declaration.Within names :=
  fun name hname => h.mentions_of_mem hmem name (declaration.typeNames_subset_mentions hname)

/-- The annotations of a path are written in the table, and so is its target. -/
theorem within_of_marksDestination (h : table.AnswersAlike names table') {path : AnnotationPath} (hpath : table.MarksDestination path) :
    path.Within names := by
  obtain ⟨_, -, place, hmarks⟩ := hpath
  refine ⟨fun type htype name hname => ?_, h.within_of_mem hmarks.target_mem⟩
  obtain ⟨hargument, -⟩ := Option.filter_eq_some_iff.1 htype
  obtain ⟨value, hvalue, hliteral⟩ := Option.bind_eq_some_iff.1 hargument
  obtain ⟨written, hwritten, hsays⟩ := List.exists_of_findSome?_eq_some hvalue
  obtain ⟨declaration, hdeclaration, hcarried⟩ := hmarks.exists_carrier written (List.mem_reverse.1 hwritten)
  refine h.mentions_of_mem hdeclaration name (Declaration.typeNames_subset_of_mem_annotations hcarried ?_)
  refine AnnotationExpr.typeNames_subset_of_argument? hsays ?_
  cases value with
  | type literal =>
    cases hliteral
    exact hname
  | _ => contradiction

/-! ## The stages of reading -/

/-- The walk from an annotation class of a chain is the same, if the same names of the set are pending. -/
theorem pathsFrom_eq (h : table.AnswersAlike names table') (terminal : DeclarationKind) {pending pending' : List String}
    (hpending : ∀ qualified ∈ names, qualified ∈ pending ↔ qualified ∈ pending') (chain : List String) (outer : List AnnotationExpr)
    (marker : String) :
    table.symbols.pathsFrom terminal pending chain outer marker = table'.symbols.pathsFrom terminal pending' chain outer marker := by
  rw [Symbols.pathsFrom, Symbols.pathsFrom, ← h.annotatedWith_symbols_eq]
  refine Logged.flatMap_congr fun declaration hmem => ?_
  rw [annotatedWith_symbols] at hmem
  have hname := h.declared declaration (List.mem_filter.1 hmem).1
  split
  · split
    · rfl
    · refine Logged.bind_congr fun _ _ => ?_
      by_cases hcarrier : declaration.qualified ∈ pending
      · rw [dif_pos hcarrier, dif_pos ((hpending _ hname).1 hcarrier)]
        refine pathsFrom_eq h terminal (fun qualified hqualified => ?_) _ _ _
        rw [mem_without, mem_without, hpending qualified hqualified]
      · rw [dif_neg hcarrier, dif_neg fun hcarrier' => hcarrier ((hpending _ hname).2 hcarrier')]
  · rfl
termination_by pending.length
decreasing_by exact length_without_lt hcarrier

theorem paths_eq (h : table.AnswersAlike names table') (terminal : DeclarationKind) (marker : String) :
    table.symbols.paths terminal marker = table'.symbols.paths terminal marker :=
  h.pathsFrom_eq terminal (fun qualified hqualified => by rw [mem_without, mem_without, h.annotationClasses qualified hqualified]) _ _ _

theorem activityPaths_eq (h : table.AnswersAlike names table') : table.symbols.activityPaths = table'.symbols.activityPaths :=
  Logged.flatMap_congr fun marker _ => h.paths_eq _ marker

theorem collect_eq (h : table.AnswersAlike names table') :
    GraphDeclarations.collect table.symbols = GraphDeclarations.collect table'.symbols := by
  simp only [GraphDeclarations.collect, GraphDeclarations.classesWith, h.annotatedWith_symbols_eq]

theorem graphsFor_eq (h : table.AnswersAlike names table') (graphs : GraphDeclarations) (destinations : List Destination) :
    graphs.graphsFor table.symbols destinations = graphs.graphsFor table'.symbols destinations := by
  simp only [GraphDeclarations.graphsFor, GraphDeclarations.startArguments, h.annotatedWith_symbols_eq]

theorem readAll_eq (h : table.AnswersAlike names table') {declarations : List Declaration} (hmem : declarations ⊆ table.declarations)
    (registry : SerializerRegistry) :
    SerializerRegistry.readAll table registry declarations = SerializerRegistry.readAll table' registry declarations := by
  induction declarations generalizing registry with
  | nil => rfl
  | cons declaration rest ih =>
    obtain ⟨hfirst, hrest⟩ := List.cons_subset.1 hmem
    rw [SerializerRegistry.readAll, SerializerRegistry.readAll, h.agreeOn.serializer_eq (h.within_of_mem hfirst)]
    exact Logged.bind_congr fun _ _ => Logged.bind_congr fun _ _ => Logged.bind_congr fun _ _ => ih hrest _

theorem serializers_eq (h : table.AnswersAlike names table') :
    SerializerRegistry.collect table.symbols = SerializerRegistry.collect table'.symbols := by
  rw [SerializerRegistry.collect, SerializerRegistry.collect, ← h.annotatedWith_symbols_eq]
  refine h.readAll_eq (fun declaration hmem => ?_) _
  rw [annotatedWith_symbols] at hmem
  exact (List.mem_filter.1 hmem).1

/-- The same model is read from both tables, and the same is logged. -/
theorem assemble?_eq (h : table.AnswersAlike names table') : Model.assemble? table.symbols = Model.assemble? table'.symbols := by
  have hcomposables : table.symbols.composablePaths = table'.symbols.composablePaths := h.paths_eq _ _
  have hmodules : ModuleReader.readAll table.symbols.table = ModuleReader.readAll table'.symbols.table :=
    congrArg (Logged.each ModuleReader.read) h.registries
  unfold Model.assemble?
  rw [← hcomposables, ← h.activityPaths_eq, ← h.collect_eq, ← h.serializers_eq, ← hmodules]
  refine Logged.bind_congr fun composables hcomposables => ?_
  refine Logged.bind_congr fun activities hactivities => ?_
  refine Logged.bind_congr fun graphs _ => ?_
  split
  · rfl
  · refine Logged.bind_congr fun registry _ => ?_
    have hreader : DestinationReader.AgreeOn names { table, registry, graphs } { table := table', registry, graphs } :=
      ⟨h.agreeOn, fun _ => rfl, rfl⟩
    have hread := Logged.each_congr fun path hpath =>
      hreader.read_eq (h.within_of_marksDestination ((mem_paths_iff_marksDestination hcomposables hactivities).1 hpath))
    have htable : table.symbols.table = table := rfl
    have htable' : table'.symbols.table = table' := rfl
    dsimp only
    rw [htable, htable', hread]
    refine Logged.bind_congr fun destinations _ => ?_
    rw [h.graphsFor_eq]

end AnswersAlike

/-! ## One more declaration -/

/-- Whether a declaration has nothing to do with those of a table: it carries no annotation, its name is neither declared nor mentioned there, and it is
no registry of a module. -/
structure Unrelated (table : SymbolTable) (extra : Declaration) : Prop where
  annotations : extra.annotations = []
  undeclared : ∀ declaration ∈ table.declarations, declaration.qualified ≠ extra.qualified
  unmentioned : extra.qualified ∉ table.mentions
  noRegistry : ¬(extra.package = Library.registryPackage ∧ Text.begins Library.registryStart extra.simpleName = true)

variable {before after : List Declaration} {extra : Declaration}

/-- With an unrelated declaration anywhere in it, a table answers as it does without. -/
theorem Unrelated.answersAlike (h : Unrelated { declarations := before ++ after } extra) :
    AnswersAlike {name | name ≠ extra.qualified} { declarations := before ++ after } { declarations := before ++ extra :: after } where
  agreeOn.find?_eq qualified hqualified := by
    rw [find?, find?, List.find?_append, List.find?_append, List.find?_cons_of_neg (by simpa using Ne.symm hqualified)]
  agreeOn.closed qualified _ declaration hfind name hname := by
    rintro rfl
    exact h.unmentioned (List.mem_flatMap.2 ⟨declaration, List.mem_of_find?_eq_some hfind, declaration.typeNames_subset_mentions hname⟩)
  annotatedWith marker := by
    rw [annotatedWith, annotatedWith, List.filter_append, List.filter_append, List.filter_cons_of_neg (by simp [h.annotations])]
  annotationClasses qualified hqualified := by
    simp only [Symbols.annotationClassNames, symbols, List.mem_map, List.mem_filter, List.mem_append, List.mem_cons]
    constructor
    · rintro ⟨declaration, ⟨hmem, hkind⟩, hname⟩
      exact ⟨declaration, ⟨hmem.imp_right Or.inr, hkind⟩, hname⟩
    · rintro ⟨declaration, ⟨hbefore | rfl | hafter, hkind⟩, hname⟩
      · exact ⟨declaration, ⟨Or.inl hbefore, hkind⟩, hname⟩
      · exact absurd hname.symm hqualified
      · exact ⟨declaration, ⟨Or.inr hafter, hkind⟩, hname⟩
  registries := by
    rw [ModuleReader.registries, ModuleReader.registries, inPackage, inPackage, List.filter_filter, List.filter_filter, List.filter_append,
      List.filter_append, List.filter_cons_of_neg]
    rw [Bool.and_eq_true, beq_iff_eq, and_comm]
    exact h.noRegistry
  declared := h.undeclared
  mentioned name hname := by
    rintro rfl
    exact h.unmentioned hname

end SymbolTable

/-- A declaration that is unrelated to those of a table can be put anywhere among them: the pass has the same outcome, log and output with it as
without. -/
theorem Config.run_unrelated {Output : Type} [FileSink Output] (config : Config) {before after : List Declaration} {extra : Declaration}
    (h : SymbolTable.Unrelated { declarations := before ++ after } extra) (output : Output) :
    config.run { declarations := before ++ extra :: after } output = config.run { declarations := before ++ after } output := by
  rw [run, run, h.answersAlike.assemble?_eq]

/-- A screen with an argument of an enumeration. -/
def Config.modeScreen : Declaration :=
  { homeScreen with parameters := [{ name := "mode", type := .plain "app.Mode", default? := none }] }

/-- The enumeration. -/
def Config.mode : Declaration :=
  { qualified := "app.Mode", kind := .enumClass }

/-- An alias of the enumeration that nothing mentions. -/
def Config.modus : Declaration :=
  { qualified := "app.Modus", kind := .typeAlias, aliased? := some (.plain "app.Mode") }

/-- The alias changes nothing. -/
theorem Config.run_unrelated_modus :
    SymbolTable.Unrelated { declarations := [modeScreen] ++ [mode] } modus ∧
      (default.run { declarations := [modeScreen, mode] } MemoryOutput.empty).outcome.toOption =
        some (.generated "app" ["app/destinations/HomeScreenDestination.kt", "app/navtype/ModeNavType.kt", "app/navargs/NavArgsGetters.kt",
          "app/NavGraphs.kt"]) ∧
      default.run { declarations := [modeScreen, modus, mode] } MemoryOutput.empty =
        default.run { declarations := [modeScreen, mode] } MemoryOutput.empty := by
  have hunrelated : SymbolTable.Unrelated { declarations := [modeScreen] ++ [mode] } modus :=
    ⟨rfl, by decide +kernel, by decide +kernel, by decide +kernel⟩
  exact ⟨hunrelated, by decide +kernel, default.run_unrelated hunrelated MemoryOutput.empty⟩

end NavGen
