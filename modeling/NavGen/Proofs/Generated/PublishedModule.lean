import NavGen.Proofs.Name
import NavGen.Proofs.Pass.Modules
import NavGen.Proofs.Pass.Options
import NavGen.Proofs.Source.AnnotatedObject

/-!
# What a module publishes

A module publishes its navigation by the text of its registry file, and modules that depend on it read the annotation that a compiler finds in that
text. What they read is what was published, for all models and module names.
-/

namespace NavGen

/-- Words have no dots. -/
theorem IsWord.not_mem {text : String} (h : IsWord text) {c : Char} (hc : Config.isIdentifierChar c = false) : c ∉ text.toList := by
  intro hmem
  rw [h.chars c hmem] at hc
  contradiction

theorem IsWord.append {start ending : String} (h : IsWord start) (hending : ∀ c ∈ ending.toList, Config.isIdentifierChar c = true) :
    IsWord (start ++ ending) := by
  refine ⟨?_, fun c hc => ?_⟩
  · rw [String.toList_append]
    exact List.append_ne_nil_of_left_ne_nil h.nonempty _
  · rw [String.toList_append] at hc
    exact (List.mem_append.1 hc).elim (h.chars c) (hending c)

namespace RegistryNames

variable {moduleName : String}

/-- The names of a registry are words. -/
structure Words (names : RegistryNames) : Prop where
  info : IsWord names.info
  result : IsWord names.result
  registry : IsWord names.registry

theorem words_ofModule (h : Config.isModuleName moduleName = true) : (ofModule moduleName).Words := by
  have hending : ∀ c ∈ (Text.pascal moduleName).toList, Config.isIdentifierChar c = true := fun c hc =>
    Config.isIdentifierChar_of_mem_pascal h hc
  have hinfo : IsWord Library.moduleInfoStart := isWord_of_check (by decide)
  have hresult : IsWord Library.resultInfoStart := isWord_of_check (by decide)
  have hregistry : IsWord Library.registryStart := isWord_of_check (by decide)
  exact ⟨hinfo.append hending, hresult.append hending, hregistry.append hending⟩

end RegistryNames

/-! ## The annotation -/

namespace ArgumentCode

theorem wellNamedItems_map {α : Type} {item : α → ArgumentCode} (h : ∀ a, (item a).WellNamed) (items : List α) :
    WellNamedItems (items.map item) := by
  induction items with
  | nil => trivial
  | cons first rest ih => exact ⟨h first, ih⟩

theorem itemValues_map {α : Type} (package : String) (item : α → ArgumentCode) (items : List α) :
    itemValues package (items.map item) = items.map fun a => (item a).value package := by
  induction items with
  | nil => rfl
  | cons first rest ih => rw [List.map_cons, itemValues, ih, List.map_cons]

end ArgumentCode

namespace Generation

open ArgumentCode

/-- All names in the annotation of a module are words. -/
theorem wellNamed_infoArguments {names : RegistryNames} (h : names.Words) (moduleName : String) (surface : ModuleSurface) :
    WellNamedArguments (infoArguments names moduleName surface) := by
  let fields := ["moduleName", "packageName", "hasNavArgsPackage", "typeResults", "topLevelGraphs", "destination", "resultType",
    "resultNavType", "isResultNullable"]
  have hchecked : fields.all (fun field => !field.toList.isEmpty && field.toList.all Config.isIdentifierChar) = true := by decide
  have hword : ∀ field ∈ fields, IsWord field := fun field hfield => isWord_of_check (List.all_eq_true.1 hchecked field hfield)
  have hresult : ∀ result, (resultCode names result).WellNamed := fun result =>
    ⟨h.result, hword _ (by simp [fields]), trivial, hword _ (by simp [fields]), trivial, hword _ (by simp [fields]), trivial,
      hword _ (by simp [fields]), trivial, trivial⟩
  have hgraph : ∀ graph, (ArgumentCode.text graph).WellNamed := fun _ => trivial
  exact ⟨hword _ (by simp [fields]), trivial, hword _ (by simp [fields]), trivial, hword _ (by simp [fields]), trivial,
    hword _ (by simp [fields]), wellNamedItems_map hresult _, hword _ (by simp [fields]), wellNamedItems_map hgraph _, trivial⟩

/-! ## The text of the registry -/

theorem wellNested_annotationClassLayout (name : String) (fields : List String) : Layout.WellNested (annotationClassLayout name fields) :=
  ((Layout.wellNested_map_code (fun field => field) fields).bracketed _ _).append Layout.wellNested_nil.blank

/-- No annotation is written in front of the declaration of an annotation class, or in it. -/
theorem not_mem_annotationClassLayout {name : String} {fields : List String} (hname : '@' ∉ name.toList)
    (hfields : ∀ field ∈ fields, '@' ∉ field.toList) (depth : Nat) :
    '@' ∉ (Layout.textFrom depth (annotationClassLayout name fields)).toList := by
  have hclass : '@' ∉ (Line.annotationClass name).text.toList := by
    have hopening : '@' ∉ "public annotation class ".toList := by decide
    have hbracket : '@' ∉ "(".toList := by decide
    unfold Line.text
    simp only [String.toList_append, List.mem_append, not_or]
    exact ⟨⟨hopening, hname⟩, hbracket⟩
  refine Layout.not_mem_textFrom (by decide) (by decide) (fun step hstep content hcontent => ?_) depth
  simp only [annotationClassLayout, Layout.bracketed, List.mem_append, List.mem_cons, List.mem_map, List.not_mem_nil, or_false] at hstep
  rcases hstep with (((rfl | rfl) | ⟨field, hfield, rfl⟩) | rfl | rfl) | rfl <;> cases hcontent
  · exact hclass
  · exact hfields field hfield
  · decide

/-- The lines in front of the annotation. -/
def registryClasses (names : RegistryNames) : List Layout :=
  annotationClassLayout names.info [
      "val moduleName: String,",
      "val packageName: String,",
      "val hasNavArgsPackage: Boolean,",
      "val typeResults: Array<" ++ names.result ++ ">,",
      "val topLevelGraphs: Array<String>,"]
    ++ annotationClassLayout names.result [
      "val destination: String,",
      "val resultType: String,",
      "val resultNavType: String,",
      "val isResultNullable: Boolean,"]

variable (generation : Generation) {moduleName : String}

theorem layout_registrySource :
    (generation.registrySource moduleName).body.layout =
      registryClasses (.ofModule moduleName)
        ++ (Layout.bracketed (.code ("@" ++ (RegistryNames.ofModule moduleName).info ++ "("))
            (ArgumentCode.argumentLayout (infoArguments (.ofModule moduleName) moduleName generation.surface)) ")"
          ++ [.line (.object (RegistryNames.ofModule moduleName).registry none)]) := by
  rw [← List.append_assoc]
  rfl

/-- The annotation of a module is the first that is written in the file. -/
theorem not_mem_registryClasses {names : RegistryNames} (h : names.Words) : '@' ∉ (Layout.textFrom 0 (registryClasses names)).toList := by
  have hresults : '@' ∉ ("val typeResults: Array<" ++ names.result ++ ">,").toList := by
    have hbefore : '@' ∉ "val typeResults: Array<".toList := by decide
    have hbehind : '@' ∉ ">,".toList := by decide
    simp only [String.toList_append, List.mem_append, not_or]
    exact ⟨⟨hbefore, h.result.not_mem (by decide)⟩, hbehind⟩
  rw [registryClasses, (wellNested_annotationClassLayout _ _).level.textFrom_append, String.toList_append, List.mem_append, not_or]
  constructor
  · refine not_mem_annotationClassLayout (h.info.not_mem (by decide)) ?_ 0
    simp only [List.forall_mem_cons]
    exact ⟨by decide, by decide, by decide, hresults, by decide, nofun⟩
  · exact not_mem_annotationClassLayout (h.result.not_mem (by decide)) (by decide) 0

theorem not_mem_opening_registrySource : '@' ∉ (generation.registrySource moduleName).opening.toList := by
  have hopening : (generation.registrySource moduleName).opening =
      SourceFile.header ++ "\n" ++ ("package " ++ Library.registryPackage ++ "\n\n") ++ "" := rfl
  have hheader : '@' ∉ SourceFile.header.toList := by decide +kernel
  have hpackage : '@' ∉ Library.registryPackage.toList := by decide +kernel
  rw [hopening]
  simp only [String.toList_append, List.mem_append, not_or]
  exact ⟨⟨⟨hheader, by decide⟩, ⟨by decide, hpackage⟩, by decide⟩, by decide⟩

/-- What stands in the file behind the sign that opens the annotation. -/
def annotationText (names : RegistryNames) (arguments : List (String × ArgumentCode)) : List Char :=
  (names.info ++ "(").toList ++ ['\n'] ++ (Layout.textFrom 1 (ArgumentCode.argumentLayout arguments)).toList ++ ")\n".toList
    ++ "public object ".toList ++ (names.registry.toList ++ ['\n'])

theorem lexes_annotationText {names : RegistryNames} (h : names.Words) {arguments : List (String × ArgumentCode)}
    (harguments : WellNamedArguments arguments) :
    Lexes (annotationText names arguments)
      (.word names.info :: .mark '(' :: (argumentTokens arguments ++ .mark ')' ::
        [.word "public", .word "object", .word names.registry])) := by
  have hfeed : Lexes ['\n'] [] := by decide
  have hbracket : Lexes ")\n".toList [.mark ')'] := by decide
  have hobject : Lexes "public object ".toList [.word "public", .word "object"] := by decide
  have hregistry : Lexes (names.registry.toList ++ ['\n']) [.word names.registry] := lexes_word h.registry (by decide) (by decide)
  have hlexes := (((((lexes_opening h.info).append hfeed).append (lexes_argumentLayout arguments harguments 1)).append hbracket).append
    hobject).append hregistry
  simpa [annotationText] using hlexes

theorem wellNested_registryClasses (names : RegistryNames) : Layout.WellNested (registryClasses names) :=
  (wellNested_annotationClassLayout _ _).append (wellNested_annotationClassLayout _ _)

/-- The text of a registry is what stands before the annotation, the sign that opens it, and what stands behind that sign. -/
theorem toList_text_registrySource :
    (generation.registrySource moduleName).text.toList =
      ((generation.registrySource moduleName).opening.toList
          ++ (Layout.textFrom 0 (registryClasses (.ofModule moduleName))).toList)
        ++ '@' :: annotationText (.ofModule moduleName)
          (infoArguments (.ofModule moduleName) moduleName generation.surface) := by
  have harguments := wellNested_argumentLayout (infoArguments (.ofModule moduleName) moduleName generation.surface)
  have hannotation : Layout.indented 0 (Line.code ("@" ++ (RegistryNames.ofModule moduleName).info ++ "(")).text =
      "@" ++ ((RegistryNames.ofModule moduleName).info ++ "(") ++ "\n" := by
    have htext : (Line.code ("@" ++ (RegistryNames.ofModule moduleName).info ++ "(")).text =
        "@" ++ (RegistryNames.ofModule moduleName).info ++ "(" := rfl
    rw [htext, Layout.indented_zero (by simp)]
    simp only [String.append_assoc]
  have hobject : Layout.textFrom 0 [.line (.object (RegistryNames.ofModule moduleName).registry none)] =
      "public object " ++ (RegistryNames.ofModule moduleName).registry ++ "\n" := by
    have htext : (Line.object (RegistryNames.ofModule moduleName).registry none).text =
        "public object " ++ (RegistryNames.ofModule moduleName).registry := rfl
    rw [Layout.textFrom_line, htext, Layout.indented_zero (by simp)]
  have hbracket : Layout.indented 0 ")" = ")\n" := by decide
  have hsign : "@".toList = ['@'] := by decide
  have hfeed : "\n".toList = ['\n'] := by decide
  rw [SourceFile.text_eq, layout_registrySource, (wellNested_registryClasses _).level.textFrom_append,
    (harguments.bracketed _ _).level.textFrom_append, Layout.textFrom_bracketed harguments.level, hannotation, hobject, hbracket, annotationText]
  simp only [String.toList_append, hsign, hfeed, List.append_assoc, List.cons_append, List.nil_append]

/-- The sign that opens the annotation is the first of its kind in the file. -/
theorem not_mem_before_annotation (h : Config.isModuleName moduleName = true) :
    '@' ∉ (generation.registrySource moduleName).opening.toList
      ++ (Layout.textFrom 0 (registryClasses (.ofModule moduleName))).toList := by
  rw [List.mem_append, not_or]
  exact ⟨generation.not_mem_opening_registrySource, not_mem_registryClasses (RegistryNames.words_ofModule h)⟩

/-! ## The declaration -/

/-- The annotation of a registry as a compiler knows it. -/
def registryAnnotation (generation : Generation) (moduleName : String) : AnnotationExpr :=
  { type := Library.registryPackage ++ "." ++ (RegistryNames.ofModule moduleName).info
    typeArguments := []
    arguments := argumentValues Library.registryPackage (infoArguments (.ofModule moduleName) moduleName generation.surface) }

/-- The registry of a module as a compiler knows it. -/
def registryDeclaration (generation : Generation) (moduleName : String) : Declaration :=
  { qualified := Library.registryPackage ++ "." ++ (RegistryNames.ofModule moduleName).registry
    kind := .object
    annotations := [generation.registryAnnotation moduleName] }

/-- It is what is read from the file of the registry. -/
theorem annotatedObject?_registry (h : Config.isModuleName moduleName = true) (sourceIds : List String) :
    ((generation.registrySource moduleName).generated (RegistryNames.ofModule moduleName).registry sourceIds).annotatedObject? =
      some (generation.registryDeclaration moduleName) := by
  have hwords := RegistryNames.words_ofModule h
  have hlexes := lexes_annotationText hwords (wellNamed_infoArguments hwords moduleName generation.surface)
  let file := (generation.registrySource moduleName).generated (RegistryNames.ofModule moduleName).registry sourceIds
  have hpackage : file.package = Library.registryPackage := rfl
  have hcontent : file.content = (generation.registrySource moduleName).text := rfl
  have htext := @toList_text_registrySource generation moduleName
  rw [← hcontent] at htext
  exact GeneratedFile.annotatedObject?_of_lexes hpackage (generation.not_mem_before_annotation h) htext hlexes

end Generation

namespace ModuleReader

open Generation ArgumentCode

/-- A published result is read back from its annotation. -/
theorem result_resultCode (registry package : String) (names : RegistryNames) (published : PublishedResult) :
    result registry ((resultCode names published).value package) = .ok published := by
  rw [resultCode, ArgumentCode.value, result, AnnotationValue.asAnnotation?]
  simp only [bind_eq_ok, requiredArgument_eq_ok_iff]
  exact ⟨_, rfl, _, rfl, _, rfl, _, rfl, rfl⟩

/-- What a module publishes is read back from its annotation. -/
theorem surface_infoArguments (registry package type : String) (names : RegistryNames) {moduleName : String} (hne : moduleName ≠ "")
    (published : ModuleSurface) (hname : published.name? = some moduleName) :
    surface registry { type, typeArguments := [], arguments := argumentValues package (infoArguments names moduleName published) } =
      .ok published := by
  obtain ⟨name?, package', hasArgumentGetters, topLevelGraphs, results⟩ := published
  cases hname
  have hresults : (itemValues package (results.map (resultCode names))).mapM (result registry) = .ok results := by
    rw [itemValues_map]
    exact mapM_map_eq_ok (result_resultCode registry package names) results
  have hgraphs : (itemValues package (topLevelGraphs.map .text)).mapM (graph registry) = .ok topLevelGraphs := by
    have hgraph : ∀ name, graph registry ((ArgumentCode.text name).value package) = .ok name := fun _ => rfl
    rw [itemValues_map]
    exact mapM_map_eq_ok hgraph topLevelGraphs
  have hisEmpty : moduleName.isEmpty = false := by simpa using hne
  rw [surface]
  simp only [bind_eq_ok, requiredArgument_eq_ok_iff]
  refine ⟨_, hresults, _, hgraphs, _, rfl, _, rfl, _, rfl, ?_⟩
  rw [hisEmpty]
  rfl

variable {generation : Generation} {moduleName : String}

/-- The published declaration is the registry of a table that has no other. -/
theorem registries_registryDeclaration (h : Config.isModuleName moduleName = true) {before after : List Declaration}
    (hothers : registries { declarations := before ++ after } = []) :
    registries { declarations := before ++ generation.registryDeclaration moduleName :: after } =
      [generation.registryDeclaration moduleName] := by
  have hdots := (RegistryNames.words_ofModule h).registry.not_mem (c := '.') (by decide)
  have hpackage : (generation.registryDeclaration moduleName).package = Library.registryPackage := by
    rw [Declaration.package, Generation.registryDeclaration, Text.splitLast_append hdots]
  have hsimple : (generation.registryDeclaration moduleName).simpleName = (RegistryNames.ofModule moduleName).registry :=
    lastSegment_append hdots Library.registryPackage
  have hbegins : Text.begins Library.registryStart (generation.registryDeclaration moduleName).simpleName = true := by
    rw [hsimple]
    exact Text.begins_append _ _
  simp only [registries, SymbolTable.inPackage, List.filter_append, List.append_eq_nil_iff] at hothers ⊢
  simp only [List.filter_cons, hpackage, beq_self_eq_true, if_true, hbegins, hothers, List.nil_append]

/-- A registry with one annotation is read from it. -/
theorem result_read {registry : Declaration} {info : AnnotationExpr} (hannotations : registry.annotations = [info])
    (hbegins : Text.begins Library.moduleInfoStart info.simpleName = true) {published : ModuleSurface}
    (h : surface registry.qualified info = .ok published) : (read registry).result = .ok published := by
  have hfound : registry.annotations.find? (fun written => Text.begins Library.moduleInfoStart written.simpleName) = some info := by
    simp [hannotations, hbegins]
  rw [read, hfound]
  simp only [Logged.result_bind, Logged.result_lift, Logged.result_debug, Logged.result_pure, h]
  rfl

/-- What is read of the published declaration is what was published. -/
theorem result_read_registryDeclaration (h : Config.isModuleName moduleName = true) (hne : moduleName ≠ "")
    (hname : generation.settings.moduleName? = some moduleName) :
    (read (generation.registryDeclaration moduleName)).result = .ok generation.surface := by
  have hdots := (RegistryNames.words_ofModule h).info.not_mem (c := '.') (by decide)
  have hsimple : (generation.registryAnnotation moduleName).simpleName = (RegistryNames.ofModule moduleName).info :=
    lastSegment_append hdots Library.registryPackage
  have hbegins : Text.begins Library.moduleInfoStart (generation.registryAnnotation moduleName).simpleName = true := by
    rw [hsimple]
    exact Text.begins_append _ _
  exact result_read rfl hbegins (surface_infoArguments _ _ _ _ hne generation.surface hname)

/-- A module that depends on another reads what the other publishes from the annotation that stands in the registry file of the other. -/
theorem readAll_published {generation : Generation} {moduleName : String} (hname : generation.settings.moduleName? = some moduleName)
    (hne : moduleName ≠ "") (hchars : ∀ c ∈ moduleName.toList, c.isAlphanum = true ∨ c = '_' ∨ c = '-') :
    ∃ file registry, generation.registryFile? = some file ∧ file.annotatedObject? = some registry ∧
      registry.qualified = Library.registryPackage ++ "." ++ file.name ∧
        ∀ before after : List Declaration, registries { declarations := before ++ after } = [] →
          (readAll { declarations := before ++ registry :: after }).result = .ok [generation.surface] := by
  have h : Config.isModuleName moduleName = true := by
    simpa [Config.isModuleName, Config.isIdentifierChar, or_assoc] using hchars
  have hfile : generation.registryFile? = some
      ((generation.registrySource moduleName).generated (RegistryNames.ofModule moduleName).registry generation.model.allSourceIds) := by
    rw [Generation.registryFile?, hname, Option.map_some]
  refine ⟨_, _, hfile, generation.annotatedObject?_registry h _, rfl, fun before after hothers => ?_⟩
  rw [readAll, registries_registryDeclaration h hothers, Logged.result_each]
  exact mapM_cons_eq_ok.2 ⟨_, _, result_read_registryDeclaration h hne hname, rfl, rfl⟩

/-- A screen that sends back whether something was picked, and the graph that starts with it. -/
def pickerModel : Model :=
  { destinations := [{
      name := "PickerDestination"
      target := { simple := "Picker", qualified := "app.Picker" }
      kind := .composable
      baseRoute := "picker"
      graph := { simple := "MainGraph", qualified := "app.MainGraph" }
      isStart := true
      arguments := []
      argumentsClass? := none
      deepLinks := []
      result? := some { type := ⟨{ simple := "Boolean", qualified := "kotlin.Boolean" }, false, []⟩, navType := .primitive .boolean }
      sourceIds := [] }]
    graphs := [{
      type := { simple := "MainGraph", qualified := "app.MainGraph" }
      route := "main"
      start := .destination "PickerDestination"
      parent? := none
      isParentStart := false
      isHost := true
      isDefault := false
      startArguments := []
      sourceIds := [] }]
    serializers := []
    modules := [] }

/-- A package with a character that literals escape, and a module name of two words. -/
theorem readAll_published_picker :
    (∀ c ∈ "user-profile".toList, c.isAlphanum = true ∨ c = '_' ∨ c = '-') ∧
      ∃ file registry,
        Generation.registryFile? { settings := { package := "app.$gen", moduleName? := some "user-profile" }, model := pickerModel } =
            some file ∧
          file.name = "_ModuleRegistry_UserProfile" ∧ file.annotatedObject? = some registry ∧
            (readAll { declarations := [registry] }).result = .ok [{
              name? := some "user-profile"
              package := "app.$gen"
              hasArgumentGetters := false
              topLevelGraphs := ["main"]
              results := [{
                destination := "app.$gen.destinations.PickerDestination"
                type := "kotlin.Boolean"
                isNullable := false
                navType := "com.ramcosta.composedestinations.navargs.primitives.DestinationsBooleanNavType" }] }] := by
  have hchecked : "user-profile".toList.all (fun c => c.isAlphanum || (c == '_' || c == '-')) = true := by decide
  have hchars : ∀ c ∈ "user-profile".toList, c.isAlphanum = true ∨ c = '_' ∨ c = '-' := fun c hc => by
    simpa using List.all_eq_true.1 hchecked c hc
  let generation : Generation := { settings := { package := "app.$gen", moduleName? := some "user-profile" }, model := pickerModel }
  have hname : (RegistryNames.ofModule "user-profile").registry = "_ModuleRegistry_UserProfile" := by decide +kernel
  obtain ⟨file, registry, hfile, hobject, -, hread⟩ := @readAll_published generation "user-profile" rfl (by decide) hchars
  refine ⟨hchars, file, registry, hfile, ?_, hobject, (hread [] [] rfl).trans ?_⟩
  · rw [← hname, ← Option.some.inj hfile]
    rfl
  · decide +kernel

end ModuleReader

end NavGen
