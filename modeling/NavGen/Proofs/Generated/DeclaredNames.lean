import NavGen.Proofs.Generated.GraphsObject
import NavGen.Proofs.Model.ValueTypes
import NavGen.Proofs.Pass.AssembledModel

/-!
# Names of generated code

Generated files call each other's declarations by names that are made in two places: by what uses a declaration and by what declares it. The
statements here say that the names agree. Nothing that the files of a pass refer to, or that the module publishes, is left undeclared.
-/

namespace NavGen

/-- The nav types that the library has: those of primitives, of arrays of them and of lists of them. -/
def Library.navTypes : List Name :=
  Primitive.all.flatMap fun primitive =>
    let navType (path ending : String) : Name :=
      { simple := "Destinations" ++ primitive.name ++ ending
        qualified := qualified ("navargs." ++ path ++ ".Destinations" ++ primitive.name ++ ending) }
    [navType "primitives" "NavType",
      navType "primitives.array" "ArrayNavType",
      navType "primitives.arraylist" "ArrayListNavType"]

/-! ## Nav types -/

namespace NavType

/-- The nav types that need no value type are those of the library. -/
theorem mem_navTypes_of_generatedFor?_eq_none {navType : NavType} (hsupported : navType.IsSupported)
    (h : navType.element.1.generatedFor? = none) (package : String) : navType.instanceName package ∈ Library.navTypes := by
  have hall : ∀ primitive : Primitive, primitive ∈ Primitive.all := by
    intro primitive
    cases primitive <;> decide
  have hlibrary : ∀ primitive : Primitive,
      libraryInstance "" ("Destinations" ++ primitive.name ++ "NavType") ∈ Library.navTypes ∧
        libraryInstance ".array" ("Destinations" ++ primitive.name ++ "ArrayNavType") ∈ Library.navTypes ∧
          libraryInstance ".arraylist" ("Destinations" ++ primitive.name ++ "ArrayListNavType") ∈ Library.navTypes := by
    intro primitive
    cases primitive <;> decide +kernel
  cases navType with
  | primitive primitive => exact (hlibrary primitive).1
  | primitiveArray primitive => exact (hlibrary primitive).2.1
  | list element =>
    cases element with
    | primitive primitive => exact (hlibrary primitive).2.2
    | primitiveArray _ | list _ => exact hsupported.elim
    | _ => contradiction
  | _ => contradiction

/-- What needs a value type is a single value, or a list of single values. -/
theorem isSingle_element {navType : NavType} (hsupported : navType.IsSupported) {value : Name}
    (h : navType.element.1.generatedFor? = some value) : navType.element.1.IsSingle := by
  cases navType with
  | list element => exact hsupported
  | primitiveArray _ => contradiction
  | _ => trivial

end NavType

namespace Generation

/-- Whether a nav type is one of the library or declared by the file of a value type. -/
def NavTypeDeclared (generation : Generation) (navType : Name) : Prop :=
  navType ∈ Library.navTypes ∨
    ∃ type ∈ generation.model.valueTypes, generation.valueTypeFile type ∈ generation.files ∧
      (generation.valueTypeFile type).DeclaresProperty navType

/-- Whether an object is declared by a generated file. -/
def ObjectDeclared (generation : Generation) (object : Name) : Prop :=
  ∃ file ∈ generation.files, file.DeclaresObject object

variable {generation : Generation}

/-! ## Files -/

theorem destinationFile_mem_files {destination : Destination} (h : destination ∈ generation.model.destinations) :
    generation.destinationFile destination ∈ generation.files := by
  simp only [files, List.append_assoc]
  exact List.mem_append_left _ (List.mem_map_of_mem h)

theorem valueTypeFile_mem_files {type : ValueType} (h : type ∈ generation.model.valueTypes) :
    generation.valueTypeFile type ∈ generation.files := by
  simp only [files, List.append_assoc]
  exact List.mem_append_right _ (List.mem_append_left _ (List.mem_map_of_mem h))

theorem graphsFile_mem_files : generation.graphsFile ∈ generation.files := by
  simp [files]

/-! ## Declarations of nav types -/

/-- A nav type of single values that needs a value type is called like the property that is generated for the type. -/
theorem instanceName_of_isSingle {navType : NavType} (hsingle : navType.IsSingle) {value : Name} (h : navType.generatedFor? = some value) :
    navType.instanceName generation.package = generation.navTypeProperty (Text.camel value.simple ++ "NavType") := by
  cases navType with
  | primitive _ => contradiction
  | primitiveArray _ => contradiction
  | list _ => exact hsingle.elim
  | _ =>
    rw [NavType.instanceName, NavType.generatedInstance, h]
    all_goals simp [navTypeProperty, subPackage, String.append_assoc]

/-- A list of such values is called like the property that is generated for lists of the type. -/
theorem instanceName_list {element : NavType} (hsingle : element.IsSingle) {value : Name} (h : element.generatedFor? = some value) :
    (NavType.list element).instanceName generation.package =
      generation.navTypeProperty (Text.camel value.simple ++ "ArrayListNavType") := by
  cases element with
  | primitive _ => contradiction
  | primitiveArray _ => contradiction
  | list _ => exact hsingle.elim
  | _ =>
    rw [NavType.instanceName, NavType.generatedInstance, h]
    all_goals simp [navTypeProperty, subPackage, String.append_assoc]

/-- What needs a value type is called like a property that is generated for the type or for lists of it. -/
theorem instanceName_of_element {navType : NavType} (hsupported : navType.IsSupported) {value : Name}
    (h : navType.element.1.generatedFor? = some value) :
    navType.instanceName generation.package =
      generation.navTypeProperty (Text.camel value.simple ++ if navType.element.2 then "ArrayListNavType" else "NavType") := by
  cases navType with
  | list element => exact instanceName_list hsupported h
  | primitiveArray _ => contradiction
  | _ => exact instanceName_of_isSingle (NavType.isSingle_element hsupported h) h

/-- The nav types of the value types of an assembled model are for single values, whatever destination uses the type first. -/
theorem isSingle_of_mem_valueTypes (hassembled : generation.model.Assembled) {type : ValueType}
    (htype : type ∈ generation.model.valueTypes) : type.navType.IsSingle := by
  obtain ⟨use, huse, -, hnavType, -⟩ := Model.exists_use_of_mem_valueTypes htype
  obtain ⟨destination, hdestination, navType, hmem, helement, -, hgenerated⟩ := Model.exists_navType_of_mem_valueTypeUses huse
  rw [helement] at hgenerated
  rw [hnavType, helement]
  exact NavType.isSingle_element (hassembled.navTypes destination hdestination navType hmem) hgenerated

/-- The property that is generated for a value type whose nav type is for single values. -/
theorem propertyName_of_isSingle {type : ValueType} (htype : type ∈ generation.model.valueTypes) (hsingle : type.navType.IsSingle) :
    type.propertyName generation.package = Text.camel type.value.simple ++ "NavType" := by
  rw [ValueType.propertyName, instanceName_of_isSingle hsingle (Model.generatedFor?_of_mem_valueTypes htype)]
  rfl

/-- The nav type that a destination of an assembled model has for an argument or its result is declared. -/
theorem navTypeDeclared_of_mem (hassembled : generation.model.Assembled) {destination : Destination}
    (hdestination : destination ∈ generation.model.destinations) {navType : NavType} (hmem : navType ∈ destination.navTypes) :
    generation.NavTypeDeclared (navType.instanceName generation.package) := by
  have hsupported := hassembled.navTypes destination hdestination navType hmem
  cases hvalue : navType.element.1.generatedFor? with
  | none => exact Or.inl (NavType.mem_navTypes_of_generatedFor?_eq_none hsupported hvalue _)
  | some value =>
    obtain ⟨type, htype, rfl, hlists⟩ := Model.exists_valueType hdestination hmem hvalue
    refine Or.inr ⟨type, htype, valueTypeFile_mem_files htype, ?_⟩
    rw [instanceName_of_element hsupported hvalue]
    refine declaresProperty_valueTypeFile ?_
    rw [properties_valueTypeSource]
    cases hlist : navType.element.2 with
    | true =>
      rw [hlists hlist]
      exact List.mem_cons_of_mem _ List.mem_cons_self
    | false =>
      rw [propertyName_of_isSingle htype (isSingle_of_mem_valueTypes hassembled htype)]
      exact List.mem_cons_self

/-! ## All names -/

/-- Whether all that the generated files refer to, and all that the module publishes, is declared by the files. -/
structure NamesDeclared (generation : Generation) : Prop where
  /-- Arguments and results refer to declared nav types. -/
  navTypes : ∀ destination ∈ generation.model.destinations, ∀ navType ∈ destination.navTypes,
    generation.NavTypeDeclared (navType.instanceName generation.package)
  /-- Destinations are declared objects. -/
  destinations : ∀ destination ∈ generation.model.destinations, generation.ObjectDeclared (generation.destinationObject destination)
  /-- The destination and the nav type of a published result are declared. -/
  results : ∀ result ∈ generation.surface.results,
    (∃ object, object.qualified = result.destination ∧ generation.ObjectDeclared object) ∧
      ∃ navType, navType.qualified = result.navType ∧ generation.NavTypeDeclared navType
  /-- Graphs are properties of one object. -/
  graphsObject : generation.graphsFile ∈ generation.files ∧
    generation.graphsFile.DeclaresObject { simple := "NavGraphs", qualified := generation.package ++ "." ++ "NavGraphs" }
  publishedGraphs : ∀ property ∈ generation.surface.topLevelGraphs,
    property ∈ generation.graphsSource.properties ∧ HasLine ("public val " ++ property ++ ": ") generation.graphsFile.content
  graphs : ∃ order, generation.DeclaresInOrder order

/-- The files that are generated for an assembled model that is well formed leave no name undeclared. -/
theorem namesDeclared_of_wellFormed (hassembled : generation.model.Assembled) (hmodel : generation.model.WellFormed) :
    generation.NamesDeclared := by
  have hdestinations : ∀ destination ∈ generation.model.destinations, generation.ObjectDeclared (generation.destinationObject destination) :=
    fun destination hmem => ⟨_, destinationFile_mem_files hmem, generation.declaresObject_destinationFile destination⟩
  have horder := declaresInOrder_of_wellFormed hmodel hassembled.parents
  refine {
    navTypes := fun destination hdestination navType hmem => navTypeDeclared_of_mem hassembled hdestination hmem
    destinations := hdestinations
    results := fun result hresult => ?_
    graphsObject := ⟨graphsFile_mem_files, rfl, (graphsSource _).hasLine_of_openBrace_object List.mem_cons_self⟩
    publishedGraphs := fun property hproperty => ?_
    graphs := ⟨_, horder⟩ }
  · obtain ⟨destination, hdestination, hpublished⟩ := List.mem_filterMap.1 hresult
    obtain ⟨sender, hsender, rfl⟩ := Option.map_eq_some_iff.1 hpublished
    have hmem : sender.navType ∈ destination.navTypes :=
      List.mem_append_right _ (Option.mem_toList.2 (Option.map_eq_some_iff.2 ⟨sender, hsender, rfl⟩))
    exact ⟨⟨_, rfl, hdestinations destination hdestination⟩, _, rfl, navTypeDeclared_of_mem hassembled hdestination hmem⟩
  · obtain ⟨graph, hgraph, rfl⟩ := List.mem_map.1 hproperty
    have hdeclared : graph.propertyName ∈ generation.graphsSource.properties := by
      rw [horder.properties]
      exact List.mem_append_left _ (List.mem_map_of_mem (horder.each.mem_iff.2 (List.mem_of_mem_filter hgraph)))
    exact ⟨hdeclared, SourceFile.hasLine_of_mem_properties hdeclared⟩

/-- What is generated for a table whose model is valid leaves no name undeclared, in whatever package and under whatever module name. -/
theorem namesDeclared_of_assembled {symbols : Symbols} {model : Model} (h : (Model.assemble? symbols).result = .ok (some model))
    (hvalid : model.isValid = true) (settings : Settings) : NamesDeclared { settings, model } := by
  have hassembled := Model.assembled_of_assemble? h
  have hmodel := (Model.isValid_iff_wellFormed model).1 hvalid
  exact namesDeclared_of_wellFormed hassembled hmodel

/-- A screen that picks an entry of an enumeration, and a graph of settings that is nested in the root graph. -/
def themeTable : SymbolTable :=
  let start := [("start", AnnotationValue.bool true)]
  { declarations := [
      { qualified := "app.Theme", kind := .enumClass },
      { qualified := "app.PickScreen"
        kind := .function
        annotations := [{ type := Library.destination, typeArguments := [], arguments := start }]
        parameters := [
          { name := "theme", type := .plain "app.Theme", default? := none },
          { name := "recent", type := ⟨"kotlin.collections.List", false, [.plain "app.Theme"]⟩, default? := none },
          { name := "back", type := ⟨Library.resultBackNavigator, false, [.plain "app.Theme"]⟩, default? := none }] },
      { qualified := "app.SettingsGraph", kind := .annotationClass, annotations := [.plain Library.navGraph] },
      { qualified := "app.SettingsScreen"
        kind := .function
        annotations := [{ type := Library.destination, typeArguments := [.plain "app.SettingsGraph"], arguments := start }] }] }

/-- The enumeration crosses routes by itself, in a list and as a result. -/
theorem namesDeclared_of_assembled_themeTable :
    ∃ model, (Model.assemble? themeTable.symbols).result = .ok (some model) ∧ model.isValid = true ∧
      model.destinations.map (·.navTypes.length) = [3, 0] ∧ model.graphsChildrenFirst.map (·.propertyName) = ["settings", "root"] ∧
        NamesDeclared { settings := { package := "app", moduleName? := some "themes" }, model } := by
  have hfacts : (Model.assemble? themeTable.symbols).result.toOption.any (fun model? => model?.any fun model =>
      decide (model.isValid = true ∧ model.destinations.map (·.navTypes.length) = [3, 0] ∧
        model.graphsChildrenFirst.map (·.propertyName) = ["settings", "root"])) = true := by
    decide +kernel
  cases hassembled : (Model.assemble? themeTable.symbols).result with
  | error error =>
    rw [hassembled] at hfacts
    contradiction
  | ok model? =>
    rw [hassembled] at hfacts
    cases model? with
    | none => contradiction
    | some model =>
      obtain ⟨hvalid, hnavTypes, hgraphs⟩ := of_decide_eq_true hfacts
      exact ⟨model, rfl, hvalid, hnavTypes, hgraphs, namesDeclared_of_assembled hassembled hvalid _⟩

end Generation

end NavGen
