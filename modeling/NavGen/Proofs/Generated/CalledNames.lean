import NavGen.Generated.Files
import NavGen.Proofs.Generated.ArgumentRenderings

/-!
# Names that generated files call

What a generated file calls by simple names comes from two sides. Some names are the generator's own: declarations of the libraries that the code is
linked with, and the generated objects of destinations. The others are brought in by the declarations of the module: types of arguments and results,
classes of arguments, activities, serializers, properties with start arguments, and nav types that are named after value types. Here the names of each
file are told apart by the side that they come from, in terms of the model alone.
-/

namespace NavGen

/-- A source file with the names that it calls. -/
structure NamedSource where
  file : SourceFile
  /-- Names that the generator brings into the file. -/
  own : List Name
  /-- Names that the declarations of the module bring into the file. -/
  declared : List Name
  mem_names : ∀ name, name ∈ file.body.names ↔ name ∈ own ∨ name ∈ declared

namespace Fragment

@[simp] theorem names_lines (layout : List Layout) : (Fragment.lines layout).names = [] := rfl

@[simp] theorem names_concat (fragments : List Fragment) : (Fragment.concat fragments).names = fragments.flatMap (·.names) := rfl

@[simp] theorem names_section? (condition : Bool) (fragment : Fragment) :
    (Fragment.section? condition fragment).names = if condition then fragment.names else [] := by
  cases condition <;> rfl

end Fragment

/-- Whether a nav type is generated, and not one of the library. -/
def NavType.isGenerated (navType : NavType) : Bool :=
  navType.element.1.generatedFor?.isSome

namespace Generation

variable (generation : Generation)

/-! ## Files of destinations -/

section

variable (destination : Destination)

/-- The nav types of a destination that are generated, or those that are not. -/
def navTypeNames (generated : Bool) : List Name :=
  (destination.navTypes.filter (·.isGenerated == generated)).map (·.instanceName generation.package)

/-- The declarations of libraries that the file of a destination calls, besides nav types. -/
def destinationCalled : List Name :=
  [destinationSpec destination, Library.declared "spec.Direction"]
    ++ (if destination.arguments.isEmpty then []
      else [Name.ofQualified "androidx.navigation.NamedNavArgument", Name.ofQualified "androidx.navigation.navArgument",
        Name.ofQualified "androidx.lifecycle.SavedStateHandle"])
    ++ (if destination.deepLinks.isEmpty then []
      else [Name.ofQualified "androidx.navigation.NavDeepLink", Name.ofQualified "androidx.navigation.navDeepLink"])
    ++ (if destination.isActivity then [Name.ofQualified "android.app.Activity"] else [])
    ++ (if destination.result?.isSome then [Library.declared "navargs.DestinationsNavType"] else [])

/-- The names that the generator brings into the file of a destination. -/
def destinationOwn : List Name :=
  destinationCalled destination ++ generation.navTypeNames destination false

/-- The names that declarations bring into the file of a destination: types of its arguments with the class that holds them, the activity, the type of
its result, and nav types that are named after value types. -/
def destinationDeclared : List Name :=
  destination.arguments.flatMap (·.type.names)
    ++ (if destination.arguments.isEmpty then [] else destination.argumentsClass?.toList)
    ++ (if destination.isActivity then [destination.target] else [])
    ++ destination.result?.toList.flatMap (·.type.names)
    ++ generation.navTypeNames destination true

/-- The nav types that arguments and results are called by are those of the library and those that are generated. -/
theorem mem_navTypeNames (name : Name) :
    name ∈ generation.navTypeNames destination false ∨ name ∈ generation.navTypeNames destination true ↔
      name ∈ destination.arguments.map generation.navTypeOf ∨
        ∃ result, destination.result? = some result ∧ name = result.navType.instanceName generation.package := by
  have hall : name ∈ generation.navTypeNames destination false ∨ name ∈ generation.navTypeNames destination true ↔
      name ∈ destination.navTypes.map (·.instanceName generation.package) := by
    simp only [navTypeNames, List.mem_map, List.mem_filter, beq_iff_eq]
    constructor
    · rintro (⟨navType, ⟨hmem, -⟩, hname⟩ | ⟨navType, ⟨hmem, -⟩, hname⟩)
      · exact ⟨navType, hmem, hname⟩
      · exact ⟨navType, hmem, hname⟩
    · rintro ⟨navType, hmem, hname⟩
      cases hgenerated : navType.isGenerated with
      | false => exact Or.inl ⟨navType, ⟨hmem, hgenerated⟩, hname⟩
      | true => exact Or.inr ⟨navType, ⟨hmem, hgenerated⟩, hname⟩
  rw [hall, Destination.navTypes, List.map_append, List.mem_append, List.map_map]
  cases destination.result? <;> simp [Function.comp_def, navTypeOf]

/-- The names that the arguments bring with them, whichever part of the object calls them. -/
theorem mem_names_argumentSections (name : Name) :
    name ∈ (Fragment.section? (!destination.arguments.isEmpty) (generation.argumentsProperty destination.arguments)).names ∨
        name ∈ (generation.invokeOperator destination).names ∨
          name ∈ (Fragment.section? (!destination.arguments.isEmpty) (generation.argumentsReader destination)).names ↔
      name = Library.declared "spec.Direction" ∨
        (name ∈ if destination.arguments.isEmpty then []
          else [Name.ofQualified "androidx.navigation.NamedNavArgument", Name.ofQualified "androidx.navigation.navArgument",
            Name.ofQualified "androidx.lifecycle.SavedStateHandle"]) ∨
        name ∈ destination.arguments.flatMap (·.type.names) ∨
        (name ∈ if destination.arguments.isEmpty then [] else destination.argumentsClass?.toList) ∨
        name ∈ destination.arguments.map generation.navTypeOf := by
  have hparts : name ∈ destination.routeParts.map (generation.navTypeOf ·.argument) ↔ name ∈ destination.arguments.map generation.navTypeOf := by
    rw [← (destination.perm_argument_routeParts.map generation.navTypeOf).mem_iff, List.map_map]
    rfl
  cases hempty : destination.arguments.isEmpty with
  | true =>
    rw [List.isEmpty_iff] at hempty
    simp [invokeOperator, hempty]
  | false =>
    simp only [argumentsProperty, invokeOperator, argumentsReader, hempty, Fragment.names_section?, Bool.not_false, if_true, Bool.false_eq_true,
      if_false, List.mem_append, List.mem_cons, List.not_mem_nil, or_false, hparts]
    grind

theorem mem_names_deepLinksSection (name : Name) :
    name ∈ (Fragment.section? (!destination.deepLinks.isEmpty) (deepLinksProperty destination)).names ↔
      name ∈ if destination.deepLinks.isEmpty then []
        else [Name.ofQualified "androidx.navigation.NavDeepLink", Name.ofQualified "androidx.navigation.navDeepLink"] := by
  cases destination.deepLinks.isEmpty <;> simp [deepLinksProperty]

theorem mem_names_activitySection (name : Name) :
    name ∈ (activitySection destination).names ↔
      (name ∈ if destination.isActivity then [Name.ofQualified "android.app.Activity"] else []) ∨
        name ∈ if destination.isActivity then [destination.target] else [] := by
  unfold activitySection Destination.isActivity
  cases destination.kind with
  | composable => simp
  | activity info => simp [activityProperties]

theorem mem_names_resultSection (name : Name) :
    name ∈ (generation.resultSection destination).names ↔
      (name ∈ if destination.result?.isSome then [Library.declared "navargs.DestinationsNavType"] else []) ∨
        name ∈ destination.result?.toList.flatMap (·.type.names) ∨
        ∃ result, destination.result? = some result ∧ name = result.navType.instanceName generation.package := by
  unfold resultSection
  cases destination.result? with
  | none => simp
  | some result =>
    simp only [resultProperties, Fragment.names_section?, if_true, Option.isSome_some, Option.toList_some, Option.some.injEq, exists_eq_left',
      List.flatMap_cons, List.flatMap_nil, List.append_nil, List.mem_append, List.mem_cons, List.not_mem_nil, or_false]
    grind

theorem mem_names_destinationSource (name : Name) :
    name ∈ (generation.destinationSource destination).body.names ↔
      name ∈ generation.destinationOwn destination ∨ name ∈ generation.destinationDeclared destination := by
  -- The parts that the arguments call are brought together, since the nav types of arguments occur in three of them.
  have hparts : name ∈ (generation.destinationSource destination).body.names ↔
      name = destinationSpec destination ∨
        (name ∈ (Fragment.section? (!destination.arguments.isEmpty) (generation.argumentsProperty destination.arguments)).names ∨
          name ∈ (generation.invokeOperator destination).names ∨
            name ∈ (Fragment.section? (!destination.arguments.isEmpty) (generation.argumentsReader destination)).names) ∨
        name ∈ (Fragment.section? (!destination.deepLinks.isEmpty) (deepLinksProperty destination)).names ∨
        name ∈ (activitySection destination).names ∨ name ∈ (generation.resultSection destination).names := by
    simp only [destinationSource, destinationMembers, Fragment.names_concat, List.flatMap_cons, List.flatMap_nil, List.append_nil, List.mem_cons,
      List.mem_append]
    rw [Fragment.names_section? true, Fragment.names_section? true, Fragment.names_section? true, if_pos rfl, if_pos rfl, if_pos rfl,
      Fragment.names_lines, Fragment.names_lines]
    grind
  have hnavTypes := generation.mem_navTypeNames destination name
  rw [hparts, mem_names_argumentSections, mem_names_deepLinksSection, mem_names_activitySection, mem_names_resultSection]
  simp only [destinationOwn, destinationCalled, destinationDeclared, List.mem_append, List.mem_cons, List.not_mem_nil, or_false]
  grind

/-- The source file of a destination with its names. -/
def destinationNamed : NamedSource where
  file := generation.destinationSource destination
  own := generation.destinationOwn destination
  declared := generation.destinationDeclared destination
  mem_names := generation.mem_names_destinationSource destination

end

/-! ## Files of value types -/

section

variable (type : ValueType)

/-- The names that the generator brings into a nav type class. -/
def navTypeClassOwn : List Name :=
  [Library.declared "navargs.DestinationsNavType", Library.declared "navargs.DestinationsNavTypeSerializer", Name.ofQualified "android.os.Bundle",
      Name.ofQualified "androidx.lifecycle.SavedStateHandle", Library.declared "navargs.utils.encodeForRoute"]
    ++ (if type.inLists then [Library.declared "navargs.DestinationsArrayListNavType"] else [])

/-- The names that the generator brings into the file of a value type. -/
def valueTypeOwn : List Name :=
  match type.navType with
  | .enumeration _ => Library.declared "navargs.primitives.DestinationsEnumNavType"
      :: (if type.inLists then [Library.declared "navargs.primitives.arraylist.DestinationsEnumArrayListNavType"] else [])
  | .custom _ => navTypeClassOwn type
  | _ => type.serializerCode.1 :: navTypeClassOwn type

/-- The names that declarations bring into the file of a value type: the type itself, and the serializer of its own that it may have. -/
def valueTypeDeclared : List Name :=
  match type.navType with
  | .custom serializer => [type.value, serializer.serializer]
  | _ => [type.value]

theorem mem_names_valueTypeSource (name : Name) :
    name ∈ (generation.valueTypeSource type).body.names ↔ name ∈ valueTypeOwn type ∨ name ∈ valueTypeDeclared type := by
  unfold valueTypeSource valueTypeOwn valueTypeDeclared
  cases hnavType : type.navType with
  | enumeration _ =>
    simp only [ValueType.enumerationBody, List.mem_append, List.mem_cons, List.not_mem_nil, or_false]
    grind
  | _ =>
    simp only [ValueType.classBody, ValueType.navTypeClass, ValueType.serializerCode, hnavType, navTypeClassOwn, Fragment.names_concat,
      Fragment.names_section?, List.flatMap_cons, List.flatMap_nil, if_true, List.append_nil, List.mem_append, List.mem_cons, List.not_mem_nil,
      or_false]
    grind

/-- The source file of a value type with its names. -/
def valueTypeNamed : NamedSource where
  file := generation.valueTypeSource type
  own := valueTypeOwn type
  declared := valueTypeDeclared type
  mem_names := generation.mem_names_valueTypeSource type

end

/-! ## Files of the whole module -/

/-- The names that the generator brings into the file of the getters. -/
def gettersOwn : List Name :=
  Name.ofQualified "androidx.lifecycle.SavedStateHandle" :: generation.destinationsWithArguments.map generation.destinationObject

/-- The names that declarations bring into the file of the getters: the classes that hold arguments. -/
def gettersDeclared : List Name :=
  generation.destinationsWithArguments.flatMap (·.argumentsClass?.toList)

theorem mem_names_gettersSource (name : Name) :
    name ∈ generation.gettersSource.body.names ↔ name ∈ generation.gettersOwn ∨ name ∈ generation.gettersDeclared := by
  simp only [gettersSource, gettersOwn, gettersDeclared, List.mem_append, List.mem_cons, List.not_mem_nil, List.mem_flatMap, List.mem_map]
  grind

/-- The source file of the getters with its names. -/
def gettersNamed : NamedSource where
  file := generation.gettersSource
  own := generation.gettersOwn
  declared := generation.gettersDeclared
  mem_names := generation.mem_names_gettersSource

/-- The names that the generator brings with a graph. -/
def graphOwn (graph : Graph) : List Name :=
  (if graph.isHost then [Library.declared "spec.NavHostGraphSpec"] else [])
    ++ [Library.declared "spec.Route", Library.declared "spec.DestinationSpec"]
    ++ (match graph.start with
      | .destination name => ((generation.model.destination? name).map generation.destinationObject).toList
      | .graph _ => [])
    ++ (generation.model.destinationsOf graph.type).map generation.destinationObject

/-- The names that the generator brings into the file of the graphs. -/
def graphsOwn : List Name :=
  Library.declared "spec.NavGraphSpec" :: generation.model.graphsChildrenFirst.flatMap generation.graphOwn

/-- The names that declarations bring into the file of the graphs: properties that hold start arguments. -/
def graphsDeclared : List Name :=
  generation.model.graphsChildrenFirst.flatMap startArgumentsOf

theorem mem_names_graphsSource (name : Name) :
    name ∈ generation.graphsSource.body.names ↔ name ∈ generation.graphsOwn ∨ name ∈ generation.graphsDeclared := by
  have hentry : ∀ graph, generation.graphEntryNames graph = generation.graphOwn graph ++ startArgumentsOf graph := fun _ => rfl
  simp only [graphsSource, graphsOwn, graphsDeclared, hentry, List.mem_cons, List.mem_flatMap, List.mem_append]
  grind

/-- The source file of the graphs with its names. -/
def graphsNamed : NamedSource where
  file := generation.graphsSource
  own := generation.graphsOwn
  declared := generation.graphsDeclared
  mem_names := generation.mem_names_graphsSource

/-- The source file of the registry with its names. It calls nothing of other packages. -/
def registryNamed (moduleName : String) : NamedSource where
  file := generation.registrySource moduleName
  own := []
  declared := []
  mem_names := by simp [registrySource]

/-! ## All files -/

/-- The source files that are generated, in order, with their names. -/
def sources : List NamedSource :=
  generation.model.destinations.map generation.destinationNamed
    ++ generation.model.valueTypes.map generation.valueTypeNamed
    ++ (if generation.hasArgumentGetters then [generation.gettersNamed] else [])
    ++ [generation.graphsNamed]
    ++ (generation.settings.moduleName?.map generation.registryNamed).toList

/-- The generated files hold the texts of these source files. -/
theorem content_files : generation.files.map (·.content) = generation.sources.map (·.file.text) := by
  have hgetters : generation.gettersFile?.toList.map (·.content) =
      (if generation.hasArgumentGetters then [generation.gettersNamed] else []).map (·.file.text) := by
    unfold gettersFile?
    cases generation.hasArgumentGetters <;> rfl
  have hregistry : generation.registryFile?.toList.map (·.content) =
      (generation.settings.moduleName?.map generation.registryNamed).toList.map (·.file.text) := by
    unfold registryFile?
    cases generation.settings.moduleName? <;> rfl
  simp only [files, sources, List.map_append, List.map_map, hgetters, hregistry]
  rfl

end Generation

end NavGen
