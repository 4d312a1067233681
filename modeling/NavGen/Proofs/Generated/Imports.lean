import NavGen.Proofs.Generated.CalledNames
import NavGen.Proofs.Generated.DeclaredNames
import NavGen.Proofs.Generated.GraphMembers
import NavGen.Proofs.Name
import NavGen.Proofs.Text.Words

/-!
# Imports of generated files

A file calls what it imports by the last segments of the qualified names, and nothing keeps two imports from ending in the same segment. The names
that the generator brings into a file never do. So the imports of a file are unambiguous exactly if the names that declarations bring into it stand
apart there: from one another, and from the names of the generator in the same file.
-/

namespace NavGen

/-! ## Unambiguous files -/

namespace SourceFile

/-- Whether no two qualified names that a file imports end in the same segment. -/
def UnambiguousImports (file : SourceFile) : Prop :=
  (file.imports.map lastSegment).Nodup

/-- Whether each simple name that the body of a file calls stands for one declaration, be it imported or not. -/
def UnambiguousNames (file : SourceFile) : Prop :=
  ∀ name ∈ file.body.names, ∀ other ∈ file.body.names, other.simple = name.simple → other = name

theorem mem_imports {file : SourceFile} {qualified : String} :
    qualified ∈ file.imports ↔ ∃ name ∈ file.body.names, file.needsImport name = true ∧ name.qualified = qualified := by
  rw [imports, mem_sortedTexts, List.mem_map]
  simp only [List.mem_filter, and_assoc]

/-- Names that are imported are told apart by their simple names, if those are what the qualified names end in. -/
theorem unambiguousImports_iff {file : SourceFile} (hregular : ∀ name ∈ file.body.names, name.Regular) :
    file.UnambiguousImports ↔
      ∀ name ∈ file.body.names, ∀ other ∈ file.body.names,
        other.simple = name.simple → file.needsImport name = true → file.needsImport other = true → other = name := by
  have hlast : ∀ name ∈ file.body.names, lastSegment name.qualified = name.simple :=
    fun name hname => (congrArg Name.simple (hregular name hname)).symm
  have hnodup : file.imports.Nodup := nodup_sortedTexts _
  rw [UnambiguousImports, List.nodup_map_iff_inj_on hnodup]
  constructor
  · intro hinjective name hname other hother hsimple himported himported'
    refine (hregular other hother).ext (hregular name hname) ?_
    refine hinjective _ (mem_imports.2 ⟨other, hother, himported', rfl⟩) _ (mem_imports.2 ⟨name, hname, himported, rfl⟩) ?_
    rw [hlast other hother, hlast name hname, hsimple]
  · intro hsimple first hfirst second hsecond hsegment
    obtain ⟨name, hname, himported, rfl⟩ := mem_imports.1 hfirst
    obtain ⟨other, hother, himported', rfl⟩ := mem_imports.1 hsecond
    rw [hlast name hname, hlast other hother] at hsegment
    rw [hsimple name hname other hother hsegment.symm himported himported']

end SourceFile

namespace NamedSource

/-- Whether the names that declarations bring into a file stand apart among those names of the file that count: no other one has the simple name of
one of them. -/
def DeclaredApart (source : NamedSource) (counts : Name → Bool) : Prop :=
  ∀ name ∈ source.declared, ∀ other ∈ source.own ++ source.declared,
    other.simple = name.simple → counts name = true → counts other = true → other = name

instance (source : NamedSource) (counts : Name → Bool) : Decidable (source.DeclaredApart counts) :=
  inferInstanceAs (Decidable (∀ name ∈ source.declared, _))

/-- If the names of the generator stand apart among themselves, then only names from declarations can be confused with others. -/
theorem declaredApart_iff {source : NamedSource}
    (hown : ∀ name ∈ source.own, ∀ other ∈ source.own, other.simple = name.simple → other = name) (counts : Name → Bool) :
    source.DeclaredApart counts ↔
      ∀ name ∈ source.file.body.names, ∀ other ∈ source.file.body.names,
        other.simple = name.simple → counts name = true → counts other = true → other = name := by
  constructor
  · intro hapart name hname other hother hsimple hcounts hcounts'
    rcases (source.mem_names name).1 hname with hnameOwn | hnameDeclared
    · rcases (source.mem_names other).1 hother with hotherOwn | hotherDeclared
      · exact hown name hnameOwn other hotherOwn hsimple
      · exact (hapart other hotherDeclared name (List.mem_append_left _ hnameOwn) hsimple.symm hcounts' hcounts).symm
    · exact hapart name hnameDeclared other (List.mem_append.2 ((source.mem_names other).1 hother)) hsimple hcounts hcounts'
  · intro hnames name hname other hother
    exact hnames name ((source.mem_names name).2 (Or.inr hname)) other ((source.mem_names other).2 (List.mem_append.1 hother))

end NamedSource

/-! ## The names of the generator -/

/-- The declarations of libraries that generated files call, besides nav types of the library. -/
def Library.called : List Name := [
  Library.declared "spec.DestinationSpec", Library.declared "spec.ActivityDestinationSpec", Library.declared "spec.Direction",
  Library.declared "spec.NavGraphSpec", Library.declared "spec.NavHostGraphSpec", Library.declared "spec.Route",
  Library.declared "navargs.DestinationsNavType", Library.declared "navargs.DestinationsNavTypeSerializer",
  Library.declared "navargs.DestinationsArrayListNavType", Library.declared "navargs.utils.encodeForRoute",
  Library.declared "navargs.primitives.DestinationsEnumNavType", Library.declared "navargs.primitives.arraylist.DestinationsEnumArrayListNavType",
  Library.declared "navargs.parcelable.DefaultParcelableNavTypeSerializer",
  Library.declared "navargs.serializable.DefaultSerializableNavTypeSerializer",
  Name.ofQualified "androidx.navigation.NamedNavArgument", Name.ofQualified "androidx.navigation.navArgument",
  Name.ofQualified "androidx.navigation.NavDeepLink", Name.ofQualified "androidx.navigation.navDeepLink",
  Name.ofQualified "androidx.lifecycle.SavedStateHandle", Name.ofQualified "android.app.Activity", Name.ofQualified "android.os.Bundle"]

namespace Library

/-- The simple names of these declarations by their packages. -/
def calledIn : List (String × List String) := [
  (qualified "spec", ["DestinationSpec", "ActivityDestinationSpec", "Direction", "NavGraphSpec", "NavHostGraphSpec", "Route"]),
  (qualified "navargs", ["DestinationsNavType", "DestinationsNavTypeSerializer", "DestinationsArrayListNavType"]),
  (qualified "navargs.utils", ["encodeForRoute"]),
  (qualified "navargs.primitives", ["DestinationsEnumNavType"]),
  (qualified "navargs.primitives.arraylist", ["DestinationsEnumArrayListNavType"]),
  (qualified "navargs.parcelable", ["DefaultParcelableNavTypeSerializer"]),
  (qualified "navargs.serializable", ["DefaultSerializableNavTypeSerializer"]),
  ("androidx.navigation", ["NamedNavArgument", "navArgument", "NavDeepLink", "navDeepLink"]),
  ("androidx.lifecycle", ["SavedStateHandle"]),
  ("android.app", ["Activity"]),
  ("android.os", ["Bundle"])]

theorem called_eq :
    called = calledIn.flatMap fun entry => entry.2.map fun simple => Name.ofQualified (entry.1 ++ "." ++ simple) := by
  simp [called, calledIn, declared, qualified, package]

theorem map_simple_called : called.map (·.simple) = calledIn.flatMap (·.2) := by
  have hdots : ∀ entry ∈ calledIn, ∀ simple ∈ entry.2, '.' ∉ simple.toList := by decide +kernel
  rw [called_eq, List.map_flatMap]
  refine List.flatMap_congr fun entry hentry => ?_
  rw [List.map_map]
  exact (List.map_congr_left fun simple hsimple => lastSegment_append (hdots entry hentry simple hsimple) entry.1).trans (List.map_id _)

/-- No two declarations of libraries that generated files call have the same simple name. -/
theorem nodup_simple : ((called ++ navTypes).map (·.simple)).Nodup := by
  rw [List.map_append, map_simple_called]
  decide +kernel

/-- None of them is called like the object of a destination. -/
theorem not_suffix_of_mem {name : Name} (h : name ∈ called ++ navTypes) : ¬"Destination".toList <:+ name.simple.toList := by
  have hall : ∀ simple ∈ (called ++ navTypes).map (·.simple), ¬"Destination".toList <:+ simple.toList := by
    rw [List.map_append, map_simple_called]
    decide +kernel
  exact hall _ (List.mem_map_of_mem h)

end Library

/-! ## Names that are what qualified names end in -/

theorem Name.regular_of_append {simple : String} (h : '.' ∉ simple.toList) (package : String) :
    Name.Regular { simple, qualified := package ++ "." ++ simple } := by
  rw [Name.Regular, Name.ofQualified, lastSegment_append h]

namespace Library

/-- The nav types that the library has are in packages below that of the nav types of primitives. -/
theorem regular_navType (primitive : Primitive) (path : String) {ending : String} (h : '.' ∉ ending.toList) :
    Name.Regular {
      simple := "Destinations" ++ primitive.name ++ ending
      qualified := qualified ("navargs." ++ path ++ ".Destinations" ++ primitive.name ++ ending) } := by
  have hqualified : qualified ("navargs." ++ path ++ ".Destinations" ++ primitive.name ++ ending) =
      qualified ("navargs." ++ path) ++ "." ++ ("Destinations" ++ primitive.name ++ ending) := by
    have hdot : ".Destinations" = "." ++ "Destinations" := rfl
    rw [qualified, qualified, hdot]
    simp only [String.append_assoc]
  have hname : '.' ∉ primitive.name.toList := by cases primitive <;> decide
  rw [hqualified]
  refine Name.regular_of_append ?_ _
  rw [String.toList_append, String.toList_append, List.mem_append, List.mem_append, not_or, not_or]
  exact ⟨⟨by decide, hname⟩, h⟩

theorem regular_of_mem {name : Name} (h : name ∈ called ++ navTypes) : name.Regular := by
  rcases List.mem_append.1 h with hcalled | hnavType
  · rw [called_eq] at hcalled
    obtain ⟨entry, -, hentry⟩ := List.mem_flatMap.1 hcalled
    obtain ⟨simple, -, rfl⟩ := List.mem_map.1 hentry
    rfl
  · obtain ⟨primitive, -, hprimitive⟩ := List.mem_flatMap.1 hnavType
    simp only [List.mem_cons, List.not_mem_nil, or_false] at hprimitive
    rcases hprimitive with rfl | rfl | rfl
    all_goals exact regular_navType primitive _ (by decide)

end Library

/-- Whether the declarations that a nav type is made from go by the last segments of their names. -/
def NavType.IsRegular : NavType → Prop
  | .primitive _ | .primitiveArray _ => True
  | .list element => element.IsRegular
  | .enumeration value | .parcelable value | .serializable value => value.Regular
  | .custom serializer => serializer.serializer.Regular ∧ serializer.value.Regular

theorem NavType.IsRegular.element {navType : NavType} (h : navType.IsRegular) : navType.element.1.IsRegular := by
  cases navType <;> exact h

theorem NavType.IsRegular.generatedFor? {navType : NavType} (h : navType.IsRegular) {value : Name} (hvalue : navType.generatedFor? = some value) :
    value.Regular := by
  induction navType with
  | primitive _ | primitiveArray _ => contradiction
  | list element ih => exact ih h hvalue
  | enumeration _ | parcelable _ | serializable _ =>
    cases hvalue
    exact h
  | custom serializer =>
    cases hvalue
    exact h.2

/-- Whether the names that a destination brings into generated files go by the last segments of their qualified names. -/
structure Destination.IsRegular (destination : Destination) : Prop where
  object : ∃ simple, '.' ∉ simple.toList ∧ destination.name = simple ++ "Destination"
  target : destination.target.Regular
  types : ∀ argument ∈ destination.arguments, ∀ name ∈ argument.type.names, name.Regular
  argumentsClass : ∀ name, destination.argumentsClass? = some name → name.Regular
  result : ∀ result, destination.result? = some result → ∀ name ∈ result.type.names, name.Regular
  navTypes : ∀ navType ∈ destination.navTypes, navType.IsRegular

/-- Whether all names that a model brings into generated files are of this kind. -/
structure Model.IsRegular (model : Model) : Prop where
  destinations : ∀ destination ∈ model.destinations, destination.IsRegular
  startArguments : ∀ graph ∈ model.graphs, ∀ property ∈ graph.startArguments, property.Regular

namespace Generation

/-- Whether a name is one of the generator: that of a declaration of a library or that of the object of a destination. -/
def OwnName (generation : Generation) (name : Name) : Prop :=
  name ∈ Library.called ++ Library.navTypes ∨ ∃ destination ∈ generation.model.destinations, name = generation.destinationObject destination

variable {generation : Generation}

theorem ownName_of_called {name : Name} (h : name ∈ Library.called) : generation.OwnName name :=
  Or.inl (List.mem_append_left _ h)

/-- The names of the generator have simple names that differ, whatever the package is. -/
theorem OwnName.eq_of_simple (hregular : generation.model.IsRegular) {name other : Name} (h : generation.OwnName name)
    (h' : generation.OwnName other) (hsimple : other.simple = name.simple) : other = name := by
  have hobject : ∀ destination ∈ generation.model.destinations, ∀ library ∈ Library.called ++ Library.navTypes,
      library.simple ≠ (generation.destinationObject destination).simple := by
    intro destination hdestination library hlibrary heq
    obtain ⟨simple, -, hname⟩ := (hregular.destinations destination hdestination).object
    refine Library.not_suffix_of_mem hlibrary ?_
    rw [heq, destinationObject, hname, String.toList_append]
    exact List.suffix_append _ _
  rcases h with hname | ⟨destination, hdestination, rfl⟩
  · rcases h' with hother | ⟨destination, hdestination, rfl⟩
    · exact List.inj_on_of_nodup_map Library.nodup_simple hother hname hsimple
    · exact absurd hsimple.symm (hobject destination hdestination name hname)
  · rcases h' with hother | ⟨destination', hdestination', rfl⟩
    · exact absurd hsimple (hobject destination hdestination other hother)
    · have hnames : destination'.name = destination.name := hsimple
      rw [destinationObject, destinationObject, hnames]

/-- They are what their qualified names end in. -/
theorem OwnName.regular (hregular : generation.model.IsRegular) {name : Name} (h : generation.OwnName name) : name.Regular := by
  rcases h with hlibrary | ⟨destination, hdestination, rfl⟩
  · exact Library.regular_of_mem hlibrary
  · obtain ⟨simple, hdot, hname⟩ := (hregular.destinations destination hdestination).object
    refine Name.regular_of_append ?_ _
    rw [hname, String.toList_append, List.mem_append, not_or]
    exact ⟨hdot, by decide⟩

/-! ## The names of each file -/

/-- Whether the names of a file are known: those on the side of the generator are its own, and the others are what qualified names end in. -/
structure AccountsFor (generation : Generation) (source : NamedSource) : Prop where
  own : ∀ name ∈ source.own, generation.OwnName name
  declared : ∀ name ∈ source.declared, name.Regular

section

variable {destination : Destination}

/-- The nav types of a destination that are not generated are those of the library. -/
theorem mem_navTypes_of_mem_navTypeNames (hsupported : ∀ navType ∈ destination.navTypes, navType.IsSupported) {name : Name}
    (h : name ∈ generation.navTypeNames destination false) : name ∈ Library.navTypes := by
  obtain ⟨navType, hnavType, rfl⟩ := List.mem_map.1 h
  obtain ⟨hmem, hgenerated⟩ := List.mem_filter.1 hnavType
  have hnone : navType.element.1.generatedFor? = none :=
    Option.isNone_iff_eq_none.1 (Option.isSome_eq_false_iff.1 (beq_iff_eq.1 hgenerated))
  exact NavType.mem_navTypes_of_generatedFor?_eq_none (hsupported navType hmem) hnone _

/-- The nav types that are generated go by names without dots, for the names of value types are put into camel case. -/
theorem regular_of_mem_navTypeNames (hsupported : ∀ navType ∈ destination.navTypes, navType.IsSupported) (hregular : destination.IsRegular)
    {name : Name} (h : name ∈ generation.navTypeNames destination true) : name.Regular := by
  obtain ⟨navType, hnavType, rfl⟩ := List.mem_map.1 h
  obtain ⟨hmem, hgenerated⟩ := List.mem_filter.1 hnavType
  obtain ⟨value, hvalue⟩ := Option.isSome_iff_exists.1 (beq_iff_eq.1 hgenerated)
  have hsimple : '.' ∉ value.simple.toList := by
    rw [(hregular.navTypes navType hmem).element.generatedFor? hvalue]
    exact dot_not_mem_lastSegment _
  rw [instanceName_of_element (hsupported navType hmem) hvalue]
  refine Name.regular_of_append ?_ _
  rw [String.toList_append, List.mem_append, not_or]
  refine ⟨Text.dot_not_mem_camel hsimple, ?_⟩
  cases navType.element.2 <;> decide

theorem destinationCalled_subset (destination : Destination) : destinationCalled destination ⊆ Library.called := by
  have hspec : destinationSpec destination ∈ Library.called := by
    unfold destinationSpec
    split <;> simp [Library.called]
  simp only [destinationCalled, List.append_subset, List.cons_subset, List.nil_subset, and_true]
  refine ⟨⟨⟨⟨⟨hspec, by simp [Library.called]⟩, ?_⟩, ?_⟩, ?_⟩, ?_⟩
  all_goals split <;> simp [Library.called]

theorem accountsFor_destinationNamed (hsupported : ∀ navType ∈ destination.navTypes, navType.IsSupported) (hregular : destination.IsRegular) :
    generation.AccountsFor (generation.destinationNamed destination) where
  own := by
    intro name hname
    rcases List.mem_append.1 hname with hcalled | hnavType
    · exact ownName_of_called (destinationCalled_subset destination hcalled)
    · exact Or.inl (List.mem_append_right _ (mem_navTypes_of_mem_navTypeNames hsupported hnavType))
  declared := by
    intro name hname
    simp only [destinationNamed, destinationDeclared, List.mem_append] at hname
    rcases hname with (((htype | hclass) | htarget) | hresult) | hnavType
    · obtain ⟨argument, hargument, hname⟩ := List.mem_flatMap.1 htype
      exact hregular.types argument hargument name hname
    · split at hclass
      · contradiction
      · exact hregular.argumentsClass name (Option.mem_toList.1 hclass)
    · split at htarget
      · rw [List.mem_singleton.1 htarget]
        exact hregular.target
      · contradiction
    · obtain ⟨result, hsome, hname⟩ := List.mem_flatMap.1 hresult
      exact hregular.result result (Option.mem_toList.1 hsome) name hname
    · exact regular_of_mem_navTypeNames hsupported hregular hnavType

end

theorem valueTypeOwn_subset (type : ValueType) : valueTypeOwn type ⊆ Library.called := by
  have hclass : navTypeClassOwn type ⊆ Library.called := by
    rw [navTypeClassOwn, List.append_subset]
    refine ⟨by simp [Library.called], ?_⟩
    split <;> simp [Library.called]
  have henumeration : (if type.inLists then [Library.declared "navargs.primitives.arraylist.DestinationsEnumArrayListNavType"] else []) ⊆
      Library.called := by
    split <;> simp [Library.called]
  unfold valueTypeOwn
  cases hnavType : type.navType with
  | enumeration _ => exact List.cons_subset.2 ⟨by simp [Library.called], henumeration⟩
  | custom _ => exact hclass
  | _ => exact List.cons_subset.2 ⟨by simp [ValueType.serializerCode, hnavType, Library.called], hclass⟩

theorem accountsFor_valueTypeNamed (hregular : generation.model.IsRegular) {type : ValueType} (htype : type ∈ generation.model.valueTypes) :
    generation.AccountsFor (generation.valueTypeNamed type) := by
  have hnavType : type.navType.IsRegular := by
    obtain ⟨use, huse, -, hnavType, -⟩ := Model.exists_use_of_mem_valueTypes htype
    obtain ⟨destination, hdestination, used, hused, helement, -, -⟩ := Model.exists_navType_of_mem_valueTypeUses huse
    rw [hnavType, helement]
    exact ((hregular.destinations destination hdestination).navTypes used hused).element
  have hvalue : type.value.Regular := hnavType.generatedFor? (Model.generatedFor?_of_mem_valueTypes htype)
  refine ⟨fun name hname => ownName_of_called (valueTypeOwn_subset type hname), fun name hname => ?_⟩
  simp only [valueTypeNamed, valueTypeDeclared] at hname
  cases hkind : type.navType with
  | custom serializer =>
    simp only [hkind, List.mem_cons, List.not_mem_nil, or_false] at hname
    rcases hname with rfl | rfl
    · exact hvalue
    · rw [hkind] at hnavType
      exact hnavType.1
  | _ =>
    simp only [hkind, List.mem_singleton] at hname
    exact hname ▸ hvalue

theorem accountsFor_gettersNamed (hregular : generation.model.IsRegular) : generation.AccountsFor generation.gettersNamed where
  own := by
    intro name hname
    rcases List.mem_cons.1 hname with rfl | hobject
    · exact ownName_of_called (by simp [Library.called])
    · obtain ⟨destination, hdestination, rfl⟩ := List.mem_map.1 hobject
      exact Or.inr ⟨destination, List.mem_of_mem_filter hdestination, rfl⟩
  declared := by
    intro name hname
    obtain ⟨destination, hdestination, hclass⟩ := List.mem_flatMap.1 hname
    exact (hregular.destinations destination (List.mem_of_mem_filter hdestination)).argumentsClass name (Option.mem_toList.1 hclass)

/-- The objects that a graph lists or starts with are those of destinations of the model. -/
theorem ownName_of_mem_graphOwn {graph : Graph} {name : Name} (h : name ∈ generation.graphOwn graph) : generation.OwnName name := by
  simp only [graphOwn, List.mem_append] at h
  rcases h with ((hhost | hspecs) | hstart) | hlisted
  · split at hhost
    · exact ownName_of_called (List.mem_singleton.1 hhost ▸ by simp [Library.called])
    · contradiction
  · have hsubset : [Library.declared "spec.Route", Library.declared "spec.DestinationSpec"] ⊆ Library.called := by simp [Library.called]
    exact ownName_of_called (hsubset hspecs)
  · split at hstart
    · obtain ⟨destination, hdestination, rfl⟩ := Option.map_eq_some_iff.1 (Option.mem_toList.1 hstart)
      exact Or.inr ⟨destination, List.mem_of_find?_eq_some hdestination, rfl⟩
    · contradiction
  · obtain ⟨destination, hdestination, rfl⟩ := List.mem_map.1 hlisted
    exact Or.inr ⟨destination, List.mem_of_mem_filter hdestination, rfl⟩

theorem accountsFor_graphsNamed (hregular : generation.model.IsRegular) : generation.AccountsFor generation.graphsNamed where
  own := by
    intro name hname
    rcases List.mem_cons.1 hname with rfl | hentry
    · exact ownName_of_called (by simp [Library.called])
    · obtain ⟨graph, -, hgraph⟩ := List.mem_flatMap.1 hentry
      exact ownName_of_mem_graphOwn hgraph
  declared := by
    intro name hname
    obtain ⟨graph, hgraph, harguments⟩ := List.mem_flatMap.1 hname
    unfold startArgumentsOf at harguments
    split at harguments
    · exact hregular.startArguments graph (Model.mem_graphs_of_mem_graphsChildrenFirst hgraph) name harguments
    · contradiction

theorem accountsFor_of_mem_sources (hassembled : generation.model.Assembled) (hregular : generation.model.IsRegular) {source : NamedSource}
    (h : source ∈ generation.sources) : generation.AccountsFor source := by
  simp only [sources, List.mem_append, List.mem_map] at h
  rcases h with (((⟨destination, hdestination, rfl⟩ | ⟨type, htype, rfl⟩) | hgetters) | hgraphs) | hregistry
  · exact accountsFor_destinationNamed (hassembled.navTypes destination hdestination) (hregular.destinations destination hdestination)
  · exact accountsFor_valueTypeNamed hregular htype
  · split at hgetters
    · rw [List.mem_singleton.1 hgetters]
      exact accountsFor_gettersNamed hregular
    · contradiction
  · rw [List.mem_singleton.1 hgraphs]
    exact accountsFor_graphsNamed hregular
  · obtain ⟨moduleName, -, rfl⟩ := Option.map_eq_some_iff.1 (Option.mem_toList.1 hregistry)
    exact ⟨fun _ hname => absurd hname List.not_mem_nil, fun _ hname => absurd hname List.not_mem_nil⟩

/-! ## Confused names -/

variable {source : NamedSource}

namespace AccountsFor

/-- Files call names by what their qualified names end in. -/
theorem regular_of_mem_names (h : generation.AccountsFor source) (hregular : generation.model.IsRegular) {name : Name}
    (hname : name ∈ source.file.body.names) : name.Regular := by
  rcases (source.mem_names name).1 hname with hown | hdeclared
  · exact (h.own name hown).regular hregular
  · exact h.declared name hdeclared

theorem unambiguousImports_iff (h : generation.AccountsFor source) (hregular : generation.model.IsRegular) :
    source.file.UnambiguousImports ↔ source.DeclaredApart source.file.needsImport := by
  rw [SourceFile.unambiguousImports_iff fun name hname => h.regular_of_mem_names hregular hname]
  exact (NamedSource.declaredApart_iff (fun name hname other hother => (h.own name hname).eq_of_simple hregular (h.own other hother)) _).symm

theorem unambiguousNames_iff (h : generation.AccountsFor source) (hregular : generation.model.IsRegular) :
    source.file.UnambiguousNames ↔ source.DeclaredApart fun _ => true := by
  rw [NamedSource.declaredApart_iff fun name hname other hother => (h.own name hname).eq_of_simple hregular (h.own other hother)]
  simp [SourceFile.UnambiguousNames]

end AccountsFor

end Generation

end NavGen
