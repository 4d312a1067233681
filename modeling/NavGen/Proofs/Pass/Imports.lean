import NavGen.Proofs.Generated.Imports
import NavGen.Proofs.Pass.Flush
import NavGen.Proofs.Pass.NavTypes

/-!
# Imports of the files of a pass

A pass takes all names from qualified names as declarations write them, so that whatever a generated file imports is called by its last segment. It
does not look at what else the file imports. The check of a model does not either: it compares the simple names of value types that nav types are
generated for, and no others.
-/

namespace NavGen

/-! ## Names that a pass reads -/

namespace TypeExpr

mutual

/-- The names in a type of the model are made from qualified names. -/
theorem regular_of_mem_names : (type : TypeExpr) → ∀ name ∈ type.typeUse.names, name.Regular
  | ⟨qualified, _, arguments⟩ => by
    intro name hname
    rw [typeUse, TypeUse.names] at hname
    rcases List.mem_cons.1 hname with rfl | hrest
    · rfl
    · exact regular_of_mem_namesOfAll arguments name hrest

theorem regular_of_mem_namesOfAll : (types : List TypeExpr) → ∀ name ∈ TypeUse.namesOfAll (typeUses types), name.Regular
  | [] => nofun
  | type :: rest => by
    intro name hname
    rw [typeUses, TypeUse.namesOfAll] at hname
    rcases List.mem_append.1 hname with htype | hrest
    · exact regular_of_mem_names type name htype
    · exact regular_of_mem_namesOfAll rest name hrest

end

end TypeExpr

/-- Whether serializers are registered under the names of what they convert, and both go by the last segments of their names. -/
structure SerializerRegistry.IsRegular (registry : SerializerRegistry) : Prop where
  keyed : registry.Keyed
  serializers : ∀ serializer ∈ registry.serializers, serializer.serializer.Regular ∧ serializer.value.Regular

theorem SerializerRegistry.isRegular_of_collect {symbols : Symbols} {registry : SerializerRegistry}
    (h : (SerializerRegistry.collect symbols).result = .ok registry) : registry.IsRegular := by
  refine ⟨keyed_of_collect h, fun serializer hserializer => ?_⟩
  obtain ⟨declaration, hread⟩ := exists_read_of_collect h hserializer
  exact ⟨(serializer_of_read hread).1 ▸ rfl, regular_value_of_collect h hserializer⟩

namespace TypeContext

variable {context : TypeContext} {navType : NavType}

theorem isRegular_of_classNavType? (hregistry : context.registry.IsRegular) {declaration : Declaration}
    (h : context.classNavType? declaration = some navType) : navType.IsRegular := by
  unfold classNavType? at h
  split at h
  · rename_i hserializer
    cases h
    exact hregistry.serializers _ (SerializerRegistry.mem_serializers_of_find? hserializer)
  · split at h
    · cases h
      rfl
    · dsimp only at h
      split at h
      · cases h
        rfl
      · split at h
        · cases h
          rfl
        · contradiction

/-- A nav type that a type is read with is made from declarations by their qualified names. -/
theorem isRegular_of_navType (hregistry : context.registry.IsRegular) {type : TypeExpr} (h : context.navType type = .ok navType) :
    navType.IsRegular := by
  have helement : ∀ value, navType.element.1.generatedFor? = some value → navType.element.1.IsRegular := by
    intro value hvalue
    have hread := valueNavType?_of_navType hregistry.keyed h hvalue
    unfold valueNavType? at hread
    split at hread
    · rename_i serializer hserializer
      rw [← Option.some.inj hread]
      exact hregistry.serializers serializer (SerializerRegistry.mem_serializers_of_find? hserializer)
    · obtain ⟨declaration, -, hclass⟩ := Option.bind_eq_some_iff.1 hread
      exact isRegular_of_classNavType? hregistry hclass
  have hsupported := isSupported_of_navType h
  cases navType with
  | list element =>
    cases element with
    | primitive _ => trivial
    | primitiveArray _ | list _ => exact hsupported.elim
    | _ => exact helement _ rfl
  | primitive _ | primitiveArray _ => trivial
  | _ => exact helement _ rfl

end TypeContext

/-- The names that a destination brings into generated files are made from qualified names. -/
theorem DestinationReader.isRegular_of_destination {reader : DestinationReader} (hregistry : reader.registry.IsRegular) {path : AnnotationPath}
    {destination : Destination} (h : reader.destination path = .ok destination) : destination.IsRegular := by
  have hreads := readsParameters_of_destination h
  have hnavTypes := maps_of_destination h
  obtain ⟨argumentsClass?, read, result?, links, -, -, -, -, rfl⟩ := destination_eq_ok h
  refine {
    object := ⟨path.target.simpleName, dot_not_mem_lastSegment _, rfl⟩
    target := rfl
    types := fun argument hargument => ?_
    argumentsClass := fun name hname => ?_
    result := fun result hresult => ?_
    navTypes := fun navType hnavType => ?_ }
  · obtain ⟨_, _, written, htype, -⟩ := hreads.arguments argument hargument
    exact htype ▸ written.regular_of_mem_names
  · obtain ⟨declaration, -, rfl⟩ := Option.map_eq_some_iff.1 hname
    rfl
  · obtain ⟨_, _, written, htype, -⟩ := hreads.result result hresult
    exact htype ▸ written.regular_of_mem_names
  · obtain ⟨_, _, _, hread⟩ := hnavTypes navType hnavType
    exact TypeContext.isRegular_of_navType hregistry hread

theorem Model.isRegular_of_assemble? {symbols : Symbols} {model : Model} (h : (Model.assemble? symbols).result = .ok (some model)) :
    model.IsRegular := by
  obtain ⟨_, _, reader, destinations, graphs, -, -, -, hregistry, hdestinations, hgraphs, hperm, hpermGraphs⟩ := stages_of_assemble? h
  constructor
  · intro destination hmem
    obtain ⟨path, -, hread⟩ := exists_of_mem_mapM hdestinations (hperm.mem_iff.1 hmem)
    exact DestinationReader.isRegular_of_destination (SerializerRegistry.isRegular_of_collect hregistry) hread
  · intro graph hmem property hproperty
    have hcompleted := GraphDeclarations.completedAll_of_graphsFor hgraphs
    exact (hcompleted.arguments graph (hpermGraphs.mem_iff.1 hmem) property hproperty).1

/-! ## Files of a pass -/

namespace Generation

/-- What is generated for a table, in whatever package and under whatever module name, calls names by the last segments of what it imports. A file has
unambiguous imports exactly if the names that declarations bring into it stand apart among its imports, and each simple name in it stands for one
declaration exactly if they stand apart among all of its names. -/
theorem unambiguousImports_iff_declaredApart {symbols : Symbols} {model : Model} (h : (Model.assemble? symbols).result = .ok (some model))
    (settings : Settings) :
    (Generation.mk settings model).files.map (·.content) = (Generation.mk settings model).sources.map (·.file.text) ∧
      ∀ source ∈ (Generation.mk settings model).sources,
        (∀ name ∈ source.file.body.names, name.simple = lastSegment name.qualified) ∧
          (source.file.UnambiguousImports ↔ source.DeclaredApart source.file.needsImport) ∧
          (source.file.UnambiguousNames ↔ source.DeclaredApart fun _ => true) := by
  have hregular := Model.isRegular_of_assemble? h
  refine ⟨content_files _, fun source hsource => ?_⟩
  have haccounts := accountsFor_of_mem_sources (Model.assembled_of_assemble? h) hregular hsource
  refine ⟨fun name hname => ?_, haccounts.unambiguousImports_iff hregular, haccounts.unambiguousNames_iff hregular⟩
  exact congrArg Name.simple (haccounts.regular_of_mem_names hregular hname)

/-- A screen whose argument is an entry of an enumeration of another package. -/
def bearingTable (enumeration : String) : SymbolTable :=
  { declarations := [
      { qualified := enumeration, kind := .enumClass },
      { qualified := "app.CompassScreen"
        kind := .function
        annotations := [{ type := Library.destination, typeArguments := [], arguments := [("start", .bool true)] }]
        parameters := [{ name := "bearing", type := .plain enumeration, default? := none }] }] }

/-- Beside an enumeration that is called like nothing else, the imports of all files are unambiguous. -/
theorem unambiguousImports_iff_declaredApart_heading :
    ∃ model, (Model.assemble? (bearingTable "app.model.Heading").symbols).result = .ok (some model) ∧ model.isValid = true ∧
      ∀ source ∈ (inApp model).sources, source.file.UnambiguousImports := by
  obtain ⟨model, hassembled, hvalid, hapart⟩ := Model.exists_assembled (bearingTable "app.model.Heading").symbols
    (fun model => model.isValid = true ∧ ∀ source ∈ (inApp model).sources, source.DeclaredApart source.file.needsImport) (by decide +kernel)
  obtain ⟨-, hsources⟩ := unambiguousImports_iff_declaredApart hassembled (inApp model).settings
  exact ⟨model, hassembled, hvalid, fun source hsource => (hsources source hsource).2.1.2 (hapart source hsource)⟩

/-- An enumeration can be called like the type that calls of a destination give, and then a file of a valid model imports both. -/
theorem unambiguousImports_false :
    ¬∀ (config : Config) (table : SymbolTable) (generation : Generation), config.generation? table = some generation →
        ∀ source ∈ generation.sources, source.file.UnambiguousImports := by
  intro hunambiguous
  obtain ⟨model, hassembled, hvalid, hconfused⟩ := Model.exists_assembled (bearingTable "app.model.Direction").symbols
    (fun model => model.isValid = true ∧
      ¬∀ source ∈ (Config.default.generation model).sources, source.DeclaredApart source.file.needsImport) (by decide +kernel)
  have hgeneration : Config.default.generation? (bearingTable "app.model.Direction") = some (Config.default.generation model) :=
    Config.generation?_eq_some_iff.2 ⟨model, hassembled, hvalid, rfl⟩
  refine hconfused fun source hsource => ?_
  have hregular := Model.isRegular_of_assemble? hassembled
  have haccounts := accountsFor_of_mem_sources (Model.assembled_of_assemble? hassembled) hregular hsource
  exact (haccounts.unambiguousImports_iff hregular).1 (hunambiguous .default _ _ hgeneration source hsource)

end Generation

end NavGen
