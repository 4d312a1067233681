import NavGen.Proofs.Model.ValueTypes
import NavGen.Proofs.Pass.AssembledModel
import NavGen.Proofs.Pass.Serializers

/-!
# One nav type for each class

A type can be written by its own name or by an alias, and its serializer is looked up twice, by the name as written and by the class that it stands
for. Serializers are registered for classes, never for aliases, so both searches agree. All ways to write one class are mapped alike, and for one
value type there is one nav type. So the nav type that a model keeps for a value type, which is that of its first use, is that of every use.
-/

namespace NavGen

/-! ## Names of classes -/

namespace SymbolTable

variable {table : SymbolTable}

/-- The end of a chain of aliases is no alias, and is found by its own name if the start is. -/
theorem find?_of_followAliases {steps : Nat} {declaration last : Declaration} (hfind : table.find? declaration.qualified = some declaration)
    (h : table.followAliases steps declaration = some last) : table.find? last.qualified = some last ∧ last.kind ≠ .typeAlias := by
  induction steps generalizing declaration with
  | zero => contradiction
  | succ steps ih =>
    rw [followAliases] at h
    split at h
    · split at h
      · contradiction
      · rename_i target _
        split at h
        · contradiction
        · rename_i next hnext
          have hname : next.qualified = target.qualified := (mem_of_find?_key hnext).2
          exact ih (hname ▸ hnext) h
    · rename_i hkind
      cases h
      exact ⟨hfind, hkind⟩

/-- The class of a type is no alias and is found by its own name. -/
theorem find?_of_classOf? {type : TypeExpr} {declaration : Declaration} (h : table.classOf? type = some declaration) :
    table.find? declaration.qualified = some declaration ∧ declaration.kind ≠ .typeAlias := by
  obtain ⟨first, hfirst, hfollow⟩ := Option.bind_eq_some_iff.1 h
  have hname : first.qualified = type.qualified := (mem_of_find?_key hfirst).2
  exact find?_of_followAliases (hname ▸ hfirst) hfollow

/-- A type that is written by the name of a class stands for that class. -/
theorem classOf?_of_find? {type : TypeExpr} {declaration : Declaration} (h : table.find? type.qualified = some declaration)
    (hkind : declaration.kind ≠ .typeAlias) : table.classOf? type = some declaration := by
  rw [classOf?, h, Option.bind_some, maxAliases, followAliases, if_neg hkind]

end SymbolTable

/-! ## Names of serialized types -/

namespace SerializerRegistry

variable {table : SymbolTable} {registry : SerializerRegistry}

/-- Whether no serializer is registered for the name of an alias. -/
def AliasFree (registry : SerializerRegistry) (table : SymbolTable) : Prop :=
  ∀ qualified serializer, registry.find? qualified = some serializer →
    ∀ declaration, table.find? qualified = some declaration → declaration.kind ≠ .typeAlias

/-- A type that is converted goes by the name of its class, or is not declared. -/
theorem kind_ne_of_convertedType? {type : TypeExpr} {value : Name} (h : convertedType? table type = some value) {declaration : Declaration}
    (hfind : table.find? value.qualified = some declaration) : declaration.kind ≠ .typeAlias := by
  unfold convertedType? at h
  split at h
  · rename_i hnone
    cases h
    exact absurd (hnone.symm.trans hfind) (by simp)
  · obtain ⟨last, hclass, rfl⟩ := Option.map_eq_some_iff.1 h
    obtain ⟨hlast, hkind⟩ := SymbolTable.find?_of_classOf? hclass
    cases hlast.symm.trans hfind
    exact hkind

/-- A serializer goes by the name of its declaration, and converts what its interface names. -/
theorem serializer_of_read {declaration : Declaration} {serializer : Serializer} (h : read table declaration = .ok serializer) :
    serializer.serializer = declaration.name ∧ ∃ type, convertedType? table type = some serializer.value := by
  unfold read at h
  split at h
  · contradiction
  · split at h
    · contradiction
    · split at h
      · contradiction
      · rename_i hvalue
        cases h
        obtain ⟨type, -, htype⟩ := Option.bind_eq_some_iff.1 hvalue
        exact ⟨rfl, type, htype⟩

/-- The serializers of symbols are read from declarations. -/
theorem exists_read_of_collect {symbols : Symbols} (h : (collect symbols).result = .ok registry) {serializer : Serializer}
    (hserializer : serializer ∈ registry.serializers) : ∃ declaration, read symbols.table declaration = .ok serializer := by
  obtain ⟨added, hadded, rfl, -⟩ := (result_readAll_eq_ok_iff symbols.table _ nodup_names_empty _).1 h
  have hmem : serializer ∈ added := serializers_ofSerializers added ▸ hserializer
  obtain ⟨declaration, -, hread⟩ := exists_of_mem_mapM hadded hmem
  exact ⟨declaration, hread⟩

/-- The serializers that are declared convert what their interfaces name. -/
theorem exists_convertedType?_of_collect {symbols : Symbols} (h : (collect symbols).result = .ok registry) {serializer : Serializer}
    (hserializer : serializer ∈ registry.serializers) : ∃ type, convertedType? symbols.table type = some serializer.value := by
  obtain ⟨declaration, hread⟩ := exists_read_of_collect h hserializer
  exact (serializer_of_read hread).2

/-- They are registered for no alias. -/
theorem aliasFree_of_collect {symbols : Symbols} (h : (collect symbols).result = .ok registry) : registry.AliasFree symbols.table := by
  intro qualified serializer hserializer declaration hfind
  obtain ⟨type, hconverted⟩ := exists_convertedType?_of_collect h (mem_serializers_of_find? hserializer)
  rw [← (keyed_of_collect h).qualified_of_find? hserializer] at hfind
  exact kind_ne_of_convertedType? hconverted hfind

/-- The types that they convert go by the last segments of their qualified names. -/
theorem regular_value_of_collect {symbols : Symbols} (h : (collect symbols).result = .ok registry) {serializer : Serializer}
    (hserializer : serializer ∈ registry.serializers) : serializer.value.Regular := by
  obtain ⟨type, hconverted⟩ := exists_convertedType?_of_collect h hserializer
  unfold convertedType? at hconverted
  split at hconverted
  · rw [← Option.some.inj hconverted]
    rfl
  · obtain ⟨declaration, -, hvalue⟩ := Option.map_eq_some_iff.1 hconverted
    rw [← hvalue]
    rfl

/-- So what a serializer converts is known from the name that it is found by. -/
theorem value_eq_of_collect {symbols : Symbols} (h : (collect symbols).result = .ok registry) {qualified : String} {serializer : Serializer}
    (hserializer : registry.find? qualified = some serializer) : serializer.value = Name.ofQualified qualified := by
  rw [← (keyed_of_collect h).qualified_of_find? hserializer]
  exact regular_value_of_collect h (mem_serializers_of_find? hserializer)

end SerializerRegistry

/-! ## Nav types by class and by value type -/

/-- Whether the nav type of a type depends on what it stands for: by its name it is neither a primitive nor an array nor a list. -/
structure TypeExpr.MappedByClass (type : TypeExpr) : Prop where
  primitive : Primitive.ofQualified? type.qualified = none
  array : Primitive.ofArrayQualified? type.qualified = none
  list : type.qualified ∉ listTypes

theorem NavType.IsSingle.element_eq {navType : NavType} (h : navType.IsSingle) : navType.element = (navType, false) := by
  cases navType with
  | list _ => exact h.elim
  | _ => rfl

namespace TypeContext

variable {context : TypeContext} {type : TypeExpr} {navType : NavType}

/-- The nav type of a value type, by its qualified name: that of its serializer, or else that of the class of that name. -/
def valueNavType? (context : TypeContext) (qualified : String) : Option NavType :=
  match context.registry.find? qualified with
  | some serializer => some (.custom serializer)
  | none => (context.table.find? qualified).bind context.classNavType?

theorem navType_of_mappedByClass (h : type.MappedByClass) : context.navType type = context.singleNavType type := by
  have hlist : listTypes.contains type.qualified = false := by simpa using h.list
  rw [TypeContext.navType, h.array, hlist]
  rfl

/-- A class that has a serializer is mapped by it. -/
theorem classNavType?_of_find? {declaration : Declaration} {serializer : Serializer}
    (h : context.registry.find? declaration.qualified = some serializer) : context.classNavType? declaration = some (.custom serializer) := by
  rw [classNavType?, h]

/-- The search by the name as written changes nothing: a type is mapped as its class. -/
theorem toOption_singleNavType (hregistry : context.registry.AliasFree context.table) (hprimitive : Primitive.ofQualified? type.qualified = none)
    {declaration : Declaration} (hclass : context.table.classOf? type = some declaration) :
    (context.singleNavType type).toOption = context.classNavType? declaration := by
  rw [singleNavType, hprimitive]
  dsimp only
  cases hwritten : context.registry.find? type.qualified with
  | some serializer =>
    obtain ⟨first, hfirst, -⟩ := Option.bind_eq_some_iff.1 hclass
    have hkind := hregistry _ serializer hwritten first hfirst
    have hname : declaration.qualified = type.qualified := by
      rw [SymbolTable.classOf?_of_find? hfirst hkind] at hclass
      cases hclass
      exact (mem_of_find?_key hfirst).2
    exact (classNavType?_of_find? (hname ▸ hwritten)).symm
  | none =>
    rw [hclass, Option.bind_some]
    cases context.classNavType? declaration <;> rfl

/-- The nav type of a class is generated for that class. -/
theorem qualified_of_classNavType? (hkeyed : context.registry.Keyed) {declaration : Declaration} (h : context.classNavType? declaration = some navType) {value : Name}
    (hvalue : navType.generatedFor? = some value) : value.qualified = declaration.qualified := by
  unfold classNavType? at h
  split at h
  · rename_i serializer hserializer
    cases h
    cases hvalue
    exact hkeyed.qualified_of_find? hserializer
  · split at h
    · cases h
      cases hvalue
      rfl
    · dsimp only at h
      split at h
      · cases h
        cases hvalue
        rfl
      · split at h
        · cases h
          cases hvalue
          rfl
        · contradiction

/-- What a single value crosses a route as is decided by its value type. -/
theorem valueNavType?_of_singleNavType (hkeyed : context.registry.Keyed) (h : context.singleNavType type = .ok navType) {value : Name}
    (hvalue : navType.generatedFor? = some value) : context.valueNavType? value.qualified = some navType := by
  unfold singleNavType at h
  split at h
  · cases h
    contradiction
  · split at h
    · rename_i serializer hserializer
      cases h
      cases hvalue
      rw [valueNavType?, hkeyed.qualified_of_find? hserializer, hserializer]
    · split at h
      · rename_i hclass
        cases h
        obtain ⟨declaration, hdeclaration, hnavType⟩ := Option.bind_eq_some_iff.1 hclass
        rw [qualified_of_classNavType? hkeyed hnavType hvalue, valueNavType?]
        cases hserializer : context.registry.find? declaration.qualified with
        | some serializer =>
          rw [classNavType?_of_find? hserializer] at hnavType
          exact hnavType
        | none =>
          rw [(SymbolTable.find?_of_classOf? hdeclaration).1]
          exact hnavType
      · contradiction

/-- So is what a list of such values crosses a route as. -/
theorem valueNavType?_of_navType (hkeyed : context.registry.Keyed) (h : context.navType type = .ok navType) {value : Name}
    (hvalue : navType.element.1.generatedFor? = some value) : context.valueNavType? value.qualified = some navType.element.1 := by
  unfold TypeContext.navType at h
  split at h
  · unfold arrayNavType at h
    split at h
    · contradiction
    · cases h
      contradiction
  · split at h
    · split at h
      · contradiction
      · obtain ⟨single, hread, rfl⟩ := map_eq_ok.1 h
        exact valueNavType?_of_singleNavType hkeyed hread hvalue
    · have helement := (isSingle_of_singleNavType h).element_eq
      rw [helement] at hvalue ⊢
      exact valueNavType?_of_singleNavType hkeyed h hvalue

/-- A type that is mapped by its class has the nav type of the class, whatever it is called. -/
theorem toOption_navType (hregistry : context.registry.AliasFree context.table) (hmapped : type.MappedByClass) {declaration : Declaration}
    (hclass : context.table.classOf? type = some declaration) : (context.navType type).toOption = context.classNavType? declaration := by
  rw [navType_of_mappedByClass hmapped, toOption_singleNavType hregistry hmapped.primitive hclass]

/-- Nav types that are generated for one value type are equal, whoever declares the arguments: lists count by their elements. -/
theorem element_eq_of_navType {table : SymbolTable} {registry : SerializerRegistry} (hkeyed : registry.Keyed) {owner argument owner' argument' : String}
    {first second : TypeExpr} {navType navType' : NavType} (h : (TypeContext.mk table registry owner argument).navType first = .ok navType)
    (h' : (TypeContext.mk table registry owner' argument').navType second = .ok navType') {value value' : Name}
    (hvalue : navType.element.1.generatedFor? = some value) (hvalue' : navType'.element.1.generatedFor? = some value')
    (hname : value.qualified = value'.qualified) : navType.element.1 = navType'.element.1 := by
  have hown := valueNavType?_of_navType hkeyed h hvalue
  have hother := valueNavType?_of_navType hkeyed h' hvalue'
  rw [← hname] at hother
  exact Option.some.inj (hown.symm.trans hother)

end TypeContext

/-- The nav type that a model keeps for a value type is that of every use. -/
theorem Model.navType_eq_of_mem_valueTypes {symbols : Symbols} {model : Model} (h : (Model.assemble? symbols).result = .ok (some model))
    {destination : Destination} (hdestination : destination ∈ model.destinations) {navType : NavType} (hnavType : navType ∈ destination.navTypes)
    {entry : ValueType} (hentry : entry ∈ model.valueTypes) (hvalue : navType.element.1.generatedFor? = some entry.value) :
    entry.navType = navType.element.1 := by
  obtain ⟨reader, -, hregistry, hmaps⟩ := exists_reader_of_assemble? h
  obtain ⟨use, huse, hname, hkept, -⟩ := exists_use_of_mem_valueTypes hentry
  obtain ⟨other, hother, used, hused, helement, -, hgenerated⟩ := exists_navType_of_mem_valueTypeUses huse
  obtain ⟨_, _, _, hread⟩ := hmaps destination hdestination navType hnavType
  obtain ⟨_, _, _, hreadOther⟩ := hmaps other hother used hused
  rw [helement, hname] at hgenerated
  rw [hkept, helement]
  exact TypeContext.element_eq_of_navType (SerializerRegistry.keyed_of_collect hregistry) hreadOther hread hgenerated hvalue rfl

/-! ## The whole mapping -/

/-- Whether types are mapped alike wherever they are declared and however they are written. -/
structure Symbols.MapsCoherently (symbols : Symbols) (registry : SerializerRegistry) : Prop where
  /-- Two types that stand for one class have the same nav type, or neither has one. -/
  classes : ∀ {first second : TypeExpr} {declaration : Declaration}, first.MappedByClass → second.MappedByClass →
    symbols.table.classOf? first = some declaration → symbols.table.classOf? second = some declaration →
      ∀ owner argument owner' argument', EndAlike Eq ((TypeContext.mk symbols.table registry owner argument).navType first)
        ((TypeContext.mk symbols.table registry owner' argument').navType second)
  /-- Two nav types that are generated for one value type are equal, be it by itself or in lists. -/
  values : ∀ {owner argument owner' argument' : String} {first second : TypeExpr} {navType navType' : NavType} {value value' : Name},
    (TypeContext.mk symbols.table registry owner argument).navType first = .ok navType →
    (TypeContext.mk symbols.table registry owner' argument').navType second = .ok navType' →
    navType.element.1.generatedFor? = some value → navType'.element.1.generatedFor? = some value' →
      value.qualified = value'.qualified → navType.element.1 = navType'.element.1
  /-- A model keeps one nav type for a value type, which is that of each use. -/
  entries : ∀ {model : Model}, (Model.assemble? symbols).result = .ok (some model) →
    ∀ destination ∈ model.destinations, ∀ navType ∈ destination.navTypes, ∀ value, navType.element.1.generatedFor? = some value →
      (∃ entry ∈ model.valueTypes, entry.value = value) ∧
        ∀ entry ∈ model.valueTypes, entry.value = value → entry.navType = navType.element.1

/-- With the serializers that are declared, types are mapped coherently. -/
theorem mapsCoherently_of_collect {symbols : Symbols} {registry : SerializerRegistry}
    (hcollect : (SerializerRegistry.collect symbols).result = .ok registry) : symbols.MapsCoherently registry := by
  have haliasFree := SerializerRegistry.aliasFree_of_collect hcollect
  have hkeyed := SerializerRegistry.keyed_of_collect hcollect
  refine ⟨?_, fun h h' => TypeContext.element_eq_of_navType hkeyed h h', ?_⟩
  · intro first second declaration hfirst hsecond hclass hclass' owner argument owner' argument'
    refine EndAlike.of_toOption_eq ?_
    rw [TypeContext.toOption_navType haliasFree hfirst hclass, TypeContext.toOption_navType haliasFree hsecond hclass']
    rfl
  · intro model hassembled destination hdestination navType hnavType value hvalue
    obtain ⟨entry, hentry, hname, -⟩ := Model.exists_valueType hdestination hnavType hvalue
    refine ⟨⟨entry, hentry, hname⟩, ?_⟩
    rintro other hother rfl
    exact Model.navType_eq_of_mem_valueTypes hassembled hdestination hnavType hother hvalue

/-- A class with a serializer, which is registered by an alias, another alias that leads to the class over the first, and a screen that uses both. -/
def shadeTable : SymbolTable :=
  { declarations := [
      { qualified := "app.Color", kind := .plainClass },
      { qualified := "app.Tint", kind := .typeAlias, aliased? := some (.plain "app.Color") },
      { qualified := "app.Shade", kind := .typeAlias, aliased? := some (.plain "app.Tint") },
      { qualified := "app.TintSerializer"
        kind := .object
        annotations := [.plain Library.navTypeSerializer]
        supertypes := [{ qualified := Library.serializerInterface, nullable := false, arguments := [.plain "app.Tint"] }] },
      { qualified := "app.PaintScreen"
        kind := .function
        parameters := [
          { name := "shade", type := .plain "app.Shade", default? := none },
          { name := "palette"
            type := { qualified := "kotlin.collections.List", nullable := false, arguments := [.plain "app.Color"] }
            default? := none }]
        annotations := [{ type := Library.destination, typeArguments := [], arguments := [("start", .bool true)] }] }] }

/-- The alias of an alias is mapped by the serializer that is registered for the class, as the class itself is. -/
theorem mapsCoherently_of_collect_shades :
    ∃ registry, (SerializerRegistry.collect shadeTable.symbols).result = .ok registry ∧ ∃ navType,
      (TypeContext.mk shadeTable registry "app.PaintScreen" "shade").navType (.plain "app.Shade") = .ok navType ∧
        (TypeContext.mk shadeTable registry "app.OtherScreen" "color").navType (.plain "app.Color") = .ok navType ∧
        navType.generatedFor? = some (Name.ofQualified "app.Color") := by
  obtain ⟨registry, hcollect, hvalue⟩ := exists_ok_of_any (SerializerRegistry.collect shadeTable.symbols).result
    (fun registry => ((TypeContext.mk shadeTable registry "app.PaintScreen" "shade").navType (.plain "app.Shade")).toOption.bind
      NavType.generatedFor? = some (Name.ofQualified "app.Color")) (by decide +kernel)
  have hshade : (TypeExpr.plain "app.Shade").MappedByClass := ⟨by decide, by decide, by decide⟩
  have hcolor : (TypeExpr.plain "app.Color").MappedByClass := ⟨by decide, by decide, by decide⟩
  have halike := (mapsCoherently_of_collect hcollect).classes hshade hcolor rfl rfl "app.PaintScreen" "shade" "app.OtherScreen" "color"
  cases hread : (TypeContext.mk shadeTable registry "app.PaintScreen" "shade").navType (.plain "app.Shade") with
  | error error =>
    rw [hread] at hvalue
    contradiction
  | ok navType =>
    rw [hread] at hvalue
    obtain ⟨_, hread', rfl⟩ := halike.exists_ok_right hread
    exact ⟨registry, hcollect, navType, hread, hread', hvalue⟩

end NavGen
