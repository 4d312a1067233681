import NavGen.Proofs.Model.ValueTypes

/-!
# Value types and their uses

A value type of a model is put together from all its uses: by arguments and by results, directly and as the element of a list, with whatever serializers.
The statements here say what it comes to, in terms of the destinations alone: which types there are and in which order, how each of them crosses a
route, whether lists of it do, and which sources it depends on.
-/

namespace NavGen

/-- Whether a nav type is no list of lists. -/
def NavType.isFlat : NavType → Bool
  | .list (.list _) => false
  | _ => true

theorem NavType.generatedFor?_element (navType : NavType) : navType.element.1.generatedFor? = navType.generatedFor? := by
  cases navType <;> rfl

theorem NavType.element_ne_list {navType : NavType} (h : navType.isFlat = true) (element : NavType) : navType.element.1 ≠ .list element := by
  rintro hlist
  cases navType with
  | list inner =>
    obtain rfl : inner = .list element := hlist
    contradiction
  | _ => contradiction

/-- An element has a serializer of its own if it is custom. -/
theorem NavType.mem_serializerIds {navType : NavType} {id : String} :
    id ∈ navType.serializerIds ↔ ∃ serializer, navType = .custom serializer ∧ id ∈ serializer.sourceIds := by
  cases navType <;> simp [serializerIds]

/-! ## What destinations use -/

namespace Destination

/-- Whether an argument or the result of a destination is of a value type, or of lists of it. -/
def Uses (destination : Destination) (value : Name) : Prop :=
  ∃ navType ∈ destination.navTypes, navType.generatedFor? = some value

/-- Whether an argument or the result of a destination is of lists of a value type. -/
def UsesInList (destination : Destination) (value : Name) : Prop :=
  ∃ element, .list element ∈ destination.navTypes ∧ element.generatedFor? = some value

/-- Whether an argument or the result of a destination, or the elements of one, are converted by a serializer. -/
def UsesSerializer (destination : Destination) (serializer : Serializer) : Prop :=
  .custom serializer ∈ destination.navTypes ∨ .list (.custom serializer) ∈ destination.navTypes

/-- The use of a value type by a destination that has an argument or result of a nav type. -/
def useAs (destination : Destination) (navType : NavType) (value : Name) : ValueTypeUse :=
  { value
    navType := navType.element.1
    inList := navType.element.2
    sourceIds := destination.sourceIds ++ navType.element.1.serializerIds }

/-- A nav type with a given element is that nav type itself, if it is no list, or a list of it. -/
theorem usesSerializer_iff {destination : Destination} {serializer : Serializer} :
    destination.UsesSerializer serializer ↔ ∃ navType ∈ destination.navTypes, navType.element.1 = .custom serializer := by
  constructor
  · rintro (hmem | hmem)
    · exact ⟨_, hmem, rfl⟩
    · exact ⟨_, hmem, rfl⟩
  · rintro ⟨navType, hmem, helement⟩
    cases navType with
    | list element =>
      obtain rfl : element = .custom serializer := helement
      exact Or.inr hmem
    | custom other =>
      obtain rfl : other = serializer := by simpa [NavType.element] using helement
      exact Or.inl hmem
    | _ => contradiction

theorem usesInList_iff {destination : Destination} {value : Name} :
    destination.UsesInList value ↔ ∃ navType ∈ destination.navTypes, navType.generatedFor? = some value ∧ navType.element.2 = true := by
  constructor
  · rintro ⟨element, hmem, hvalue⟩
    exact ⟨_, hmem, hvalue, rfl⟩
  · rintro ⟨navType, hmem, hvalue, hlist⟩
    cases navType with
    | list element => exact ⟨element, hmem, hvalue⟩
    | _ => contradiction

/-- The sources of the uses of a value type by a destination are its own, if it uses the type, and those of the serializers it uses the type with. -/
theorem mem_sourceIds_useAs_iff {destination : Destination} {value : Name} {id : String} :
    (∃ navType ∈ destination.navTypes, navType.generatedFor? = some value ∧ id ∈ (destination.useAs navType value).sourceIds) ↔
      destination.Uses value ∧ id ∈ destination.sourceIds ∨
        ∃ serializer, destination.UsesSerializer serializer ∧ serializer.value = value ∧ id ∈ serializer.sourceIds := by
  simp only [useAs, List.mem_append, NavType.mem_serializerIds]
  constructor
  · rintro ⟨navType, hmem, hvalue, hown | ⟨serializer, helement, hserializer⟩⟩
    · exact Or.inl ⟨⟨navType, hmem, hvalue⟩, hown⟩
    · rw [← navType.generatedFor?_element, helement] at hvalue
      exact Or.inr ⟨serializer, usesSerializer_iff.2 ⟨navType, hmem, helement⟩, Option.some.inj hvalue, hserializer⟩
  · rintro (⟨⟨navType, hmem, hvalue⟩, hown⟩ | ⟨serializer, huses, rfl, hserializer⟩)
    · exact ⟨navType, hmem, hvalue, Or.inl hown⟩
    · obtain ⟨navType, hmem, helement⟩ := usesSerializer_iff.1 huses
      refine ⟨navType, hmem, ?_, Or.inr ⟨serializer, helement, hserializer⟩⟩
      rw [← navType.generatedFor?_element, helement]
      rfl

end Destination

/-- Whether a value type says what the destinations of a model together say of it. -/
structure ValueType.SumsUp (model : Model) (type : ValueType) : Prop where
  /-- How its values cross a route is what the first nav type says that is generated for it. -/
  navType : ∃ navType, (model.destinations.flatMap (·.navTypes)).find? (·.generatedFor? == some type.value) = some navType ∧
    type.navType = navType.element.1
  generatedFor : type.navType.generatedFor? = some type.value
  inLists : type.inLists = true ↔ ∃ destination ∈ model.destinations, destination.UsesInList type.value
  /-- Its sources are those of the destinations that use it and those of the serializers that they use it with. -/
  sourceIds : ∀ id, id ∈ type.sourceIds ↔
    (∃ destination ∈ model.destinations, destination.Uses type.value ∧ id ∈ destination.sourceIds) ∨
      ∃ destination ∈ model.destinations, ∃ serializer, destination.UsesSerializer serializer ∧ serializer.value = type.value ∧
        id ∈ serializer.sourceIds
  orderedIds : type.sourceIds.Pairwise (· < ·)

namespace Model

variable {model : Model}

/-! ## Uses -/

/-- The use of a nav type is one of the value type that it is generated for. -/
theorem useOf?_eq (destination : Destination) (navType : NavType) :
    destination.useOf? navType = navType.generatedFor?.map (destination.useAs navType) := by
  rw [← navType.generatedFor?_element]
  rfl

/-- Some use of a value type has a property if one by some nav type of some destination has. -/
theorem exists_use_iff {value : Name} {p : ValueTypeUse → Prop} :
    (∃ use ∈ model.valueTypeUses, use.value = value ∧ p use) ↔
      ∃ destination ∈ model.destinations, ∃ navType ∈ destination.navTypes, navType.generatedFor? = some value ∧
        p (destination.useAs navType value) := by
  simp only [valueTypeUses, List.mem_flatMap, Destination.valueTypeUses, List.mem_filterMap, useOf?_eq, Option.map_eq_some_iff]
  constructor
  · rintro ⟨_, ⟨destination, hdestination, navType, hnavType, _, hvalue, rfl⟩, rfl, hp⟩
    exact ⟨destination, hdestination, navType, hnavType, hvalue, hp⟩
  · rintro ⟨destination, hdestination, navType, hnavType, hvalue, hp⟩
    exact ⟨_, ⟨destination, hdestination, navType, hnavType, value, hvalue, rfl⟩, rfl, hp⟩

/-- The first use of a value type is that of the first nav type that is generated for it. -/
theorem find?_valueTypeUses {value : Name} {first : ValueTypeUse} (h : model.valueTypeUses.find? (·.value == value) = some first) :
    ∃ navType, (model.destinations.flatMap (·.navTypes)).find? (·.generatedFor? == some value) = some navType ∧
      first.navType = navType.element.1 := by
  have hany : ∀ (destination : Destination) (navType : NavType),
      (destination.useOf? navType).any (·.value == value) = (navType.generatedFor? == some value) := by
    intro destination navType
    rw [useOf?_eq]
    cases navType.generatedFor? <;> rfl
  simp only [valueTypeUses, List.find?_flatMap, Destination.valueTypeUses, List.find?_filterMap, hany] at h ⊢
  obtain ⟨before, destination, after, hsplit, hfirst, hbefore⟩ := List.findSome?_eq_some_iff.1 h
  obtain ⟨navType, hnavType, huse⟩ := Option.bind_eq_some_iff.1 hfirst
  refine ⟨navType, List.findSome?_eq_some_iff.2 ⟨before, destination, after, hsplit, hnavType, fun other hmem => ?_⟩, ?_⟩
  · -- a nav type that is found has a use
    rw [Option.eq_none_iff_forall_ne_some]
    intro found hfound
    have hnone := Option.bind_eq_none_iff.1 (hbefore other hmem) found hfound
    have hvalue : found.generatedFor? = some value := by simpa using List.find?_some hfound
    rw [useOf?_eq, hvalue] at hnone
    contradiction
  · rw [useOf?_eq] at huse
    obtain ⟨_, -, rfl⟩ := Option.map_eq_some_iff.1 huse
    rfl

/-! ## What the uses say together -/

theorem valueType?_eq_some_iff {uses : List ValueTypeUse} {value : Name} {type : ValueType} :
    valueType? uses value = some type ↔
      ∃ first, uses.find? (·.value == value) = some first ∧
        type = { value, navType := first.navType, inLists := (uses.filter (·.value == value)).any (·.inList),
                 sourceIds := sortedTexts ((uses.filter (·.value == value)).flatMap (·.sourceIds)) } := by
  unfold valueType?
  dsimp only
  rw [List.head?_filter, Option.map_eq_some_iff]
  simp only [eq_comm]

/-- There is one value type for each type that is used, in the order of their names. -/
theorem map_value_valueTypes (model : Model) : model.valueTypes.map (·.value) = sortedNames (model.valueTypeUses.map (·.value)) := by
  rw [valueTypes, List.map_filterMap]
  have hsome : ∀ value ∈ sortedNames (model.valueTypeUses.map (·.value)),
      (valueType? model.valueTypeUses value).map (·.value) = some value := by
    intro value hmem
    obtain ⟨use, huse, rfl⟩ := List.mem_map.1 (mem_sortedNames.1 hmem)
    obtain ⟨type, htype, hvalue, -⟩ := exists_valueType? huse
    rw [htype, Option.map_some, hvalue]
  rw [List.filterMap_congr hsome, List.filterMap_some]

/-- Value types come in the order of their names, each once. -/
theorem pairwise_value_valueTypes (model : Model) :
    (model.valueTypes.map (·.value)).Pairwise fun value other => value.le other = true ∧ value ≠ other := by
  rw [map_value_valueTypes]
  exact pairwise_dropRepeats (fun _ _ => Name.le_antisymm) (pairwise_sortBy Name.le_total Name.le_trans _)

/-- There is a value type for each type that is used. -/
theorem mem_value_valueTypes {value : Name} :
    value ∈ model.valueTypes.map (·.value) ↔ ∃ destination ∈ model.destinations, destination.Uses value := by
  rw [map_value_valueTypes, mem_sortedNames, List.mem_map]
  have huse := @exists_use_iff model value fun _ => True
  simp only [and_true] at huse
  exact huse

/-- A value type says what its uses say together. -/
theorem sumsUp_of_mem_valueTypes {type : ValueType} (h : type ∈ model.valueTypes) : type.SumsUp model := by
  obtain ⟨value, -, htype⟩ := List.mem_filterMap.1 h
  obtain ⟨first, hfirst, heq⟩ := valueType?_eq_some_iff.1 htype
  obtain rfl : type.value = value := congrArg ValueType.value heq
  refine ⟨?_, generatedFor?_of_mem_valueTypes h, ?_, fun id => ?_, ?_⟩
  · rw [heq]
    exact find?_valueTypeUses hfirst
  · have hany : type.inLists = true ↔ ∃ use ∈ model.valueTypeUses, use.value = type.value ∧ use.inList = true := by
      rw [heq]
      simp
    rw [hany, exists_use_iff]
    simp only [Destination.usesInList_iff, Destination.useAs]
  · have hmem : id ∈ type.sourceIds ↔ ∃ use ∈ model.valueTypeUses, use.value = type.value ∧ id ∈ use.sourceIds := by
      rw [heq]
      simp [mem_sortedTexts, and_assoc]
    rw [hmem, exists_use_iff]
    simp only [Destination.mem_sourceIds_useAs_iff, and_or_left, exists_or]
  · rw [heq]
    exact pairwise_lt_sortedTexts _

/-- For a model without lists of lists, the value types are exactly what its destinations use, each once and in the order of their names. Each is no
list, and says exactly what the uses of the type say together. -/
theorem valueTypes_exact (h : ∀ destination ∈ model.destinations, ∀ navType ∈ destination.navTypes, navType.isFlat = true) :
    (∀ value, value ∈ model.valueTypes.map (·.value) ↔ ∃ destination ∈ model.destinations, destination.Uses value) ∧
      ((model.valueTypes.map (·.value)).Pairwise fun value other => value.le other = true ∧ value ≠ other) ∧
        ∀ type ∈ model.valueTypes, (∀ element, type.navType ≠ .list element) ∧ type.SumsUp model := by
  refine ⟨fun value => mem_value_valueTypes, pairwise_value_valueTypes model, fun type hmem => ?_⟩
  have hsums := sumsUp_of_mem_valueTypes hmem
  obtain ⟨navType, hfirst, hnavType⟩ := hsums.navType
  obtain ⟨destination, hdestination, hused⟩ := List.mem_flatMap.1 (List.mem_of_find?_eq_some hfirst)
  rw [hnavType]
  exact ⟨NavType.element_ne_list (h destination hdestination navType hused), hsums⟩

/-- Two screens that use colours with different serializers, one of them in a list. -/
def paletteModel : Model :=
  let color := Name.ofQualified "lib.Color"
  let mode := Name.ofQualified "app.Mode"
  let serializer (name : String) : Serializer :=
    { kind := .singleton, serializer := Name.ofQualified ("app." ++ name), value := color, sourceIds := [name ++ ".kt"] }
  let argument (name : String) (navType : NavType) : Argument :=
    { name, type := ⟨Name.ofQualified "kotlin.Any", false, []⟩, navType, default? := none }
  let screen (name : String) (arguments : List Argument) (result? : Option ResultSender) (source : String) : Destination :=
    { name := name ++ "Destination", target := Name.ofQualified ("app." ++ name), kind := .composable, baseRoute := name
      graph := Name.ofQualified "app.RootGraph", isStart := false, arguments, argumentsClass? := none, deepLinks := [], result?
      sourceIds := [source] }
  { destinations := [
      screen "Picker" [argument "mode" (.enumeration mode), argument "shades" (.list (.custom (serializer "ShadeSerializer")))] none "Screens.kt",
      screen "Paint" [argument "color" (.custom (serializer "ColorSerializer")), argument "sizes" (.primitiveArray .int)]
        (some { type := ⟨mode, false, []⟩, navType := .enumeration mode }) "Paint.kt"]
    graphs := []
    serializers := []
    modules := [] }

/-- The colours and the mode of both screens are each collected once. -/
theorem valueTypes_exact_palette :
    (∀ destination ∈ paletteModel.destinations, ∀ navType ∈ destination.navTypes, navType.isFlat = true) ∧
      paletteModel.valueTypes.map (fun type => (type.value.qualified, type.inLists, type.sourceIds)) =
        [("lib.Color", true, ["ColorSerializer.kt", "Paint.kt", "Screens.kt", "ShadeSerializer.kt"]),
          ("app.Mode", false, ["Paint.kt", "Screens.kt"])] ∧
      ∀ type ∈ paletteModel.valueTypes, (∀ element, type.navType ≠ .list element) ∧ type.SumsUp paletteModel := by
  have hflat : ∀ destination ∈ paletteModel.destinations, ∀ navType ∈ destination.navTypes, navType.isFlat = true := by decide +kernel
  exact ⟨hflat, by decide +kernel, (valueTypes_exact hflat).2.2⟩

end Model

end NavGen
