import NavGen.Model.ValueTypes
import NavGen.Proofs.Order

/-!
# The value types of a model

Value types are collected from all uses by all destinations. Whatever way a type is used, it is among them, and lists of it are asked for if it is
used in a list anywhere.
-/

namespace NavGen

theorem mem_sortedNames {names : List Name} {name : Name} : name ∈ sortedNames names ↔ name ∈ names := by
  rw [sortedNames, mem_dropRepeats, (perm_sortBy names).mem_iff]

namespace Model

variable {model : Model}

/-- What the uses of a type that is used say together: they are of that type, and say so if one of them is in a list. -/
theorem exists_valueType? {uses : List ValueTypeUse} {use : ValueTypeUse} (hmem : use ∈ uses) :
    ∃ type, valueType? uses use.value = some type ∧ type.value = use.value ∧ (use.inList = true → type.inLists = true) := by
  have hown : use ∈ uses.filter (·.value == use.value) := List.mem_filter.2 ⟨hmem, beq_self_eq_true _⟩
  unfold valueType?
  cases hfirst : uses.filter (·.value == use.value) with
  | nil =>
    rw [hfirst] at hown
    contradiction
  | cons first others =>
    rw [hfirst] at hown
    exact ⟨_, rfl, rfl, fun hlist => List.any_eq_true.2 ⟨use, hown, hlist⟩⟩

/-- A nav type of a destination whose element has a value type is a use of that type. -/
theorem exists_use {destination : Destination} (hdestination : destination ∈ model.destinations) {navType : NavType}
    (hmem : navType ∈ destination.navTypes) {value : Name} (hvalue : navType.element.1.generatedFor? = some value) :
    ∃ use ∈ model.valueTypeUses, use.value = value ∧ use.inList = navType.element.2 := by
  have huse : destination.useOf? navType = some {
      value
      navType := navType.element.1
      inList := navType.element.2
      sourceIds := destination.sourceIds ++ navType.element.1.serializerIds } :=
    Option.map_eq_some_iff.2 ⟨value, hvalue, rfl⟩
  exact ⟨_, List.mem_flatMap.2 ⟨destination, hdestination, List.mem_filterMap.2 ⟨navType, hmem, huse⟩⟩, rfl, rfl⟩

/-- Where a use comes from. -/
theorem exists_navType_of_mem_valueTypeUses {use : ValueTypeUse} (h : use ∈ model.valueTypeUses) :
    ∃ destination ∈ model.destinations, ∃ navType ∈ destination.navTypes,
      use.navType = navType.element.1 ∧ use.inList = navType.element.2 ∧ use.navType.generatedFor? = some use.value := by
  obtain ⟨destination, hdestination, hmem⟩ := List.mem_flatMap.1 h
  obtain ⟨navType, hnavType, huse⟩ := List.mem_filterMap.1 hmem
  obtain ⟨value, hvalue, rfl⟩ := Option.map_eq_some_iff.1 huse
  exact ⟨destination, hdestination, navType, hnavType, rfl, rfl, hvalue⟩

/-- Only an element of a list can be a list itself. -/
theorem inList_of_navType_eq_list {use : ValueTypeUse} (h : use ∈ model.valueTypeUses) {element : NavType}
    (hlist : use.navType = .list element) : use.inList = true := by
  obtain ⟨_, _, navType, _, helement, hinList, _⟩ := exists_navType_of_mem_valueTypeUses h
  rw [hlist] at helement
  cases navType with
  | list _ => exact hinList
  | _ => contradiction

/-- Each use of a value type by a destination is covered by a value type of the model. -/
theorem exists_valueType {destination : Destination} (hdestination : destination ∈ model.destinations) {navType : NavType}
    (hmem : navType ∈ destination.navTypes) {value : Name} (hvalue : navType.element.1.generatedFor? = some value) :
    ∃ type ∈ model.valueTypes, type.value = value ∧ (navType.element.2 = true → type.inLists = true) := by
  obtain ⟨use, huse, rfl, hlist⟩ := exists_use hdestination hmem hvalue
  obtain ⟨type, htype, hfacts⟩ := exists_valueType? huse
  refine ⟨type, List.mem_filterMap.2 ⟨use.value, mem_sortedNames.2 (List.mem_map_of_mem huse), htype⟩, ?_⟩
  rwa [hlist] at hfacts

/-- A value type is used, and one of its uses says how it crosses a route. -/
theorem exists_use_of_mem_valueTypes {type : ValueType} (h : type ∈ model.valueTypes) :
    ∃ use ∈ model.valueTypeUses, use.value = type.value ∧ type.navType = use.navType ∧ (use.inList = true → type.inLists = true) := by
  obtain ⟨value, -, htype⟩ := List.mem_filterMap.1 h
  obtain ⟨first, hfirst, rfl⟩ := Option.map_eq_some_iff.1 htype
  have hown := List.mem_of_mem_head? hfirst
  obtain ⟨huse, hvalue⟩ := List.mem_filter.1 hown
  exact ⟨first, huse, beq_iff_eq.1 hvalue, rfl, fun hlist => List.any_eq_true.2 ⟨first, hown, hlist⟩⟩

/-- The nav type of a value type is generated for that type. -/
theorem generatedFor?_of_mem_valueTypes {type : ValueType} (h : type ∈ model.valueTypes) :
    type.navType.generatedFor? = some type.value := by
  obtain ⟨use, huse, hvalue, hnavType, -⟩ := exists_use_of_mem_valueTypes h
  obtain ⟨_, _, _, _, _, _, hgenerated⟩ := exists_navType_of_mem_valueTypeUses huse
  rwa [hnavType, ← hvalue]

/-- A value type that crosses routes as a list is asked for in lists, too. -/
theorem inLists_of_navType_eq_list {type : ValueType} (h : type ∈ model.valueTypes) {element : NavType}
    (hlist : type.navType = .list element) : type.inLists = true := by
  obtain ⟨use, huse, -, hnavType, hinLists⟩ := exists_use_of_mem_valueTypes h
  exact hinLists (inList_of_navType_eq_list huse (hnavType ▸ hlist))

end Model

end NavGen
