import NavGen.Model

/-!
# Value types that need a nav type

A nav type is generated for each enumeration, parcelable, serializable or custom type that crosses a route somewhere, once for the whole
module however often it is used. A use as the element of a list asks for a nav type of the list beside it.
-/

namespace NavGen

/-- The use of a value type as an argument or a result, or as the element of a list there. -/
structure ValueTypeUse where
  value : Name
  navType : NavType
  inList : Bool
  sourceIds : List String

/-- A value type that a nav type is generated for. -/
structure ValueType where
  value : Name
  /-- How its values cross a route. -/
  navType : NavType
  /-- Whether lists of it cross a route, too. -/
  inLists : Bool
  /-- The sources of the destinations that use it and of its serializers. -/
  sourceIds : List String

/-- The source ids of the serializer of a nav type, if it has one of its own. -/
def NavType.serializerIds : NavType → List String
  | .custom serializer => serializer.sourceIds
  | _ => []

/-- The element of a list type and whether it was one. -/
def NavType.element : NavType → NavType × Bool
  | .list element => (element, true)
  | navType => (navType, false)

/-- The use of a value type by a destination that has an argument or result of a nav type. -/
def Destination.useOf? (destination : Destination) (navType : NavType) : Option ValueTypeUse :=
  let (base, inList) := navType.element
  base.generatedFor?.map fun value =>
    { value, navType := base, inList, sourceIds := destination.sourceIds ++ base.serializerIds }

/-- The uses of value types by a destination, in the order of its arguments. -/
def Destination.valueTypeUses (destination : Destination) : List ValueTypeUse :=
  destination.navTypes.filterMap destination.useOf?

namespace Model

/-- The uses of value types by all destinations. -/
def valueTypeUses (model : Model) : List ValueTypeUse :=
  model.destinations.flatMap (·.valueTypeUses)

/-- What the uses of one value type say together. Where they differ in the nav type, the first counts. -/
def valueType? (uses : List ValueTypeUse) (value : Name) : Option ValueType :=
  let own := uses.filter (·.value == value)
  own.head?.map fun first =>
    { value
      navType := first.navType
      inLists := own.any (·.inList)
      sourceIds := sortedTexts (own.flatMap (·.sourceIds)) }

/-- The value types that nav types are generated for, sorted by name. -/
def valueTypes (model : Model) : List ValueType :=
  (sortedNames (model.valueTypeUses.map (·.value))).filterMap (valueType? model.valueTypeUses)

end Model

end NavGen
