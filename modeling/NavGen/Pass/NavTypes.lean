import NavGen.Pass.Serializers

/-!
# Nav types of argument types

How the values of an argument type cross a route is decided from the type alone: primitives and their arrays are built in, a type with a
serializer uses it, and enumerations, parcelables and serializables get a generated nav type. Lists are supported of whatever is supported
by itself.
-/

namespace NavGen

/-- The list types, all of which cross a route in the same way. -/
def listTypes : List String :=
  ["java.util.ArrayList", "kotlin.collections.ArrayList", "kotlin.collections.List"]

/-- Where an argument type comes from: the symbols and serializers to look it up in, and who declares which argument. -/
structure TypeContext where
  table : SymbolTable
  registry : SerializerRegistry
  owner : String
  argument : String

namespace TypeContext

/-- Stops at a fault of the owner. -/
def fail {α : Type} (context : TypeContext) (fault : SetupFault) : Except SetupError α :=
  .error { declaration := context.owner, fault }

/-- The nav type of a declared class. -/
def classNavType? (context : TypeContext) (declaration : Declaration) : Option NavType :=
  match context.registry.find? declaration.qualified with
  | some serializer => some (.custom serializer)
  | none =>
    if declaration.kind = .enumClass then some (.enumeration declaration.name)
    else
      let supertypes := (context.table.supertypesOf declaration).map (·.qualified)
      if supertypes.contains Library.parcelable then some (.parcelable declaration.name)
      else if supertypes.contains Library.serializable then some (.serializable declaration.name)
      else none

/-- The nav type of a type that is neither an array nor a list. A serializer that is registered for the name as written comes before that of
the class it stands for. -/
def singleNavType (context : TypeContext) (type : TypeExpr) : Except SetupError NavType :=
  match Primitive.ofQualified? type.qualified with
  | some primitive => .ok (.primitive primitive)
  | none =>
    match context.registry.find? type.qualified with
    | some serializer => .ok (.custom serializer)
    | none =>
      match (context.table.classOf? type).bind context.classNavType? with
      | some navType => .ok navType
      | none => context.fail (.unsupportedType context.argument type.qualified)

/-- The nav type of an array. The generic array type is supported of texts alone. -/
def arrayNavType (context : TypeContext) (type : TypeExpr) (primitive : Primitive) : Except SetupError NavType :=
  if primitive = .string ∧ type.arguments.head?.map (·.qualified) ≠ some Primitive.string.qualified then
    context.fail (.unsupportedArray context.argument)
  else .ok (.primitiveArray primitive)

/-- The nav type of an argument type. -/
def navType (context : TypeContext) (type : TypeExpr) : Except SetupError NavType :=
  match Primitive.ofArrayQualified? type.qualified with
  | some primitive => context.arrayNavType type primitive
  | none =>
    if listTypes.contains type.qualified then
      match type.arguments.head? with
      | none => context.fail (.listWithoutElement context.argument)
      | some element => (context.singleNavType element).map .list
    else context.singleNavType type

end TypeContext

end NavGen
