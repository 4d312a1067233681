import NavGen.NavType
import NavGen.Pass.Setup
import NavGen.Symbol.Table

/-!
# The registry of serializers

Serializers that the user provides, each for one type. They are found by the annotation they carry; the type that a serializer converts is the
type argument of the interface it implements.
-/

namespace NavGen

/-- Serializers by the qualified names of the types they convert, in the order in which they were registered. -/
structure SerializerRegistry where
  byType : List (String × Serializer)

namespace SerializerRegistry

/-- The registry without serializers. -/
def empty : SerializerRegistry :=
  { byType := [] }

/-- The serializers, in the order in which they were registered. -/
def serializers (registry : SerializerRegistry) : List Serializer :=
  registry.byType.map (·.2)

/-- The serializer of a type, by its qualified name. -/
def find? (registry : SerializerRegistry) (qualified : String) : Option Serializer :=
  (registry.byType.find? (·.1 == qualified)).map (·.2)

/-- Offers a serializer to a registry: how that ends, and the registry that is left. A type has one serializer at most. -/
def offer (registry : SerializerRegistry) (serializer : Serializer) : Except SetupError Unit × SerializerRegistry :=
  let key := serializer.value.qualified
  match registry.find? key with
  | some existing =>
    (.error { declaration := serializer.serializer.qualified, fault := .secondSerializer key existing.serializer.qualified }, registry)
  | none => (.ok (), { byType := registry.byType ++ [(key, serializer)] })

/-- Adds a serializer: what is left of a registry that takes it. -/
def register (registry : SerializerRegistry) (serializer : Serializer) : Except SetupError SerializerRegistry :=
  match registry.offer serializer with
  | (.ok (), after) => .ok after
  | (.error error, _) => .error error

/-- The serializers, sorted by the qualified names of the types they convert. -/
def sorted (registry : SerializerRegistry) : List Serializer :=
  (sortBy (fun a b => textLe a.1 b.1) registry.byType).map (·.2)

/-- The type that a serializer converts, given the type argument it names. An alias stands for its class; a type that is not declared is
taken as written. -/
def convertedType? (table : SymbolTable) (type : TypeExpr) : Option Name :=
  match table.find? type.qualified with
  | none => some type.name
  | some _ => (table.classOf? type).map (·.name)

/-- How an instance of a declared serializer is obtained. -/
def instanceKind? : DeclarationKind → Option InstanceKind
  | .plainClass => some .newInstance
  | .object => some .singleton
  | _ => none

/-- Reads a declaration that is marked as a serializer. -/
def read (table : SymbolTable) (declaration : Declaration) : Except SetupError Serializer :=
  match instanceKind? declaration.kind with
  | none => .error { declaration := declaration.qualified, fault := .serializerKind }
  | some kind =>
    match (table.supertypesOf declaration).find? (·.qualified == Library.serializerInterface) with
    | none => .error { declaration := declaration.qualified, fault := .serializerInterface }
    | some type =>
      match type.arguments.head?.bind (convertedType? table) with
      | none => .error { declaration := declaration.qualified, fault := .serializerArgument }
      | some value => .ok { kind, serializer := declaration.name, value, sourceIds := declaration.sourceIds }

/-- Reads declarations into a registry, one after the other. -/
def readAll (table : SymbolTable) (registry : SerializerRegistry) : List Declaration → Logged SerializerRegistry
  | [] => return registry
  | declaration :: rest => do
    let serializer ← Logged.lift (read table declaration)
    Logged.debug ("registered nav type serializer '" ++ serializer.serializer.qualified ++ "' for '"
      ++ serializer.value.qualified ++ "'")
    let registry ← Logged.lift (registry.register serializer)
    readAll table registry rest

/-- The serializers that are declared. -/
def collect (symbols : Symbols) : Logged SerializerRegistry :=
  readAll symbols.table empty (symbols.annotatedWith Library.navTypeSerializer)

end SerializerRegistry

end NavGen
