import NavGen.Library
import NavGen.TypeUse
import NavGen.Text.Words

/-!
# How values cross a route

A route is text. Each argument type has a nav type, which says how its values are written into a route and read back: the runtime does
it for primitives, their arrays and lists; for other types a nav type is generated, which hands the work to a serializer.
-/

namespace NavGen

/-- How an instance of a serializer is obtained. -/
inductive InstanceKind where
  /-- A class, of which a new instance is made. -/
  | newInstance
  /-- An object, which is its own instance. -/
  | singleton
  deriving DecidableEq

/-- The keyword that declares a serializer of this kind. -/
def InstanceKind.keyword : InstanceKind → String
  | .newInstance => "class"
  | .singleton => "object"

/-- A converter that the user provides for the values of one type. -/
structure Serializer where
  kind : InstanceKind
  /-- The declaration of the converter. -/
  serializer : Name
  /-- The type it converts. -/
  value : Name
  sourceIds : List String
  deriving DecidableEq

/-- The expression for an instance of the serializer. -/
def Serializer.instanceCode (serializer : Serializer) : String :=
  match serializer.kind with
  | .newInstance => serializer.serializer.simple ++ "()"
  | .singleton => serializer.serializer.simple

/-- How the values of an argument type cross the boundary of a route. -/
inductive NavType where
  | primitive (primitive : Primitive)
  | primitiveArray (primitive : Primitive)
  | list (element : NavType)
  | enumeration (value : Name)
  | parcelable (value : Name)
  | serializable (value : Name)
  | custom (serializer : Serializer)
  deriving DecidableEq

namespace NavType

/-- The value type that a nav type is generated for, if the runtime has none. -/
def generatedFor? : NavType → Option Name
  | .primitive _ | .primitiveArray _ => none
  | .list element => element.generatedFor?
  | .enumeration value | .parcelable value | .serializable value => some value
  | .custom serializer => some serializer.value

/-- The name of a nav type instance of the library, by the package that holds it. -/
def libraryInstance (below simple : String) : Name :=
  { simple, qualified := Library.package ++ ".navargs.primitives" ++ below ++ "." ++ simple }

/-- The name of a generated nav type instance: the value type's name as a property, and what the instance is. -/
def generatedInstance (package ending : String) (navType : NavType) : Name :=
  let value := (navType.generatedFor?.map fun value => Text.camel value.simple).getD ""
  { simple := value ++ ending, qualified := package ++ ".navtype." ++ value ++ ending }

/-- The instance of a nav type that generated code refers to, when nav types are generated below `package`. -/
def instanceName (package : String) : NavType → Name
  | .primitive p => libraryInstance "" ("Destinations" ++ p.name ++ "NavType")
  | .primitiveArray p => libraryInstance ".array" ("Destinations" ++ p.name ++ "ArrayNavType")
  | .list (.primitive p) => libraryInstance ".arraylist" ("Destinations" ++ p.name ++ "ArrayListNavType")
  | .list element => generatedInstance package "ArrayListNavType" element
  | navType => generatedInstance package "NavType" navType

end NavType

end NavGen
