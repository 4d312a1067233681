import NavGen.Generated.Settings
import NavGen.Model.ValueTypes

/-!
# Nav types of value types

For each value type that the runtime has no nav type for, a file is generated that declares the nav type instance as a property, and one for
lists of the type if such lists cross a route. Enumerations use a nav type of the library; for other types a nav type class is generated that
hands the work to a serializer.
-/

namespace NavGen

namespace ValueType

/-- The name of the generated nav type class, which is also the name of the file. -/
def className (type : ValueType) : String :=
  type.value.simple ++ "NavType"

/-- The property that holds the nav type instance. -/
def propertyName (type : ValueType) (package : String) : String :=
  (type.navType.instanceName package).simple

/-- The property that holds the nav type instance for lists. -/
def listPropertyName (type : ValueType) : String :=
  Text.camel type.value.simple ++ "ArrayListNavType"

/-- The expression for the serializer of a value type, and the declaration it calls. -/
def serializerCode (type : ValueType) : Name × String :=
  match type.navType with
  | .parcelable _ =>
    (Library.declared "navargs.parcelable.DefaultParcelableNavTypeSerializer",
      "DefaultParcelableNavTypeSerializer(" ++ type.value.simple ++ "::class.java)")
  | .custom serializer => (serializer.serializer, serializer.instanceCode)
  | _ =>
    (Library.declared "navargs.serializable.DefaultSerializableNavTypeSerializer", "DefaultSerializableNavTypeSerializer()")

/-- The properties of an enumeration. -/
def enumerationBody (type : ValueType) (package : String) : Fragment :=
  let value := type.value.simple
  { names := [type.value, Library.declared "navargs.primitives.DestinationsEnumNavType"]
      ++ (if type.inLists then [Library.declared "navargs.primitives.arraylist.DestinationsEnumArrayListNavType"] else [])
    layout := [.line (.property (type.propertyName package) ("DestinationsEnumNavType<" ++ value ++ ">")
        ("DestinationsEnumNavType(" ++ value ++ "::class.java)"))]
      ++ (if type.inLists then
        [.blank, .line (.property type.listPropertyName ("DestinationsEnumArrayListNavType<" ++ value ++ ">")
          ("DestinationsEnumArrayListNavType(" ++ value ++ "::class.java)"))]
        else []) }

/-- A member function of a nav type class with a body of one line, and the empty line before it. -/
def memberFunction (signature line : String) : List Layout :=
  .blank :: Layout.braced (.code ("override fun " ++ signature)) [Layout.code line] ""

/-- The nav type class. A null value is written into a route as a marker that no serializer produces. -/
def navTypeClass (type : ValueType) : Fragment :=
  let value := type.value.simple
  { names := [
      Library.declared "navargs.DestinationsNavType",
      Library.declared "navargs.DestinationsNavTypeSerializer",
      Name.ofQualified "android.os.Bundle",
      Name.ofQualified "androidx.lifecycle.SavedStateHandle",
      Library.declared "navargs.utils.encodeForRoute"]
    layout := [
        Layout.code ("public class " ++ type.className ++ "("),
        .indent,
        Layout.code ("private val serializer: DestinationsNavTypeSerializer<" ++ value ++ ">"),
        .dedent]
      ++ Layout.braced (.code (") : DestinationsNavType<" ++ value ++ "?>()"))
        (memberFunction ("put(bundle: Bundle, key: String, value: " ++ value ++ "?)")
            "bundle.putString(key, value?.let \x7b serializer.toRouteString(it) \x7d)"
          ++ memberFunction ("get(bundle: Bundle, key: String): " ++ value ++ "?")
            "return bundle.getString(key)?.let \x7b serializer.fromRouteString(it) \x7d"
          ++ memberFunction ("parseValue(value: String): " ++ value ++ "?")
            "return if (value == \"\\u0002null\\u0003\") null else serializer.fromRouteString(value)"
          ++ memberFunction ("serializeValue(value: " ++ value ++ "?): String")
            "return if (value == null) \"%02null%03\" else encodeForRoute(serializer.toRouteString(value))"
          ++ memberFunction ("get(savedStateHandle: SavedStateHandle, key: String): " ++ value ++ "?")
            "return savedStateHandle.get<String>(key)?.let \x7b serializer.fromRouteString(it) \x7d"
          ++ memberFunction ("put(savedStateHandle: SavedStateHandle, key: String, value: " ++ value ++ "?)")
            "savedStateHandle[key] = value?.let \x7b serializer.toRouteString(it) \x7d")
        "" }

/-- The properties of a value type that a nav type class is generated for, and the class. -/
def classBody (type : ValueType) (package : String) : Fragment :=
  let property := type.propertyName package
  let (serializer, serializerCode) := type.serializerCode
  Fragment.concat [
    { names := [type.value, serializer]
      layout := [.line (.property property type.className (type.className ++ "(" ++ serializerCode ++ ")"))] },
    .section? type.inLists
      { names := [Library.declared "navargs.DestinationsArrayListNavType"]
        layout := [.line (.property type.listPropertyName ("DestinationsArrayListNavType<" ++ type.value.simple ++ ">")
          ("DestinationsArrayListNavType(" ++ property ++ ")"))] },
    .section? true type.navTypeClass]

end ValueType

namespace Generation

/-- The source file of the nav type of a value type. -/
def valueTypeSource (generation : Generation) (type : ValueType) : SourceFile :=
  { package := generation.subPackage "navtype"
    body :=
      match type.navType with
      | .enumeration _ => type.enumerationBody generation.package
      | _ => type.classBody generation.package }

/-- The generated file of the nav type of a value type. -/
def valueTypeFile (generation : Generation) (type : ValueType) : GeneratedFile :=
  (generation.valueTypeSource type).generated type.className type.sourceIds

end Generation

end NavGen
