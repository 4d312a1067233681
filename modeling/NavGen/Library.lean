import NavGen.Name

/-!
# Names of the navigation library

The library that generated code is linked with, the annotations it provides, and the names that modules agree on when one publishes its
graphs to another.
-/

namespace NavGen.Library

/-- The root package of the library. -/
def package : String := "com.ramcosta.composedestinations"

/-- The qualified name of a declaration of the library, by its path below the root package. -/
def qualified (path : String) : String :=
  package ++ "." ++ path

/-- A declaration of the library, by its path below the root package. -/
def declared (path : String) : Name :=
  Name.ofQualified (qualified path)

/-! ## Annotations -/

/-- Marks a composable function, or an annotation class that stands for this annotation. -/
def destination : String := qualified "annotation.Destination"

/-- Marks an activity class. -/
def activityDestination : String := qualified "annotation.ActivityDestination"

/-- Marks an activity class that is written in Java. -/
def javaActivityDestination : String := qualified "annotation.JavaActivityDestination"

/-- Marks the annotation class of a nested graph. -/
def navGraph : String := qualified "annotation.NavGraph"

/-- Marks the annotation class of a graph that a host shows. -/
def navHostGraph : String := qualified "annotation.NavHostGraph"

/-- Marks a property that holds the arguments a host graph starts with. -/
def navHostDefaultStartArgs : String := qualified "annotation.NavHostDefaultStartArgs"

/-- Marks a serializer of an argument type. -/
def navTypeSerializer : String := qualified "annotation.NavTypeSerializer"

/-- Describes a deep link inside a destination annotation. -/
def deepLink : String := qualified "annotation.DeepLink"

/-- The host graph that exists without being declared. -/
def rootNavGraph : String := qualified "annotation.RootNavGraph"

/-! ## Types -/

/-- What a serializer of an argument type implements. -/
def serializerInterface : String := qualified "navargs.DestinationsNavTypeSerializer"

/-- What an activity implements to send a result back. -/
def activityResultSender : String := qualified "result.ActivityResultSender"

/-- The parameter type through which a composable sends a result back. -/
def resultBackNavigator : String := qualified "result.ResultBackNavigator"

/-- Types of parameters that the navigation runtime supplies, rather than the route. -/
def suppliedParameters : List String := [
  "androidx.compose.animation.AnimatedVisibilityScope",
  "androidx.compose.foundation.layout.ColumnScope",
  "androidx.navigation.NavBackStackEntry",
  "androidx.navigation.NavController",
  "androidx.navigation.NavHostController",
  qualified "navigation.DestinationsNavigator",
  qualified "result.OpenResultRecipient",
  resultBackNavigator,
  qualified "result.ResultRecipient",
  qualified "scope.DestinationScope"]

/-- Implemented by types that a bundle can hold. -/
def parcelable : String := "android.os.Parcelable"

/-- Implemented by types that can be written to a stream. -/
def serializable : String := "java.io.Serializable"

/-- The class literal that stands for an argument that is not set. -/
def nothing : String := "kotlin.Nothing"

/-! ## The module registry -/

/-- The package that holds the registry of every module. -/
def registryPackage : String := "_generated._ramcosta._composedestinations._moduleregistry"

/-- How the name of a module's registry starts. -/
def registryStart : String := "_ModuleRegistry_"

/-- How the name of the annotation class that describes a module starts. -/
def moduleInfoStart : String := "_Info_"

/-- How the name of the annotation class that describes a published result starts. -/
def resultInfoStart : String := "_Destination_Result_Info_"

/-- Stands in a deep link for the whole route of its destination. -/
def fullRoutePlaceholder : String := "@ramcosta.destinations.fullroute@"

end NavGen.Library
