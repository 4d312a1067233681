import NavGen.Generated.DestinationObject

/-!
# What the file of a destination shows

The file of a destination shows most of what is known of it, but not all. It does not show which graph owns the destination, and of a generated nav
type it shows what the instance is called and not how it converts values. Destinations that differ in nothing else have the same file, whatever the rest
of the model is.
-/

namespace NavGen

/-! ## What is shown -/

/-- The nav type as far as a file shows it: a generated one by its value type alone. -/
def NavType.shown : NavType → NavType
  | .primitive p => .primitive p
  | .primitiveArray p => .primitiveArray p
  | .list element => .list element.shown
  | .enumeration value | .parcelable value | .serializable value => .enumeration value
  | .custom serializer => .enumeration serializer.value

/-- The argument as far as a file shows it. -/
def Argument.shown (argument : Argument) : Argument :=
  { argument with navType := argument.navType.shown }

/-- The result as far as a file shows it. -/
def ResultSender.shown (result : ResultSender) : ResultSender :=
  { result with navType := result.navType.shown }

/-- The part of a route as far as a file shows it. -/
def RoutePart.shown (part : RoutePart) : RoutePart :=
  { part with argument := part.argument.shown }

/-- The destination as far as its file shows it. Where it belongs to, whether it starts there and where it comes from are left out. -/
def Destination.shown (destination : Destination) : Destination :=
  { destination with
    graph := Name.ofQualified ""
    isStart := false
    arguments := destination.arguments.map Argument.shown
    result? := destination.result?.map ResultSender.shown
    sourceIds := [] }

namespace NavType

@[simp] theorem generatedFor?_shown (navType : NavType) : navType.shown.generatedFor? = navType.generatedFor? := by
  induction navType with
  | list element ih => exact ih
  | _ => rfl

/-- What an instance is called does not depend on more than is shown. -/
@[simp] theorem instanceName_shown (package : String) (navType : NavType) : navType.shown.instanceName package = navType.instanceName package := by
  cases navType with
  | list element =>
    cases element with
    | list _ => simp [shown, instanceName, generatedInstance, generatedFor?]
    | _ => rfl
  | _ => rfl

end NavType

/-! ## Routes -/

namespace Destination

theorem queryParts_shown (opening : String) (arguments : List Argument) :
    queryParts opening (arguments.map Argument.shown) = (queryParts opening arguments).map RoutePart.shown := by
  induction arguments generalizing opening with
  | nil => rfl
  | cons argument rest ih =>
    rw [List.map_cons, queryParts, queryParts, List.map_cons, ih]
    rfl

variable (destination : Destination)

@[simp] theorem mandatory_shown : destination.shown.mandatory = destination.mandatory.map Argument.shown :=
  List.filter_map

@[simp] theorem optional_shown : destination.shown.optional = destination.optional.map Argument.shown :=
  List.filter_map

@[simp] theorem routeParts_shown : destination.shown.routeParts = destination.routeParts.map RoutePart.shown := by
  rw [routeParts, routeParts, mandatory_shown, optional_shown, queryParts_shown, List.map_append, List.map_map, List.map_map]
  rfl

@[simp] theorem routeTemplate_shown : destination.shown.routeTemplate = destination.routeTemplate := by
  rw [routeTemplate, routeTemplate, mandatory_shown, optional_shown, List.map_map, List.map_map]
  rfl

end Destination

/-! ## The parts of the file -/

namespace Generation

variable {generation generation' : Generation} (hpackage : generation.package = generation'.package)

include hpackage

theorem navTypeOf_shown (argument : Argument) : generation.navTypeOf argument.shown = generation'.navTypeOf argument := by
  rw [navTypeOf, navTypeOf, hpackage]
  exact argument.navType.instanceName_shown _

theorem argumentsProperty_shown (arguments : List Argument) :
    generation.argumentsProperty (arguments.map Argument.shown) = generation'.argumentsProperty arguments := by
  simp only [argumentsProperty, List.map_map, List.flatMap_map, Function.comp_def, navTypeOf_shown hpackage]
  rfl

theorem resultSection_shown (destination : Destination) :
    generation.resultSection destination.shown = generation'.resultSection destination := by
  unfold resultSection Destination.shown
  cases destination.result? with
  | none => rfl
  | some result => simp only [Option.map_some, resultProperties, ResultSender.shown, NavType.instanceName_shown, hpackage]

theorem routePartLines_shown (parts : List RoutePart) :
    generation.routePartLines (parts.map RoutePart.shown) = generation'.routePartLines parts := by
  induction parts with
  | nil => rfl
  | cons part rest ih =>
    have hpart : (generation.navTypeOf part.shown.argument).simple = (generation'.navTypeOf part.argument).simple :=
      congrArg Name.simple (navTypeOf_shown hpackage part.argument)
    cases rest with
    | nil =>
      rw [List.map_singleton, routePartLines, routePartLines, hpart]
      rfl
    | cons next rest =>
      rw [List.map_cons] at ih
      rw [List.map_cons, List.map_cons, routePartLines, ih, hpart]
      · rfl
      · exact List.cons_ne_nil _ _

theorem invokeOperator_shown (destination : Destination) :
    generation.invokeOperator destination.shown = generation'.invokeOperator destination := by
  have hempty : destination.shown.arguments.isEmpty = destination.arguments.isEmpty := List.isEmpty_map
  have hnavTypes : (destination.routeParts.map RoutePart.shown).map (generation.navTypeOf ·.argument) =
      destination.routeParts.map (generation'.navTypeOf ·.argument) := by
    rw [List.map_map]
    exact List.map_congr_left fun part _ => navTypeOf_shown hpackage part.argument
  unfold invokeOperator
  rw [hempty, Destination.routeParts_shown, hnavTypes, routePartLines_shown hpackage]
  simp only [Destination.shown, List.flatMap_map, List.map_map]
  rfl

theorem argumentsReader_shown (destination : Destination) :
    generation.argumentsReader destination.shown = generation'.argumentsReader destination := by
  have hclass : argumentsClass destination.shown.arguments = argumentsClass destination.arguments := by
    simp only [argumentsClass, Destination.shown, List.map_map]
    rfl
  unfold argumentsReader
  rw [hclass]
  simp only [Destination.shown, List.map_map, Function.comp_def, navTypeOf_shown hpackage]
  rfl

theorem destinationMembers_shown (destination : Destination) :
    generation.destinationMembers destination.shown = generation'.destinationMembers destination := by
  have hempty : destination.shown.arguments.isEmpty = destination.arguments.isEmpty := List.isEmpty_map
  have hdeepLinks : deepLinksProperty destination.shown = deepLinksProperty destination := by
    rw [deepLinksProperty, deepLinksProperty, Destination.routeTemplate_shown]
    rfl
  unfold destinationMembers
  rw [hempty, hdeepLinks, Destination.routeTemplate_shown, resultSection_shown hpackage, invokeOperator_shown hpackage,
    argumentsReader_shown hpackage, show destination.shown.arguments = destination.arguments.map Argument.shown from rfl,
    argumentsProperty_shown hpackage]
  rfl

/-- What a destination has in its file is shown. -/
theorem destinationSource_shown (destination : Destination) :
    generation.destinationSource destination.shown = generation'.destinationSource destination := by
  unfold destinationSource
  rw [destinationMembers_shown hpackage, subPackage, subPackage, hpackage]
  rfl

/-- Destinations of which the same is shown have the same file content, in whatever models they are. -/
theorem content_destinationFile_eq {destination destination' : Destination} (h : destination.shown = destination'.shown) :
    (generation.destinationFile destination).content = (generation'.destinationFile destination').content := by
  have hsource : generation.destinationSource destination = generation'.destinationSource destination' := by
    rw [← destinationSource_shown rfl destination, h, destinationSource_shown hpackage]
  exact congrArg SourceFile.text hsource

end Generation

end NavGen
