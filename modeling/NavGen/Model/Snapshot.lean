import NavGen.Json.Record
import NavGen.Model

/-!
# Snapshots of models

A model is kept between passes as a JSON document. This module writes each part of a model as such a document and reads it back. What is
absent or empty is mostly left out when written; `Json.Record` says in which forms a record is read.
-/

namespace NavGen

namespace Name

/-- The document of a name. -/
def toJson (name : Name) : Json :=
  .object [("simple_name", .text name.simple), ("qualified_name", .text name.qualified)]

/-- The name a document holds. -/
def ofJson? (doc : Json) : Option Name := do
  let fields ← doc.fields? ["simple_name", "qualified_name"]
  return {
    simple := ← fields.required "simple_name" fun part => part.val.asText?
    qualified := ← fields.required "qualified_name" fun part => part.val.asText? }

end Name

namespace TypeUse

mutual

/-- The document of a type. -/
def toJson : TypeUse → Json
  | ⟨name, nullable, arguments⟩ =>
    .object ([("importable", name.toJson), ("is_nullable", .bool nullable)]
      ++ (if arguments.isEmpty then [] else [("type_arguments", .array (allToJson arguments))]))

/-- The documents of a list of types. -/
def allToJson : List TypeUse → List Json
  | [] => []
  | type :: rest => type.toJson :: allToJson rest

end

/-- The type a document holds. -/
def ofJson? (doc : Json) : Option TypeUse := do
  let fields ← doc.fields? ["importable", "is_nullable", "type_arguments"]
  return {
    name := ← fields.required "importable" fun part => Name.ofJson? part.val
    nullable := ← fields.required "is_nullable" fun part => part.val.asBool?
    arguments := ← fields.orElse "type_arguments" [] fun part => do
      (← part.val.items?).mapM fun item =>
        have := item.property
        have := part.property
        ofJson? item.val }
termination_by sizeOf doc
decreasing_by omega

end TypeUse

namespace Primitive

/-- The document of a primitive type. -/
def toJson (primitive : Primitive) : Json :=
  .text primitive.name

/-- The primitive type a document holds. -/
def ofJson? (doc : Json) : Option Primitive :=
  doc.oneOf? (all.map fun primitive => (primitive.name, primitive))

end Primitive

namespace InstanceKind

/-- The document of the kind of a serializer. -/
def toJson : InstanceKind → Json
  | .newInstance => .text "Class"
  | .singleton => .text "Object"

/-- The kind of a serializer that a document holds. -/
def ofJson? (doc : Json) : Option InstanceKind :=
  doc.oneOf? [("Class", .newInstance), ("Object", .singleton)]

end InstanceKind

namespace Serializer

/-- The document of a serializer. -/
def toJson (serializer : Serializer) : Json :=
  .object [
    ("class_kind", serializer.kind.toJson),
    ("serializer_type", serializer.serializer.toJson),
    ("generic_type", serializer.value.toJson),
    ("source_ids", Json.texts serializer.sourceIds)]

/-- The serializer a document holds. -/
def ofJson? (doc : Json) : Option Serializer := do
  let fields ← doc.fields? ["class_kind", "serializer_type", "generic_type", "source_ids"]
  return {
    kind := ← fields.required "class_kind" fun part => InstanceKind.ofJson? part.val
    serializer := ← fields.required "serializer_type" fun part => Name.ofJson? part.val
    value := ← fields.required "generic_type" fun part => Name.ofJson? part.val
    sourceIds := ← fields.orElse "source_ids" [] fun part => part.val.texts? }

end Serializer

namespace NavType

/-- The document of a nav type: an object whose only key says which kind it is. -/
def toJson : NavType → Json
  | .primitive p => .object [("Primitive", p.toJson)]
  | .primitiveArray p => .object [("PrimitiveArray", p.toJson)]
  | .list element => .object [("List", element.toJson)]
  | .enumeration value => .object [("Enum", value.toJson)]
  | .parcelable value => .object [("Parcelable", value.toJson)]
  | .serializable value => .object [("Serializable", value.toJson)]
  | .custom serializer => .object [("Custom", serializer.toJson)]

/-- The nav type a document holds. -/
def ofJson? (doc : Json) : Option NavType := do
  match ← doc.variant? with
  | ("Primitive", some part) => return .primitive (← Primitive.ofJson? part.val)
  | ("PrimitiveArray", some part) => return .primitiveArray (← Primitive.ofJson? part.val)
  | ("List", some part) =>
    have := part.property
    return .list (← ofJson? part.val)
  | ("Enum", some part) => return .enumeration (← Name.ofJson? part.val)
  | ("Parcelable", some part) => return .parcelable (← Name.ofJson? part.val)
  | ("Serializable", some part) => return .serializable (← Name.ofJson? part.val)
  | ("Custom", some part) => return .custom (← Serializer.ofJson? part.val)
  | _ => none
termination_by sizeOf doc

end NavType

namespace Argument

/-- The document of an argument. -/
def toJson (argument : Argument) : Json :=
  .object ([
    ("name", .text argument.name),
    ("ty", argument.type.toJson),
    ("nav_type", argument.navType.toJson)]
    ++ Json.optionalMember "default_value" .text argument.default?)

/-- The argument a document holds. -/
def ofJson? (doc : Json) : Option Argument := do
  let fields ← doc.fields? ["name", "ty", "nav_type", "default_value"]
  return {
    name := ← fields.required "name" fun part => part.val.asText?
    type := ← fields.required "ty" fun part => TypeUse.ofJson? part.val
    navType := ← fields.required "nav_type" fun part => NavType.ofJson? part.val
    default? := ← fields.optional "default_value" fun part => part.val.asText? }

end Argument

namespace DeepLink

/-- The document of a deep link. -/
def toJson (link : DeepLink) : Json :=
  .object ([("uri_pattern", .text link.uriPattern)]
    ++ Json.optionalMember "action" .text link.action?
    ++ Json.optionalMember "mime_type" .text link.mimeType?)

/-- The deep link a document holds. -/
def ofJson? (doc : Json) : Option DeepLink := do
  let fields ← doc.fields? ["uri_pattern", "action", "mime_type"]
  return {
    uriPattern := ← fields.required "uri_pattern" fun part => part.val.asText?
    action? := ← fields.optional "action" fun part => part.val.asText?
    mimeType? := ← fields.optional "mime_type" fun part => part.val.asText? }

end DeepLink

namespace ActivityInfo

/-- The document of what is known of an activity. -/
def toJson (info : ActivityInfo) : Json :=
  .object (
    Json.optionalMember "target_package" .text info.targetPackage?
    ++ Json.optionalMember "action" .text info.action?
    ++ Json.optionalMember "data_uri" .text info.dataUri?
    ++ Json.optionalMember "data_type" .text info.dataType?)

/-- What a document says of an activity. -/
def ofJson? (doc : Json) : Option ActivityInfo := do
  let fields ← doc.fields? ["target_package", "action", "data_uri", "data_type"]
  return {
    targetPackage? := ← fields.optional "target_package" fun part => part.val.asText?
    action? := ← fields.optional "action" fun part => part.val.asText?
    dataUri? := ← fields.optional "data_uri" fun part => part.val.asText?
    dataType? := ← fields.optional "data_type" fun part => part.val.asText? }

end ActivityInfo

namespace DestinationKind

/-- The document of the kind of a destination. -/
def toJson : DestinationKind → Json
  | .composable => .text "Composable"
  | .activity info => .object [("Activity", info.toJson)]

/-- The kind of destination that a document holds. -/
def ofJson? (doc : Json) : Option DestinationKind := do
  match ← doc.variant? with
  | ("Composable", none) => return .composable
  | ("Composable", some ⟨.null, _⟩) => return .composable
  | ("Activity", some part) => return .activity (← ActivityInfo.ofJson? part.val)
  | _ => none

end DestinationKind

namespace ResultSender

/-- The document of the result of a destination. -/
def toJson (result : ResultSender) : Json :=
  .object [("result_type", result.type.toJson), ("nav_type", result.navType.toJson)]

/-- The result of a destination that a document holds. -/
def ofJson? (doc : Json) : Option ResultSender := do
  let fields ← doc.fields? ["result_type", "nav_type"]
  return {
    type := ← fields.required "result_type" fun part => TypeUse.ofJson? part.val
    navType := ← fields.required "nav_type" fun part => NavType.ofJson? part.val }

end ResultSender

namespace Destination

/-- The document of a destination. -/
def toJson (destination : Destination) : Json :=
  .object ([
    ("name", .text destination.name),
    ("target", destination.target.toJson),
    ("kind", destination.kind.toJson),
    ("base_route", .text destination.baseRoute),
    ("nav_graph", destination.graph.toJson),
    ("is_start", .bool destination.isStart),
    ("arguments", Json.ofList Argument.toJson destination.arguments)]
    ++ Json.optionalMember "nav_args_class" Name.toJson destination.argumentsClass?
    ++ [("deep_links", Json.ofList DeepLink.toJson destination.deepLinks)]
    ++ Json.optionalMember "result_sender" ResultSender.toJson destination.result?
    ++ [("source_ids", Json.texts destination.sourceIds)])

/-- The destination a document holds. -/
def ofJson? (doc : Json) : Option Destination := do
  let fields ← doc.fields? [
    "name", "target", "kind", "base_route", "nav_graph", "is_start", "arguments", "nav_args_class", "deep_links", "result_sender",
    "source_ids"]
  return {
    name := ← fields.required "name" fun part => part.val.asText?
    target := ← fields.required "target" fun part => Name.ofJson? part.val
    kind := ← fields.required "kind" fun part => DestinationKind.ofJson? part.val
    baseRoute := ← fields.required "base_route" fun part => part.val.asText?
    graph := ← fields.required "nav_graph" fun part => Name.ofJson? part.val
    isStart := ← fields.orElse "is_start" false fun part => part.val.asBool?
    arguments := ← fields.orElse "arguments" [] fun part => part.val.list? Argument.ofJson?
    argumentsClass? := ← fields.optional "nav_args_class" fun part => Name.ofJson? part.val
    deepLinks := ← fields.orElse "deep_links" [] fun part => part.val.list? DeepLink.ofJson?
    result? := ← fields.optional "result_sender" fun part => ResultSender.ofJson? part.val
    sourceIds := ← fields.orElse "source_ids" [] fun part => part.val.texts? }

end Destination

namespace Start

/-- The document of what a graph starts with. -/
def toJson : Start → Json
  | .destination name => .object [("Destination", .text name)]
  | .graph type => .object [("NavGraph", type.toJson)]

/-- What a graph starts with, as a document holds it. -/
def ofJson? (doc : Json) : Option Start := do
  match ← doc.variant? with
  | ("Destination", some part) => return .destination (← part.val.asText?)
  | ("NavGraph", some part) => return .graph (← Name.ofJson? part.val)
  | _ => none

end Start

namespace Graph

/-- The document of a graph. -/
def toJson (graph : Graph) : Json :=
  .object ([
    ("ty", graph.type.toJson),
    ("route", .text graph.route),
    ("start", graph.start.toJson)]
    ++ Json.optionalMember "parent" Name.toJson graph.parent?
    ++ [("is_parent_start", .bool graph.isParentStart),
      ("is_nav_host_graph", .bool graph.isHost),
      ("default", .bool graph.isDefault),
      ("default_start_args", Json.ofList Name.toJson graph.startArguments),
      ("source_ids", Json.texts graph.sourceIds)])

/-- The graph a document holds. -/
def ofJson? (doc : Json) : Option Graph := do
  let fields ← doc.fields? [
    "ty", "route", "start", "parent", "is_parent_start", "is_nav_host_graph", "default", "default_start_args", "source_ids"]
  return {
    type := ← fields.required "ty" fun part => Name.ofJson? part.val
    route := ← fields.required "route" fun part => part.val.asText?
    start := ← fields.required "start" fun part => Start.ofJson? part.val
    parent? := ← fields.optional "parent" fun part => Name.ofJson? part.val
    isParentStart := ← fields.orElse "is_parent_start" false fun part => part.val.asBool?
    isHost := ← fields.orElse "is_nav_host_graph" false fun part => part.val.asBool?
    isDefault := ← fields.orElse "default" false fun part => part.val.asBool?
    startArguments := ← fields.orElse "default_start_args" [] fun part => part.val.list? Name.ofJson?
    sourceIds := ← fields.orElse "source_ids" [] fun part => part.val.texts? }

end Graph

namespace PublishedResult

/-- The document of a published result. -/
def toJson (result : PublishedResult) : Json :=
  .object [
    ("destination", .text result.destination),
    ("result_type", .text result.type),
    ("is_result_nullable", .bool result.isNullable),
    ("result_nav_type", .text result.navType)]

/-- The published result that a document holds. -/
def ofJson? (doc : Json) : Option PublishedResult := do
  let fields ← doc.fields? ["destination", "result_type", "is_result_nullable", "result_nav_type"]
  return {
    destination := ← fields.required "destination" fun part => part.val.asText?
    type := ← fields.required "result_type" fun part => part.val.asText?
    isNullable := ← fields.required "is_result_nullable" fun part => part.val.asBool?
    navType := ← fields.required "result_nav_type" fun part => part.val.asText? }

end PublishedResult

namespace ModuleSurface

/-- The document of what a module publishes. -/
def toJson (surface : ModuleSurface) : Json :=
  .object (Json.optionalMember "name" .text surface.name?
    ++ [("gen_package_name", .text surface.package),
      ("has_nav_args_package", .bool surface.hasArgumentGetters),
      ("top_level_graphs", Json.texts surface.topLevelGraphs),
      ("public_result_senders", Json.ofList PublishedResult.toJson surface.results)])

/-- What a module publishes, as a document holds it. -/
def ofJson? (doc : Json) : Option ModuleSurface := do
  let fields ← doc.fields? ["name", "gen_package_name", "has_nav_args_package", "top_level_graphs", "public_result_senders"]
  return {
    name? := ← fields.optional "name" fun part => part.val.asText?
    package := ← fields.required "gen_package_name" fun part => part.val.asText?
    hasArgumentGetters := ← fields.required "has_nav_args_package" fun part => part.val.asBool?
    topLevelGraphs := ← fields.orElse "top_level_graphs" [] fun part => part.val.texts?
    results := ← fields.orElse "public_result_senders" [] fun part => part.val.list? PublishedResult.ofJson? }

end ModuleSurface

namespace Model

/-- The document of a model. -/
def toJson (model : Model) : Json :=
  .object [
    ("destinations", Json.ofList Destination.toJson model.destinations),
    ("nav_graphs", Json.ofList Graph.toJson model.graphs),
    ("serializers", Json.ofList Serializer.toJson model.serializers),
    ("sub_modules", Json.ofList ModuleSurface.toJson model.modules)]

/-- The model a document holds. -/
def ofJson? (doc : Json) : Option Model := do
  let fields ← doc.fields? ["destinations", "nav_graphs", "serializers", "sub_modules"]
  return {
    destinations := ← fields.required "destinations" fun part => part.val.list? Destination.ofJson?
    graphs := ← fields.required "nav_graphs" fun part => part.val.list? Graph.ofJson?
    serializers := ← fields.required "serializers" fun part => part.val.list? Serializer.ofJson?
    modules := ← fields.required "sub_modules" fun part => part.val.list? ModuleSurface.ofJson? }

end Model

end NavGen
