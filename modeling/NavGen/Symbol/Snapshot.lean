import NavGen.Json.Record
import NavGen.Json.Text
import NavGen.Symbol.Table

/-!
# Symbol tables as documents

A compiler hands over its symbols as a JSON document. This module writes symbol tables as such documents and reads them back.
-/

namespace NavGen

namespace TypeExpr

mutual

/-- The document of a type. -/
def toJson : TypeExpr → Json
  | ⟨qualified, nullable, arguments⟩ =>
    .object ([("qualified_name", .text qualified), ("nullable", .bool nullable)]
      ++ (if arguments.isEmpty then [] else [("arguments", .array (allToJson arguments))]))

/-- The documents of a list of types. -/
def allToJson : List TypeExpr → List Json
  | [] => []
  | type :: rest => type.toJson :: allToJson rest

end

/-- The type a document holds. -/
def ofJson? (doc : Json) : Option TypeExpr := do
  let fields ← doc.fields? ["qualified_name", "nullable", "arguments"]
  return {
    qualified := ← fields.required "qualified_name" fun part => part.val.asText?
    nullable := ← fields.orElse "nullable" false fun part => part.val.asBool?
    arguments := ← fields.orElse "arguments" [] fun part => do
      (← part.val.items?).mapM fun item =>
        have := item.property
        have := part.property
        ofJson? item.val }
termination_by sizeOf doc
decreasing_by omega

end TypeExpr

namespace AnnotationValue

/-- The document of a value of a kind. -/
def tagged (kind : String) (value : Json) : Json :=
  .object [("kind", .text kind), ("value", value)]

mutual

/-- The document of a value: its kind and the value itself. -/
def toJson : AnnotationValue → Json
  | .bool value => tagged "bool" (.bool value)
  | .int value => tagged "int" (.int value.toInt)
  | .text value => tagged "string" (.text value)
  | .type value => tagged "type" value.toJson
  | .entry qualified => tagged "enum" (.text qualified)
  | .nested ty typeArguments arguments =>
    tagged "annotation" (.object ([("type", .text ty)]
      ++ Json.nonEmptyMember "type_arguments" TypeExpr.toJson typeArguments
      ++ (if arguments.isEmpty then [] else [("arguments", .object (argumentsToJson arguments))])))
  | .array items => tagged "array" (.array (itemsToJson items))

/-- The documents of the items of an array. -/
def itemsToJson : List AnnotationValue → List Json
  | [] => []
  | item :: rest => item.toJson :: itemsToJson rest

/-- The members of the arguments of an annotation. -/
def argumentsToJson : List (String × AnnotationValue) → List (String × Json)
  | [] => []
  | (name, value) :: rest => (name, value.toJson) :: argumentsToJson rest

end

end AnnotationValue

/-- The document of an annotation. -/
def AnnotationExpr.toJson (written : AnnotationExpr) : Json :=
  .object ([("type", .text written.type)]
    ++ Json.nonEmptyMember "type_arguments" TypeExpr.toJson written.typeArguments
    ++ (if written.arguments.isEmpty then []
      else [("arguments", .object (AnnotationValue.argumentsToJson written.arguments))]))

/-- How a document comes to its reader: as the text goes on, or from what was set aside because it stood before the kind that tells how
to read it. A document that was set aside has more ways to write a kind. -/
inductive Arrival where
  | direct
  | setAside
  deriving DecidableEq

namespace AnnotationValue

/-- The kinds of values, by their numbers. -/
def kinds : List String :=
  ["bool", "int", "string", "type", "enum", "annotation", "array"]

/-- The kind that is the first item of an array. Set aside, it may be given by its number. -/
def kindOfItem? : Arrival → Json → Option String
  | _, .text kind => some kind
  | .setAside, .int number => if 0 ≤ number then kinds[number.toNat]? else none
  | _, _ => none

/-- The kind that is a member of an object. Set aside, it may be an object whose only member is an empty object. -/
def kindOfMember? (arrival : Arrival) (doc : Json) : Option String :=
  match arrival, doc with
  | .setAside, .object [(kind, .object [])] => some kind
  | _, _ => doc.unitVariant?

/-- The parts of the document of a value. -/
structure Parts (doc : Json) where
  kind : String
  value : doc.Part
  /-- How the value comes to its reader. -/
  arrival : Arrival

/-- The parts of a document that holds a value. A value that is given before its kind is set aside until the kind is known, which only a
readable document can be; so is all that it holds. -/
def parts? (arrival : Arrival) (doc : Json) : Option (Parts doc) := do
  let fields ← doc.fields? ["kind", "value"]
  let readKind := if doc.items?.isSome then kindOfItem? arrival else kindOfMember? arrival
  let kind ← fields.required "kind" fun part => readKind part.val
  let value ← fields.get? "value"
  if (fields.entries.head?.map (·.1)) == some "value" then
    if value.val.isReadable then some { kind, value, arrival := .setAside } else none
  else some { kind, value, arrival }

end AnnotationValue

mutual

/-- The value a document holds. -/
def AnnotationValue.read? (arrival : Arrival) (doc : Json) : Option AnnotationValue := do
  let parts ← AnnotationValue.parts? arrival doc
  have := parts.value.property
  match parts.kind with
  | "bool" => return .bool (← parts.value.val.asBool?)
  | "int" => return .int (Int64.ofInt (← parts.value.val.asInt64?))
  | "string" => return .text (← parts.value.val.asText?)
  | "type" => return .type (← TypeExpr.ofJson? parts.value.val)
  | "enum" => return .entry (← parts.value.val.asText?)
  | "annotation" => return (← AnnotationExpr.read? parts.arrival parts.value.val).value
  | "array" =>
    return .array (← (← parts.value.val.items?).mapM fun item =>
      have := item.property
      AnnotationValue.read? parts.arrival item.val)
  | _ => none
termination_by sizeOf doc

/-- The annotation a document holds. -/
def AnnotationExpr.read? (arrival : Arrival) (doc : Json) : Option AnnotationExpr := do
  let fields ← doc.fields? ["type", "type_arguments", "arguments"]
  return {
    type := ← fields.required "type" fun part => part.val.asText?
    typeArguments := ← fields.orElse "type_arguments" [] fun part => part.val.list? TypeExpr.ofJson?
    arguments := ← fields.orElse "arguments" [] fun part => do
      (← part.val.members?).mapM fun member =>
        have := member.2.property
        have := part.property
        do return (member.1, ← AnnotationValue.read? arrival member.2.val) }
termination_by sizeOf doc
decreasing_by omega

end

/-- The value a document holds. -/
def AnnotationValue.ofJson? (doc : Json) : Option AnnotationValue :=
  AnnotationValue.read? .direct doc

/-- The annotation a document holds. -/
def AnnotationExpr.ofJson? (doc : Json) : Option AnnotationExpr :=
  AnnotationExpr.read? .direct doc

namespace DeclarationKind

/-- The document of a kind. -/
def toJson (kind : DeclarationKind) : Json :=
  .text kind.word

/-- The kind a document holds. -/
def ofJson? (doc : Json) : Option DeclarationKind :=
  doc.oneOf? (all.map fun kind => (kind.word, kind))

end DeclarationKind

namespace Parameter

/-- The document of a parameter. -/
def toJson (parameter : Parameter) : Json :=
  .object ([("name", .text parameter.name), ("type", parameter.type.toJson)]
    ++ Json.optionalMember "default_value" .text parameter.default?)

/-- The parameter a document holds. -/
def ofJson? (doc : Json) : Option Parameter := do
  let fields ← doc.fields? ["name", "type", "default_value"]
  return {
    name := ← fields.required "name" fun part => part.val.asText?
    type := ← fields.required "type" fun part => TypeExpr.ofJson? part.val
    default? := ← fields.optional "default_value" fun part => part.val.asText? }

end Parameter

namespace Declaration

/-- The document of a declaration. -/
def toJson (declaration : Declaration) : Json :=
  .object ([
    ("qualified_name", .text declaration.qualified),
    ("kind", declaration.kind.toJson),
    ("annotations", Json.ofList AnnotationExpr.toJson declaration.annotations),
    ("parameters", Json.ofList Parameter.toJson declaration.parameters),
    ("supertypes", Json.ofList TypeExpr.toJson declaration.supertypes)]
    ++ Json.optionalMember "aliased" TypeExpr.toJson declaration.aliased?
    ++ Json.optionalMember "source_id" .text declaration.sourceId?)

/-- The declaration a document holds. -/
def ofJson? (doc : Json) : Option Declaration := do
  let fields ← doc.fields? ["qualified_name", "kind", "annotations", "parameters", "supertypes", "aliased", "source_id"]
  return {
    qualified := ← fields.required "qualified_name" fun part => part.val.asText?
    kind := ← fields.required "kind" fun part => DeclarationKind.ofJson? part.val
    annotations := ← fields.orElse "annotations" [] fun part => part.val.list? AnnotationExpr.ofJson?
    parameters := ← fields.orElse "parameters" [] fun part => part.val.list? Parameter.ofJson?
    supertypes := ← fields.orElse "supertypes" [] fun part => part.val.list? TypeExpr.ofJson?
    aliased? := ← fields.optional "aliased" fun part => TypeExpr.ofJson? part.val
    sourceId? := ← fields.optional "source_id" fun part => part.val.asText? }

end Declaration

namespace SymbolTable

/-- The document of a symbol table. -/
def toJson (table : SymbolTable) : Json :=
  .object [("declarations", Json.ofList Declaration.toJson table.declarations)]

/-- The symbol table a document holds. -/
def ofJson? (doc : Json) : Option SymbolTable := do
  let fields ← doc.fields? ["declarations"]
  return { declarations := ← fields.orElse "declarations" [] fun part => part.val.list? Declaration.ofJson? }

/-- The symbol table a text holds. -/
def ofText? (text : String) : Option SymbolTable := do
  ofJson? (← JsonText.parse? text)

end SymbolTable

end NavGen
