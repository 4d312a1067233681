import NavGen.Symbol.Snapshot
import NavGen.Proofs.Json.Record

/-!
# Symbol tables are read back from their documents

Each record has the lemma that it is read back from the document that it is written as. A type is read back if its arguments are, an annotation if
the values of its arguments are, and a value of an annotation by the kind that is written with it. The kind stands first, so nothing is set aside.
-/

namespace NavGen

open Json

/-! ## Types -/

namespace TypeExpr

theorem ofJson?_eq (doc : Json) : ofJson? doc = (do
    let fields ← doc.fields? ["qualified_name", "nullable", "arguments"]
    return {
      qualified := ← fields.required "qualified_name" fun part => part.val.asText?
      nullable := ← fields.orElse "nullable" false fun part => part.val.asBool?
      arguments := ← fields.orElse "arguments" [] fun part => part.val.list? ofJson? }) := by
  rw [ofJson?]
  rfl

theorem allToJson_eq (types : List TypeExpr) : allToJson types = types.map toJson := by
  induction types with
  | nil => rfl
  | cons type rest ih => rw [allToJson, ih, List.map_cons]

theorem toJson_eq (type : TypeExpr) : type.toJson =
    .object ([("qualified_name", .text type.qualified), ("nullable", .bool type.nullable)]
      ++ nonEmptyMember "arguments" toJson type.arguments) := by
  obtain ⟨qualified, nullable, arguments⟩ := type
  rw [toJson, allToJson_eq]
  rfl

theorem sizeOf_lt_of_mem_arguments {type argument : TypeExpr} (h : argument ∈ type.arguments) : sizeOf argument < sizeOf type := by
  obtain ⟨qualified, nullable, arguments⟩ := type
  have hlt : sizeOf argument < sizeOf arguments := List.sizeOf_lt_of_mem h
  rw [mk.sizeOf_spec]
  omega

theorem mk_parts (type : TypeExpr) : ⟨type.qualified, type.nullable, type.arguments⟩ = type := by
  cases type
  rfl

@[simp] theorem ofJson?_toJson (type : TypeExpr) : ofJson? type.toJson = some type := by
  have harguments : (ofList toJson type.arguments).list? ofJson? = some type.arguments := by
    refine list?_ofList fun argument hmem => ?_
    have := sizeOf_lt_of_mem_arguments hmem
    exact ofJson?_toJson argument
  rw [ofJson?_eq]
  refine fields?_bind_eq_some type.toJson (toJson_eq type) (by simp) (by simp) fun fields h => ?_
  simp [h.required, h.orElse, harguments, mk_parts]
termination_by type

@[simp] theorem toJson_ne_null (type : TypeExpr) : type.toJson ≠ .null := by
  rw [toJson_eq]
  nofun

end TypeExpr

/-! ## Annotations -/

namespace AnnotationValue

theorem itemsToJson_eq (items : List AnnotationValue) : itemsToJson items = items.map toJson := by
  induction items with
  | nil => rfl
  | cons item rest ih => rw [itemsToJson, ih, List.map_cons]

theorem argumentsToJson_eq (arguments : List (String × AnnotationValue)) :
    argumentsToJson arguments = arguments.map fun argument => (argument.1, argument.2.toJson) := by
  induction arguments with
  | nil => rfl
  | cons argument rest ih => rw [argumentsToJson, ih, List.map_cons]

/-- The parts of a document that a value is written as. -/
theorem parts?_tagged (kind : String) (value : Json) :
    ∃ hsmaller, parts? .direct (tagged kind value) = some ⟨kind, ⟨value, hsmaller⟩, .direct⟩ :=
  ⟨by simp [tagged]; omega, rfl⟩

end AnnotationValue

namespace AnnotationExpr

theorem read?_eq (arrival : Arrival) (doc : Json) : read? arrival doc = (do
    let fields ← doc.fields? ["type", "type_arguments", "arguments"]
    return {
      type := ← fields.required "type" fun part => part.val.asText?
      typeArguments := ← fields.orElse "type_arguments" [] fun part => part.val.list? TypeExpr.ofJson?
      arguments := ← fields.orElse "arguments" [] fun part => part.val.membersOf? (AnnotationValue.read? arrival) }) := by
  rw [read?]
  rfl

/-- An annotation is read back if the values of its arguments are. -/
theorem read?_toJson_of_arguments {written : AnnotationExpr}
    (h : ∀ argument ∈ written.arguments, AnnotationValue.read? .direct argument.2.toJson = some argument.2) :
    read? .direct written.toJson = some written := by
  have harguments := membersOf?_object h
  rw [read?_eq]
  refine fields?_bind_eq_some written.toJson rfl (by simp) (by simp) fun fields hold => ?_
  simp [hold.required, hold.orElse, AnnotationValue.argumentsToJson_eq, List.lookup_append, harguments]

end AnnotationExpr

namespace AnnotationValue

/-- The integers that a word of 64 bits holds are read back. -/
@[simp] theorem asInt64?_toInt (value : Int64) : (Json.int value.toInt).asInt64? = some value.toInt := by
  have hlt := value.toInt_lt
  have hge := value.le_toInt
  rw [asInt64?, if_pos]
  omega

/-- What a document of a value is read as by its kind. -/
theorem read?_tagged (kind : String) (doc : Json) : read? .direct (tagged kind doc) =
    match kind with
    | "bool" => do return .bool (← doc.asBool?)
    | "int" => do return .int (Int64.ofInt (← doc.asInt64?))
    | "string" => do return .text (← doc.asText?)
    | "type" => do return .type (← TypeExpr.ofJson? doc)
    | "enum" => do return .entry (← doc.asText?)
    | "annotation" => do return (← AnnotationExpr.read? .direct doc).value
    | "array" => do return .array (← doc.list? (read? .direct))
    | _ => none := by
  obtain ⟨_, hparts⟩ := parts?_tagged kind doc
  rw [read?, hparts]
  simp only [list?, bind_assoc]
  rfl

/-- A value is read back from the document that it is written as, an annotation by its arguments and an array by its items. -/
theorem read?_toJson (value : AnnotationValue) : read? .direct value.toJson = some value := by
  cases value with
  | bool value => simp [toJson, read?_tagged]
  | int value => simp [toJson, read?_tagged]
  | text value => simp [toJson, read?_tagged]
  | type value => simp [toJson, read?_tagged]
  | entry qualified => simp [toJson, read?_tagged]
  | nested ty typeArguments arguments =>
    have hwritten : AnnotationExpr.read? .direct (AnnotationExpr.toJson ⟨ty, typeArguments, arguments⟩)
        = some ⟨ty, typeArguments, arguments⟩ := by
      refine AnnotationExpr.read?_toJson_of_arguments ?_
      rintro ⟨name, argument⟩ hmem
      have : sizeOf argument < 1 + sizeOf ty + sizeOf typeArguments + sizeOf arguments := by
        have := List.sizeOf_lt_of_mem hmem
        simp only [Prod.mk.sizeOf_spec] at this
        omega
      exact read?_toJson argument
    have htagged : toJson (.nested ty typeArguments arguments)
      = tagged "annotation" (AnnotationExpr.toJson ⟨ty, typeArguments, arguments⟩) := rfl
    rw [htagged, read?_tagged]
    simp [hwritten, AnnotationExpr.value]
  | array items =>
    have hitems : (Json.ofList toJson items).list? (read? .direct) = some items := by
      refine list?_ofList fun item hmem => ?_
      have := List.sizeOf_lt_of_mem hmem
      exact read?_toJson item
    rw [toJson, itemsToJson_eq, ← ofList, read?_tagged]
    simp [hitems]
termination_by value

end AnnotationValue

namespace AnnotationExpr

@[simp] theorem ofJson?_toJson (written : AnnotationExpr) : ofJson? written.toJson = some written :=
  read?_toJson_of_arguments fun argument _ => AnnotationValue.read?_toJson argument.2

end AnnotationExpr

/-! ## Declarations -/

namespace DeclarationKind

@[simp] theorem ofJson?_toJson (kind : DeclarationKind) : ofJson? kind.toJson = some kind := by
  cases kind <;> rfl

end DeclarationKind

namespace Parameter

@[simp] theorem ofJson?_toJson (parameter : Parameter) : ofJson? parameter.toJson = some parameter := by
  rw [ofJson?]
  refine fields?_bind_eq_some parameter.toJson rfl (by simp) (by simp) fun fields h => ?_
  simp [h.required, h.optional]

end Parameter

namespace Declaration

@[simp] theorem ofJson?_toJson (declaration : Declaration) : ofJson? declaration.toJson = some declaration := by
  rw [ofJson?]
  refine fields?_bind_eq_some declaration.toJson rfl (by simp) (by simp) fun fields h => ?_
  simp [h.required, h.optional, h.orElse, List.lookup_append]

end Declaration

/-! ## Symbol tables -/

/-- Every symbol table is read back from the document that it is written as, each list of it in its order. -/
theorem SymbolTable.document_roundTrips (table : SymbolTable) : SymbolTable.ofJson? table.toJson = some table := by
  rw [SymbolTable.ofJson?]
  refine fields?_bind_eq_some table.toJson rfl (by simp) (by simp) fun fields h => ?_
  simp [h.orElse]

end NavGen
