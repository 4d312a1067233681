import NavGen.Model.Snapshot
import NavGen.Proofs.Json.Record

/-!
# Models are read back from their snapshots

Each record has the lemma that it is read back from the document that it is written as, whatever its texts are and whichever of its fields are
left out. What decides it is that a field is left out only where its reader has the same default: a list that may be left out is empty when it is
missing, and no value that may be missing is written as null.
-/

namespace NavGen

open Json

/-! ## Types -/

namespace Name

@[simp] theorem ofJson?_toJson (name : Name) : ofJson? name.toJson = some name := by
  rw [ofJson?]
  refine fields?_bind_eq_some name.toJson rfl (by simp) (by simp) fun fields h => ?_
  simp [h.required]

@[simp] theorem toJson_ne_null (name : Name) : name.toJson ≠ .null := nofun

end Name

namespace TypeUse

theorem ofJson?_eq (doc : Json) : ofJson? doc = (do
    let fields ← doc.fields? ["importable", "is_nullable", "type_arguments"]
    return {
      name := ← fields.required "importable" fun part => Name.ofJson? part.val
      nullable := ← fields.required "is_nullable" fun part => part.val.asBool?
      arguments := ← fields.orElse "type_arguments" [] fun part => part.val.list? ofJson? }) := by
  rw [ofJson?]
  rfl

theorem allToJson_eq (types : List TypeUse) : allToJson types = types.map toJson := by
  induction types with
  | nil => rfl
  | cons type rest ih => rw [allToJson, ih, List.map_cons]

theorem toJson_eq (type : TypeUse) : type.toJson =
    .object ([("importable", type.name.toJson), ("is_nullable", .bool type.nullable)]
      ++ nonEmptyMember "type_arguments" toJson type.arguments) := by
  obtain ⟨name, nullable, arguments⟩ := type
  rw [toJson, allToJson_eq]
  rfl

theorem sizeOf_lt_of_mem_arguments {type argument : TypeUse} (h : argument ∈ type.arguments) : sizeOf argument < sizeOf type := by
  obtain ⟨name, nullable, arguments⟩ := type
  have hlt : sizeOf argument < sizeOf arguments := List.sizeOf_lt_of_mem h
  rw [mk.sizeOf_spec]
  omega

theorem mk_parts (type : TypeUse) : ⟨type.name, type.nullable, type.arguments⟩ = type := by
  cases type
  rfl

@[simp] theorem ofJson?_toJson (type : TypeUse) : ofJson? type.toJson = some type := by
  have harguments : (ofList toJson type.arguments).list? ofJson? = some type.arguments := by
    refine list?_ofList fun argument hmem => ?_
    have := sizeOf_lt_of_mem_arguments hmem
    exact ofJson?_toJson argument
  rw [ofJson?_eq]
  refine fields?_bind_eq_some type.toJson (toJson_eq type) (by simp) (by simp) fun fields h => ?_
  simp [h.required, h.orElse, harguments, mk_parts]
termination_by type

end TypeUse

namespace InstanceKind

@[simp] theorem ofJson?_toJson (kind : InstanceKind) : ofJson? kind.toJson = some kind := by
  cases kind <;> rfl

end InstanceKind

namespace Primitive

@[simp] theorem ofJson?_toJson (primitive : Primitive) : ofJson? primitive.toJson = some primitive := by
  cases primitive <;> rfl

end Primitive

namespace Serializer

@[simp] theorem ofJson?_toJson (serializer : Serializer) : ofJson? serializer.toJson = some serializer := by
  rw [ofJson?]
  refine fields?_bind_eq_some serializer.toJson rfl (by simp) (by simp) fun fields h => ?_
  simp [h.required, h.orElse]

end Serializer

namespace NavType

@[simp] theorem ofJson?_toJson (navType : NavType) : ofJson? navType.toJson = some navType := by
  induction navType with
  | list element ih =>
    rw [ofJson?, toJson]
    simp [ih]
  | _ =>
    rw [ofJson?, toJson]
    simp

end NavType

namespace Argument

@[simp] theorem ofJson?_toJson (argument : Argument) : ofJson? argument.toJson = some argument := by
  rw [ofJson?]
  refine fields?_bind_eq_some argument.toJson rfl (by simp) (by simp) fun fields h => ?_
  simp [h.required, h.optional]

end Argument

namespace DeepLink

@[simp] theorem ofJson?_toJson (link : DeepLink) : ofJson? link.toJson = some link := by
  rw [ofJson?]
  refine fields?_bind_eq_some link.toJson rfl (by simp) (by simp) fun fields h => ?_
  simp [h.required, h.optional, List.lookup_append]

end DeepLink

namespace ActivityInfo

@[simp] theorem ofJson?_toJson (info : ActivityInfo) : ofJson? info.toJson = some info := by
  rw [ofJson?]
  refine fields?_bind_eq_some info.toJson rfl (by simp) ?_ fun fields h => ?_
  · simp only [List.append_assoc]
    exact inOrder_optionalMember_append (inOrder_optionalMember_append (inOrder_optionalMember_append inOrder_optionalMember))
  · simp [h.optional, List.lookup_append]

end ActivityInfo

namespace DestinationKind

@[simp] theorem ofJson?_toJson (kind : DestinationKind) : ofJson? kind.toJson = some kind := by
  cases kind with
  | composable => rfl
  | activity info =>
    rw [ofJson?, toJson]
    simp

end DestinationKind

namespace ResultSender

@[simp] theorem ofJson?_toJson (result : ResultSender) : ofJson? result.toJson = some result := by
  rw [ofJson?]
  refine fields?_bind_eq_some result.toJson rfl (by simp) (by simp) fun fields h => ?_
  simp [h.required]

@[simp] theorem toJson_ne_null (result : ResultSender) : result.toJson ≠ .null := nofun

end ResultSender

namespace Destination

@[simp] theorem ofJson?_toJson (destination : Destination) : ofJson? destination.toJson = some destination := by
  rw [ofJson?]
  refine fields?_bind_eq_some destination.toJson rfl (by simp) (by simp) fun fields h => ?_
  simp [h.required, h.optional, h.orElse, List.lookup_append]

end Destination

/-! ## Graphs -/

namespace Start

@[simp] theorem ofJson?_toJson (start : Start) : ofJson? start.toJson = some start := by
  cases start <;> simp [ofJson?, toJson]

end Start

namespace Graph

@[simp] theorem ofJson?_toJson (graph : Graph) : ofJson? graph.toJson = some graph := by
  rw [ofJson?]
  refine fields?_bind_eq_some graph.toJson rfl (by simp) (by simp) fun fields h => ?_
  simp [h.required, h.optional, h.orElse, List.lookup_append]

end Graph

/-! ## Modules -/

namespace PublishedResult

@[simp] theorem ofJson?_toJson (result : PublishedResult) : ofJson? result.toJson = some result := by
  rw [ofJson?]
  refine fields?_bind_eq_some result.toJson rfl (by simp) (by simp) fun fields h => ?_
  simp [h.required]

end PublishedResult

namespace ModuleSurface

@[simp] theorem ofJson?_toJson (surface : ModuleSurface) : ofJson? surface.toJson = some surface := by
  rw [ofJson?]
  refine fields?_bind_eq_some surface.toJson rfl (by simp) (by simp) fun fields h => ?_
  simp [h.required, h.optional, h.orElse, List.lookup_append]

end ModuleSurface

/-! ## Models -/

/-- Every model is read back from the document that it is written as. -/
theorem Model.snapshot_roundTrips (model : Model) : Model.ofJson? model.toJson = some model := by
  rw [Model.ofJson?]
  refine fields?_bind_eq_some model.toJson rfl (by simp) (by simp) fun fields h => ?_
  simp [h.required]

end NavGen
