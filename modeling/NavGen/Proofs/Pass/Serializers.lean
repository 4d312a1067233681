import NavGen.Pass.Serializers
import NavGen.Proofs.Order
import NavGen.Proofs.Pass.Results
import NavGen.Proofs.Symbol.Reordering

/-!
# Serializers of tables that differ in order

Serializers are registered one after the other, and a type that has one already is an error. So the types of the serializers that are registered
are distinct, and the serializer of a type does not depend on the order in which they were registered.
-/

namespace NavGen

namespace SerializerRegistry

variable {registry : SerializerRegistry} {serializer : Serializer}

/-! ## Names of types -/

/-- Whether each serializer is registered under the name of the type that it converts. -/
def Keyed (registry : SerializerRegistry) : Prop :=
  ∀ entry ∈ registry.byType, entry.1 = entry.2.value.qualified

/-- The registry of serializers under the names of the types that they convert. -/
def ofSerializers (serializers : List Serializer) : SerializerRegistry :=
  { byType := serializers.map fun serializer => (serializer.value.qualified, serializer) }

theorem keyed_ofSerializers (serializers : List Serializer) : (ofSerializers serializers).Keyed := by
  intro entry hentry
  obtain ⟨serializer, -, rfl⟩ := List.mem_map.1 hentry
  rfl

@[simp] theorem serializers_ofSerializers (serializers : List Serializer) : (ofSerializers serializers).serializers = serializers := by
  rw [ofSerializers, SerializerRegistry.serializers, List.map_map]
  exact List.map_id serializers

@[simp] theorem names_ofSerializers (serializers : List Serializer) :
    (ofSerializers serializers).byType.map (·.1) = serializers.map (·.value.qualified) := by
  rw [ofSerializers, List.map_map]
  rfl

theorem find?_ofSerializers (serializers : List Serializer) (qualified : String) :
    (ofSerializers serializers).find? qualified = serializers.find? (·.value.qualified == qualified) := by
  rw [ofSerializers, SerializerRegistry.find?, List.find?_map, Option.map_map]
  exact Option.map_id_apply

theorem nodup_names_empty : (empty.byType.map (·.1)).Nodup :=
  List.nodup_nil

/-- What is found is a serializer of the registry. -/
theorem mem_of_find? {qualified : String} (h : registry.find? qualified = some serializer) : (qualified, serializer) ∈ registry.byType := by
  obtain ⟨⟨name, found⟩, hfound, rfl⟩ := Option.map_eq_some_iff.1 h
  obtain ⟨hmem, rfl⟩ := mem_of_find?_key hfound
  exact hmem

theorem mem_serializers_of_find? {qualified : String} (h : registry.find? qualified = some serializer) : serializer ∈ registry.serializers :=
  List.mem_map_of_mem (mem_of_find? h)

/-- It converts the type that it is found for. -/
theorem Keyed.qualified_of_find? (hkeyed : registry.Keyed) {qualified : String} (h : registry.find? qualified = some serializer) :
    serializer.value.qualified = qualified :=
  (hkeyed _ (mem_of_find? h)).symm

/-- Whether two registries hold the same serializers, in whatever order, and no two of them under one name. -/
structure Reorders (registry registry' : SerializerRegistry) : Prop where
  entries : registry.byType.Perm registry'.byType
  names : (registry.byType.map (·.1)).Nodup

/-- Registries of the same serializers in another order are such. -/
theorem reorders_of_perm {serializers serializers' : List Serializer} (hsame : serializers.Perm serializers')
    (hnames : (serializers.map (·.value.qualified)).Nodup) : (ofSerializers serializers).Reorders (ofSerializers serializers') :=
  ⟨hsame.map _, (names_ofSerializers serializers).symm ▸ hnames⟩

namespace Reorders

variable {registry' : SerializerRegistry}

/-- A type has the same serializer in both registries. -/
theorem find?_eq (h : registry.Reorders registry') (qualified : String) : registry.find? qualified = registry'.find? qualified :=
  congrArg (Option.map Prod.snd) (find?_key_eq_of_perm h.entries h.names qualified)

theorem sorted_eq (h : registry.Reorders registry') : registry.sorted = registry'.sorted :=
  congrArg (List.map Prod.snd) (sortBy_key_eq_of_perm h.entries h.names)

end Reorders

/-! ## Registering -/

/-- A serializer can be registered exactly if its type has none. -/
theorem register_eq_ok_iff (registry : SerializerRegistry) (serializer : Serializer) (after : SerializerRegistry) :
    registry.register serializer = .ok after ↔
      serializer.value.qualified ∉ registry.byType.map (·.1) ∧
        after = { byType := registry.byType ++ [(serializer.value.qualified, serializer)] } := by
  have hnone : registry.find? serializer.value.qualified = none ↔ serializer.value.qualified ∉ registry.byType.map (·.1) := by
    rw [find?, Option.map_eq_none_iff, find?_key_eq_none]
  rw [register, offer, ← hnone]
  cases registry.find? serializer.value.qualified with
  | some existing => simp
  | none => simp [eq_comm]

/-- Declarations can be read into a registry exactly if each can be read and the types that are converted stay distinct. -/
theorem result_readAll_eq_ok_iff (table : SymbolTable) (declarations : List Declaration) (hnames : (registry.byType.map (·.1)).Nodup)
    (after : SerializerRegistry) :
    (readAll table registry declarations).result = .ok after ↔
      ∃ added, declarations.mapM (read table) = .ok added ∧ after = { byType := registry.byType ++ (ofSerializers added).byType } ∧
        (after.byType.map (·.1)).Nodup := by
  induction declarations generalizing registry with
  | nil =>
    rw [readAll, Logged.result_pure, Except.ok.injEq, eq_comm]
    constructor
    · rintro rfl
      exact ⟨[], rfl, by rw [ofSerializers, List.map_nil, List.append_nil], hnames⟩
    · rintro ⟨added, hadded, rfl, -⟩
      rw [List.mapM_nil] at hadded
      cases hadded
      rw [ofSerializers, List.map_nil, List.append_nil]
  | cons declaration rest ih =>
    have hstep : (readAll table registry (declaration :: rest)).result = .ok after ↔
        ∃ serializer, read table declaration = .ok serializer ∧
          ∃ next, registry.register serializer = .ok next ∧ (readAll table next rest).result = .ok after := by
      rw [readAll]
      simp only [Logged.result_bind, Logged.result_lift, Logged.result_debug, bind_eq_ok, true_and, exists_const]
    have hadd (serializer : Serializer) (added : List Serializer) :
        registry.byType ++ (ofSerializers (serializer :: added)).byType =
          registry.byType ++ [(serializer.value.qualified, serializer)] ++ (ofSerializers added).byType := by
      rw [List.append_assoc]
      rfl
    simp only [hstep, register_eq_ok_iff, mapM_cons_eq_ok]
    constructor
    · rintro ⟨serializer, hread, next, ⟨hfresh, rfl⟩, hrest⟩
      obtain ⟨added, hadded, rfl, hall⟩ := (ih (nodup_keys_concat.2 ⟨hnames, hfresh⟩)).1 hrest
      exact ⟨serializer :: added, ⟨serializer, added, hread, hadded, rfl⟩, by rw [hadd], hall⟩
    · rintro ⟨_, ⟨serializer, added, hread, hadded, rfl⟩, hafter, hall⟩
      rw [hadd] at hafter
      have hnext : ((registry.byType ++ [(serializer.value.qualified, serializer)]).map (·.1)).Nodup := by
        rw [hafter] at hall
        exact hall.sublist ((List.sublist_append_left _ _).map _)
      exact ⟨serializer, hread, _, ⟨(nodup_keys_concat.1 hnext).2, rfl⟩, (ih hnext).2 ⟨added, hadded, hafter, hall⟩⟩

/-- The declared serializers can be collected exactly if each can be read and they convert distinct types. -/
theorem result_collect_eq_ok_iff (table : SymbolTable) (registry : SerializerRegistry) :
    (collect table.symbols).result = .ok registry ↔
      ∃ serializers, (table.symbols.annotatedWith Library.navTypeSerializer).mapM (read table) = .ok serializers ∧
        registry = ofSerializers serializers ∧ (serializers.map (·.value.qualified)).Nodup := by
  rw [collect, result_readAll_eq_ok_iff _ _ nodup_names_empty]
  constructor
  · rintro ⟨serializers, hread, rfl, hnames⟩
    exact ⟨serializers, hread, rfl, names_ofSerializers serializers ▸ hnames⟩
  · rintro ⟨serializers, hread, rfl, hnames⟩
    exact ⟨serializers, hread, rfl, (names_ofSerializers serializers).symm ▸ hnames⟩

/-- They are registered under the names of these types. -/
theorem keyed_of_collect {symbols : Symbols} (h : (collect symbols).result = .ok registry) : registry.Keyed := by
  obtain ⟨serializers, -, rfl, -⟩ := (result_readAll_eq_ok_iff symbols.table _ nodup_names_empty _).1 h
  exact keyed_ofSerializers serializers

end SerializerRegistry

namespace SymbolTable.AgreeOn

variable {names : Set String} {table table' : SymbolTable}

/-- A serializer converts the same type in both tables, by the type argument it names. -/
theorem convertedType?_eq (h : table.AgreeOn names table') {type : TypeExpr} (htype : type.qualified ∈ names) :
    SerializerRegistry.convertedType? table type = SerializerRegistry.convertedType? table' type := by
  unfold SerializerRegistry.convertedType?
  rw [h.find?_eq _ htype, h.classOf?_eq htype]

/-- A declaration is the same serializer in both tables. -/
theorem serializer_eq (h : table.AgreeOn names table') {declaration : Declaration} (hdeclaration : declaration.Within names) :
    SerializerRegistry.read table declaration = SerializerRegistry.read table' declaration := by
  unfold SerializerRegistry.read
  rw [← h.supertypesOf_eq hdeclaration]
  cases hfind : (table.supertypesOf declaration).find? (·.qualified == Library.serializerInterface) with
  | none => rfl
  | some type =>
    have htype := h.within_of_mem_supertypesOf hdeclaration type (List.mem_of_find?_eq_some hfind)
    have hconverted : type.arguments.head?.bind (SerializerRegistry.convertedType? table) =
        type.arguments.head?.bind (SerializerRegistry.convertedType? table') :=
      Option.bind_congr fun _ hhead => h.convertedType?_eq (htype.head? hhead).qualified
    dsimp only
    rw [hconverted]

end SymbolTable.AgreeOn

namespace SymbolTable.Reorders

variable {table table' : SymbolTable}

/-- The serializers of both tables are the same, or neither table's can be registered. -/
theorem endAlike_serializers (h : table.Reorders table') :
    EndAlike SerializerRegistry.Reorders (SerializerRegistry.collect table.symbols).result
      (SerializerRegistry.collect table'.symbols).result := by
  have hread : SerializerRegistry.read table = SerializerRegistry.read table' := funext fun _ => h.agreeOn.serializer_eq fun _ _ => trivial
  have hperm := EndAlike.mapM_same_perm (SerializerRegistry.read table') (h.perm_annotatedWith Library.navTypeSerializer)
  refine EndAlike.of_ok (fun registry hok => ?_) fun registry' hok' => ?_
  · obtain ⟨serializers, hserializers, rfl, hnames⟩ := (SerializerRegistry.result_collect_eq_ok_iff _ _).1 hok
    rw [hread] at hserializers
    obtain ⟨serializers', hserializers', hsame⟩ := hperm.exists_ok_right hserializers
    have hnames' := (hsame.map (·.value.qualified)).nodup hnames
    exact ⟨_, (SerializerRegistry.result_collect_eq_ok_iff _ _).2 ⟨serializers', hserializers', rfl, hnames'⟩,
      SerializerRegistry.reorders_of_perm hsame hnames⟩
  · obtain ⟨serializers', hserializers', rfl, hnames'⟩ := (SerializerRegistry.result_collect_eq_ok_iff _ _).1 hok'
    obtain ⟨serializers, hserializers, hsame⟩ := hperm.exists_ok_left hserializers'
    rw [← hread] at hserializers
    have hnames := (hsame.map (·.value.qualified)).symm.nodup hnames'
    exact ⟨_, (SerializerRegistry.result_collect_eq_ok_iff _ _).2 ⟨serializers, hserializers, rfl, hnames⟩⟩

end SymbolTable.Reorders

end NavGen
