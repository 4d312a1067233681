import NavGen.Proofs.FirstOfEach
import NavGen.Proofs.Pass.Serializers
import NavGen.Proofs.Symbol.Supertypes

/-!
# Which serializers are registered

A declaration that is marked as a serializer can be read if it has instances, if the interface of serializers is among its supertypes, however far,
and if the first type argument of that interface stands for something: for its class, or for itself where nothing of that name is declared. All of
them can be registered if, besides, no two of them stand for types of one name, whatever aliases they are written with. A registry then holds the
first of the serializers of each type that it was offered, under the name of the type. This goes on to hold however many serializers are offered
afterwards, since an offer for a type that has a serializer is refused and leaves the registry as it was.
-/

namespace NavGen

/-! ## Declared serializers -/

namespace SymbolTable

/-- What a type argument stands for when values of it are converted: itself, if it is not declared, or else its class. -/
inductive StandsFor (table : SymbolTable) (written : TypeExpr) : Name → Prop where
  | itself (undeclared : table.find? written.qualified = none) : StandsFor table written written.name
  | itsClass {declaration : Declaration} (found : table.classOf? written = some declaration) : StandsFor table written declaration.name

/-- Whether a declaration converts the values of a type, by the interface of serializers among its supertypes. -/
def Converts (table : SymbolTable) (declaration : Declaration) (value : Name) : Prop :=
  ∃ interface ∈ table.supertypesOf declaration, interface.qualified = Library.serializerInterface ∧
    ∃ written, interface.arguments.head? = some written ∧ table.StandsFor written value

/-- Whether a declaration can be used as a serializer. -/
structure CanSerialize (table : SymbolTable) (declaration : Declaration) : Prop where
  kind : declaration.kind = .plainClass ∨ declaration.kind = .object
  capability : ∃ links, table.HasSupertype declaration links Library.serializerInterface
  argument : ∀ interface ∈ table.supertypesOf declaration, interface.qualified = Library.serializerInterface →
    ∃ written, interface.arguments.head? = some written ∧
      (table.find? written.qualified = none ∨ ∃ found, table.classOf? written = some found)

/-- Whether a serializer is the one that a declaration describes. -/
structure IsSerializer (table : SymbolTable) (declaration : Declaration) (serializer : Serializer) : Prop where
  instances : declaration.kind = .plainClass ∧ serializer.kind = .newInstance ∨ declaration.kind = .object ∧ serializer.kind = .singleton
  named : serializer.serializer = declaration.name
  converts : table.Converts declaration serializer.value
  sources : serializer.sourceIds = declaration.sourceIds

variable {table : SymbolTable} {declaration : Declaration}

/-- The names of the supertypes that are found are all those that supertype links lead to. -/
theorem mem_names_supertypesOf {name : String} :
    name ∈ (table.supertypesOf declaration).map (·.qualified) ↔ ∃ links, table.HasSupertype declaration links name := by
  -- on all levels up to a number beyond the length of the result nothing is left out
  have hbeyond (links : Nat) : (table.supertypesOf declaration).length < (table.supertypesOf declaration).length + (links + 1) :=
    Nat.lt_add_of_pos_right (Nat.succ_pos links)
  have hlevels (links : Nat) := supertypesOf_eq_firstOfEach (hbeyond links)
  constructor
  · intro h
    rw [hlevels 0, mem_keys_firstOfEach, mem_names_supertypeLevels] at h
    obtain ⟨⟨links, -, hlinks⟩, -⟩ := h
    exact ⟨links, hlinks⟩
  · rintro ⟨links, hlinks⟩
    rw [hlevels links, mem_keys_firstOfEach, mem_names_supertypeLevels]
    exact ⟨⟨links, by omega, hlinks⟩, List.not_mem_nil⟩

/-- A declaration has the interface of serializers once among its supertypes. -/
theorem find?_serializerInterface {interface : TypeExpr} :
    (table.supertypesOf declaration).find? (·.qualified == Library.serializerInterface) = some interface ↔
      interface ∈ table.supertypesOf declaration ∧ interface.qualified = Library.serializerInterface :=
  find?_key_eq_some (nodup_names_supertypesOf table declaration)

/-- A type argument stands for one type. -/
theorem StandsFor.unique {written : TypeExpr} {value value' : Name} (h : table.StandsFor written value) (h' : table.StandsFor written value') :
    value = value' := by
  have hundeclared {found : Declaration} (hnone : table.find? written.qualified = none) : table.classOf? written ≠ some found := by
    rw [classOf?, hnone, Option.bind_none]
    exact (Option.some_ne_none found).symm
  cases h with
  | itself undeclared =>
    cases h' with
    | itself _ => rfl
    | itsClass found => exact absurd found (hundeclared undeclared)
  | itsClass found =>
    cases h' with
    | itself undeclared => exact absurd found (hundeclared undeclared)
    | itsClass found' => rw [Option.some.inj (found.symm.trans found')]

/-- A declaration converts the values of one type. -/
theorem Converts.unique {value value' : Name} (h : table.Converts declaration value) (h' : table.Converts declaration value') : value = value' := by
  obtain ⟨interface, hmem, hname, written, hhead, hvalue⟩ := h
  obtain ⟨interface', hmem', hname', written', hhead', hvalue'⟩ := h'
  obtain rfl : interface = interface' :=
    List.inj_on_of_nodup_map (nodup_names_supertypesOf table declaration) hmem hmem' (hname.trans hname'.symm)
  obtain rfl : written = written' := Option.some.inj (hhead.symm.trans hhead')
  exact hvalue.unique hvalue'

end SymbolTable

namespace SerializerRegistry

variable {table : SymbolTable} {declaration : Declaration} {serializer : Serializer}

/-! ## Reading a declaration -/

theorem convertedType?_eq_some_iff {written : TypeExpr} {value : Name} :
    convertedType? table written = some value ↔ table.StandsFor written value := by
  rw [convertedType?]
  cases hfind : table.find? written.qualified with
  | none =>
    rw [Option.some.injEq]
    exact ⟨fun h => h ▸ .itself hfind, fun h => (SymbolTable.StandsFor.itself hfind).unique h⟩
  | some first =>
    rw [Option.map_eq_some_iff]
    constructor
    · rintro ⟨found, hfound, rfl⟩
      exact .itsClass hfound
    · intro h
      cases h with
      | itself undeclared => exact absurd (hfind.symm.trans undeclared) (Option.some_ne_none first)
      | itsClass found => exact ⟨_, found, rfl⟩

/-- Reading a declaration gives the serializer that it describes, if it describes one. -/
theorem read_eq_ok_iff : read table declaration = .ok serializer ↔ table.IsSerializer declaration serializer := by
  constructor
  · intro h
    unfold read at h
    split at h
    · contradiction
    · rename_i kind hkind
      split at h
      · contradiction
      · rename_i interface hinterface
        split at h
        · contradiction
        · rename_i value hvalue
          cases h
          obtain ⟨hmem, hname⟩ := SymbolTable.find?_serializerInterface.1 hinterface
          obtain ⟨written, hwritten, hconverted⟩ := Option.bind_eq_some_iff.1 hvalue
          refine ⟨?_, rfl, ⟨interface, hmem, hname, written, hwritten, convertedType?_eq_some_iff.1 hconverted⟩, rfl⟩
          unfold instanceKind? at hkind
          split at hkind
          · exact .inl ⟨‹_›, (Option.some.inj hkind).symm⟩
          · exact .inr ⟨‹_›, (Option.some.inj hkind).symm⟩
          · contradiction
  · rintro ⟨hkind, hnamed, ⟨interface, hmem, hname, written, hwritten, hvalue⟩, hsources⟩
    have hinstance : instanceKind? declaration.kind = some serializer.kind := by
      rcases hkind with ⟨hdeclaration, hinstance⟩ | ⟨hdeclaration, hinstance⟩
      · rw [hdeclaration, hinstance]
        rfl
      · rw [hdeclaration, hinstance]
        rfl
    have hconverted : interface.arguments.head?.bind (convertedType? table) = some serializer.value := by
      rw [hwritten, Option.bind_some, convertedType?_eq_some_iff.2 hvalue]
    rw [read, hinstance, SymbolTable.find?_serializerInterface.2 ⟨hmem, hname⟩]
    dsimp only
    rw [hconverted, ← hnamed, ← hsources]

/-- A declaration describes a serializer exactly if it can be used as one. -/
theorem exists_isSerializer_iff : (∃ serializer, table.IsSerializer declaration serializer) ↔ table.CanSerialize declaration := by
  constructor
  · rintro ⟨⟨_, _, value, _⟩, hkind, -, ⟨interface, hmem, hname, written, hwritten, hvalue⟩, -⟩
    dsimp only at hvalue
    refine ⟨hkind.imp And.left And.left, ?_, fun other hother hotherName => ?_⟩
    · exact SymbolTable.mem_names_supertypesOf.1 (hname ▸ List.mem_map_of_mem hmem)
    · obtain rfl : other = interface :=
        List.inj_on_of_nodup_map (SymbolTable.nodup_names_supertypesOf table declaration) hother hmem (hotherName.trans hname.symm)
      refine ⟨written, hwritten, ?_⟩
      cases hvalue with
      | itself undeclared => exact .inl undeclared
      | itsClass found => exact .inr ⟨_, found⟩
  · rintro ⟨hkind, hcapability, hargument⟩
    obtain ⟨interface, hmem, hname⟩ := List.mem_map.1 (SymbolTable.mem_names_supertypesOf.2 hcapability)
    obtain ⟨written, hwritten, hstands⟩ := hargument interface hmem hname
    obtain ⟨value, hvalue⟩ : ∃ value, table.StandsFor written value := by
      rcases hstands with hundeclared | ⟨found, hfound⟩
      · exact ⟨_, .itself hundeclared⟩
      · exact ⟨_, .itsClass hfound⟩
    have hconverts : table.Converts declaration value := ⟨interface, hmem, hname, written, hwritten, hvalue⟩
    rcases hkind with hkind | hkind
    · exact ⟨⟨.newInstance, declaration.name, value, declaration.sourceIds⟩, .inl ⟨hkind, rfl⟩, rfl, hconverts, rfl⟩
    · exact ⟨⟨.singleton, declaration.name, value, declaration.sourceIds⟩, .inr ⟨hkind, rfl⟩, rfl, hconverts, rfl⟩

/-! ## Offers -/

/-- The registry that is left when serializers are offered one after the other, whether or not they are taken. -/
def afterOffers (registry : SerializerRegistry) (offers : List Serializer) : SerializerRegistry :=
  offers.foldl (fun registry serializer => (registry.offer serializer).2) registry

/-- Whether a registry is what is left when serializers are offered in order: of each type it holds the first one, under the name of the type, it
lists them by these names, and it refuses a second one without a change. -/
structure HoldsFirst (registry : SerializerRegistry) (offered : List Serializer) : Prop where
  first : ∀ qualified, registry.find? qualified = offered.find? (·.value.qualified == qualified)
  keys : ∀ entry ∈ registry.byType, entry.1 = entry.2.value.qualified
  listed : ∀ serializer, serializer ∈ registry.sorted ↔ registry.find? serializer.value.qualified = some serializer
  sorted : registry.sorted.Pairwise fun serializer later => serializer.value.qualified < later.value.qualified
  refused : ∀ serializer error, (registry.offer serializer).1 = .error error ↔
    ∃ existing, registry.find? serializer.value.qualified = some existing ∧
      error = {
        declaration := serializer.serializer.qualified
        fault := .secondSerializer serializer.value.qualified existing.serializer.qualified }
  unchanged : ∀ serializer error, (registry.offer serializer).1 = .error error → (registry.offer serializer).2 = registry

variable {registry : SerializerRegistry} {offered : List Serializer}

/-- An offer for a type that has a serializer is refused and changes nothing. -/
theorem offer_of_find? {serializer existing : Serializer} (h : registry.find? serializer.value.qualified = some existing) :
    registry.offer serializer =
      (.error {
        declaration := serializer.serializer.qualified
        fault := .secondSerializer serializer.value.qualified existing.serializer.qualified }, registry) := by
  rw [offer, h]

/-- An offer for a type that has none is taken. -/
theorem offer_of_find?_eq_none {serializer : Serializer} (h : registry.find? serializer.value.qualified = none) :
    registry.offer serializer = (.ok (), { byType := registry.byType ++ [(serializer.value.qualified, serializer)] }) := by
  rw [offer, h]

theorem offer_eq_error_iff (registry : SerializerRegistry) (serializer : Serializer) (error : SetupError) :
    (registry.offer serializer).1 = .error error ↔
      ∃ existing, registry.find? serializer.value.qualified = some existing ∧
        error = {
          declaration := serializer.serializer.qualified
          fault := .secondSerializer serializer.value.qualified existing.serializer.qualified } := by
  cases hfind : registry.find? serializer.value.qualified with
  | none => simp [offer_of_find?_eq_none hfind]
  | some existing => simp [offer_of_find? hfind, eq_comm]

/-- The step: an offer leaves the first serializers of what was offered before and with it. -/
theorem offer_firstOfEach (offered : List Serializer) (serializer : Serializer) :
    ((ofSerializers (firstOfEach (·.value.qualified) [] offered)).offer serializer).2 =
      ofSerializers (firstOfEach (·.value.qualified) [] (offered ++ [serializer])) := by
  rw [firstOfEach_append, List.append_nil, firstOfEach, firstOfEach]
  cases hfind : (ofSerializers (firstOfEach (·.value.qualified) [] offered)).find? serializer.value.qualified with
  | some existing =>
    have hmem : serializer.value.qualified ∈ (firstOfEach (·.value.qualified) [] offered).map (·.value.qualified) := by
      rw [find?_ofSerializers] at hfind
      obtain ⟨hexisting, hvalue⟩ := mem_of_find?_key hfind
      exact List.mem_map.2 ⟨existing, hexisting, hvalue⟩
    rw [offer_of_find? hfind, if_pos (List.mem_reverse.2 hmem), List.append_nil]
  | none =>
    have hfresh : serializer.value.qualified ∉ (firstOfEach (·.value.qualified) [] offered).map (·.value.qualified) := by
      rw [find?_ofSerializers] at hfind
      exact find?_key_eq_none.1 hfind
    rw [offer_of_find?_eq_none hfind, if_neg (mt List.mem_reverse.1 hfresh), firstOfEach, ofSerializers, ofSerializers, List.map_append,
      List.map_singleton]

/-- The run: so does any number of offers. -/
theorem afterOffers_firstOfEach (offered offers : List Serializer) :
    (ofSerializers (firstOfEach (·.value.qualified) [] offered)).afterOffers offers =
      ofSerializers (firstOfEach (·.value.qualified) [] (offered ++ offers)) := by
  induction offers generalizing offered with
  | nil =>
    rw [List.append_nil]
    rfl
  | cons serializer rest ih =>
    rw [afterOffers, List.foldl_cons, offer_firstOfEach, List.append_cons offered serializer rest]
    exact ih (offered ++ [serializer])

/-- The list of serializers is in the strict order of the types that they convert, if each stands under the name of its type and no name repeats. -/
theorem Keyed.pairwise_sorted (hkeyed : registry.Keyed) (hnames : (registry.byType.map (·.1)).Nodup) :
    registry.sorted.Pairwise fun serializer later => serializer.value.qualified < later.value.qualified := by
  have hordered : (sortBy (fun a b => textLe a.1 b.1) registry.byType).Pairwise fun entry later => textLe entry.1 later.1 = true :=
    pairwise_sortBy (fun a b => textLe_total a.1 b.1) (fun a b c => textLe_trans a.1 b.1 c.1) registry.byType
  have hperm : (sortBy (fun a b => textLe a.1 b.1) registry.byType).Perm registry.byType := perm_sortBy registry.byType
  have hdistinct : ((sortBy (fun a b => textLe a.1 b.1) registry.byType).map (·.1)).Nodup := (hperm.map (·.1)).symm.nodup hnames
  have hstrict := hordered.imp₂ (fun _ _ hle hne => lt_of_le_of_ne (of_decide_eq_true hle) hne) (List.pairwise_map.1 hdistinct)
  refine List.pairwise_map.2 (hstrict.imp_of_mem fun {entry later} hentry hlater hlt => ?_)
  rwa [← hkeyed entry (hperm.mem_iff.1 hentry), ← hkeyed later (hperm.mem_iff.1 hlater)]

/-- The first serializers of a list are held as they should be. -/
theorem holdsFirst_firstOfEach (offered : List Serializer) :
    (ofSerializers (firstOfEach (·.value.qualified) [] offered)).HoldsFirst offered := by
  have hdistinct : ((firstOfEach (·.value.qualified) [] offered).map (·.value.qualified)).Nodup := nodup_keys_firstOfEach _ _ _
  refine ⟨?first, keyed_ofSerializers _, ?listed, (keyed_ofSerializers _).pairwise_sorted ?names, offer_eq_error_iff _, ?unchanged⟩
  case first =>
    intro qualified
    refine Option.ext fun serializer => ?_
    rw [find?_ofSerializers, find?_key_eq_some hdistinct, mem_firstOfEach]
    constructor
    · rintro ⟨⟨-, hfirst⟩, rfl⟩
      exact hfirst
    · intro hfirst
      obtain rfl := (mem_of_find?_key hfirst).2
      exact ⟨⟨List.not_mem_nil, hfirst⟩, rfl⟩
  case listed =>
    intro serializer
    have hlisted (registry : SerializerRegistry) : registry.sorted.Perm registry.serializers := (perm_sortBy registry.byType).map Prod.snd
    rw [find?_ofSerializers, find?_key_eq_some hdistinct, (hlisted _).mem_iff, serializers_ofSerializers, eq_self_iff_true, and_true]
  case names =>
    rw [names_ofSerializers]
    exact hdistinct
  case unchanged =>
    intro serializer error herror
    obtain ⟨existing, hexisting, -⟩ := (offer_eq_error_iff _ _ _).1 herror
    rw [offer_of_find? hexisting]

end SerializerRegistry

/-! ## The registry of a table -/

/-- Lists whose items are related one by one are pairwise as they should be if related items are so together. -/
theorem pairwise_iff_of_forall₂ {α β : Type} {R : α → β → Prop} {S : α → α → Prop} {T : β → β → Prop}
    (h : ∀ {a a' b b'}, R a b → R a' b' → (S a a' ↔ T b b')) {items : List α} {values : List β} (hall : List.Forall₂ R items values) :
    items.Pairwise S ↔ values.Pairwise T := by
  induction hall with
  | nil => exact iff_of_true .nil .nil
  | @cons item value items values hfirst hrest ih =>
    have hforall : (∀ other ∈ items, S item other) ↔ ∀ other ∈ values, T value other := by
      clear ih
      induction hrest with
      | nil => simp
      | cons hnext _ ih => rw [List.forall_mem_cons, List.forall_mem_cons, h hfirst hnext, ih]
    rw [List.pairwise_cons, List.pairwise_cons, hforall, ih]

namespace SymbolTable

/-- Whether the serializers of a table are registered as they should be: all declarations that are marked as serializers if each can be used as one
and no two convert types of one name, and whatever is registered besides, the first serializer of each type. -/
structure RegistersSerializers (table : SymbolTable) : Prop where
  collected_iff : (∃ registry, (SerializerRegistry.collect table.symbols).result = .ok registry) ↔
    (∀ declaration ∈ table.annotatedWith Library.navTypeSerializer, table.CanSerialize declaration) ∧
      (table.annotatedWith Library.navTypeSerializer).Pairwise fun declaration other =>
        ∀ value value', table.Converts declaration value → table.Converts other value' → value.qualified ≠ value'.qualified
  held : ∀ registry, (SerializerRegistry.collect table.symbols).result = .ok registry →
    ∃ collected, List.Forall₂ table.IsSerializer (table.annotatedWith Library.navTypeSerializer) collected ∧
      ∀ offers, (registry.afterOffers offers).HoldsFirst (collected ++ offers)

variable {table : SymbolTable} {registry : SerializerRegistry}

/-- Declarations are read as the serializers that they describe. -/
theorem mapM_read_eq_ok_iff {declarations : List Declaration} {serializers : List Serializer} :
    declarations.mapM (SerializerRegistry.read table) = .ok serializers ↔ List.Forall₂ table.IsSerializer declarations serializers := by
  rw [mapM_eq_ok_iff_forall₂]
  simp only [SerializerRegistry.read_eq_ok_iff]

/-- Declarations describe serializers, one for each, exactly if each can be used as one. -/
theorem exists_serializers_iff {declarations : List Declaration} :
    (∃ serializers, List.Forall₂ table.IsSerializer declarations serializers) ↔
      ∀ declaration ∈ declarations, table.CanSerialize declaration := by
  simp only [← mapM_read_eq_ok_iff, exists_mapM_eq_ok_iff, SerializerRegistry.read_eq_ok_iff, SerializerRegistry.exists_isSerializer_iff]

/-- The serializers of a table are those that its declarations describe, in order, if they convert types of distinct names. -/
theorem collect_eq_ok_iff :
    (SerializerRegistry.collect table.symbols).result = .ok registry ↔
      ∃ serializers, List.Forall₂ table.IsSerializer (table.annotatedWith Library.navTypeSerializer) serializers ∧
        registry = .ofSerializers serializers ∧ (serializers.map (·.value.qualified)).Nodup := by
  rw [SerializerRegistry.result_collect_eq_ok_iff, annotatedWith_symbols]
  simp only [mapM_read_eq_ok_iff]

/-- Serializers convert types of distinct names exactly if the declarations that describe them do. -/
theorem nodup_values_iff {declarations : List Declaration} {serializers : List Serializer}
    (h : List.Forall₂ table.IsSerializer declarations serializers) :
    (serializers.map (·.value.qualified)).Nodup ↔ declarations.Pairwise fun declaration other =>
      ∀ value value', table.Converts declaration value → table.Converts other value' → value.qualified ≠ value'.qualified := by
  rw [List.Nodup, List.pairwise_map]
  refine (pairwise_iff_of_forall₂ (fun {declaration other serializer later} hserializer hlater => ?_) h).symm
  constructor
  · intro hdistinct
    exact hdistinct _ _ hserializer.converts hlater.converts
  · intro hne value value' hvalue hvalue'
    rw [hvalue.unique hserializer.converts, hvalue'.unique hlater.converts]
    exact hne

/-- All declarations that are marked as serializers can be registered exactly if each can be used as one and no two convert types of one name, and a
registry holds the first serializer of each type whatever is registered besides. -/
theorem serializers_exact (table : SymbolTable) : table.RegistersSerializers := by
  refine ⟨⟨?collected, ?collects⟩, ?held⟩
  case collected =>
    rintro ⟨registry, hcollect⟩
    obtain ⟨serializers, hdescribed, -, hdistinct⟩ := collect_eq_ok_iff.1 hcollect
    exact ⟨exists_serializers_iff.1 ⟨serializers, hdescribed⟩, (nodup_values_iff hdescribed).1 hdistinct⟩
  case collects =>
    rintro ⟨husable, hdistinct⟩
    obtain ⟨serializers, hdescribed⟩ := exists_serializers_iff.2 husable
    exact ⟨_, collect_eq_ok_iff.2 ⟨serializers, hdescribed, rfl, (nodup_values_iff hdescribed).2 hdistinct⟩⟩
  case held =>
    intro registry hcollect
    obtain ⟨serializers, hdescribed, rfl, hdistinct⟩ := collect_eq_ok_iff.1 hcollect
    have hfirst := firstOfEach_of_freshAfter (freshAfter_nil_iff.2 hdistinct)
    refine ⟨serializers, hdescribed, fun offers => ?_⟩
    have hafter := SerializerRegistry.afterOffers_firstOfEach serializers offers
    rw [hfirst] at hafter
    rw [hafter]
    exact SerializerRegistry.holdsFirst_firstOfEach (serializers ++ offers)

/-- Serializers for a class and for an alias of it convert the same type, so not both are registered. -/
example :
    let serializerOf (name value : String) : Declaration :=
      { qualified := name
        kind := .object
        annotations := [.plain Library.navTypeSerializer]
        supertypes := [{ qualified := Library.serializerInterface, nullable := false, arguments := [.plain value] }] }
    let table : SymbolTable :=
      { declarations := [
          { qualified := "app.Color", kind := .plainClass },
          { qualified := "app.Tint", kind := .typeAlias, aliased? := some (.plain "app.Color") },
          serializerOf "app.ColorSerializer" "app.Color",
          serializerOf "app.TintSerializer" "app.Tint"] }
    (SerializerRegistry.collect table.symbols).result.toOption.isNone = true := by
  decide +kernel

end SymbolTable

end NavGen
