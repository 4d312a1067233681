import NavGen.Proofs.Pass.NavTypes
import NavGen.Proofs.Symbol.AliasChains

/-!
# Serializers behind aliases

A serializer may be registered for a type that is not declared, which is then taken as written, and an argument may be of an alias that stands for
such a type. But aliases are followed from one declaration to the next. If the type at the end of them is declared, then the serializer of that type
is found. If it is not, then there is no class to look up a serializer for, and the argument is refused although its type has one.
-/

namespace NavGen

/-! ## Ends of aliases -/

namespace SymbolTable

/-- Whether a number of declared aliases leads from a type to a name, be anything of that name declared or not. -/
inductive EndsAt (table : SymbolTable) (type : TypeExpr) : (aliases : Nat) → String → Prop where
  | itself : EndsAt table type 0 type.qualified
  | behind {aliases : Nat} {last : Declaration} {target : TypeExpr} (leads : table.LeadsTo type aliases last) (isAlias : last.kind = .typeAlias)
      (stands : last.aliased? = some target) : EndsAt table type (aliases + 1) target.qualified

/-- Whether a name is not that of an alias, be it declared or not. -/
def NoAlias (table : SymbolTable) (qualified : String) : Prop :=
  ∀ declaration, table.find? qualified = some declaration → declaration.kind ≠ .typeAlias

variable {table : SymbolTable} {type : TypeExpr} {aliases : Nat} {value : String}

/-- One alias more leads on. -/
theorem AliasChain.snoc {first last next : Declaration} (h : table.AliasChain aliases first last) (step : table.AliasStep last next) :
    table.AliasChain (aliases + 1) first next := by
  induction h with
  | here => exact .through step (.here next)
  | through before _ ih => exact .through before (ih step)

/-- Aliases that end at the name of a declaration lead to it. -/
theorem EndsAt.leadsTo (h : table.EndsAt type aliases value) {declaration : Declaration} (hfind : table.find? value = some declaration) :
    table.LeadsTo type aliases declaration := by
  cases h with
  | itself => exact ⟨declaration, hfind, .here declaration⟩
  | behind leads isAlias stands =>
    obtain ⟨first, hfirst, hchain⟩ := leads
    exact ⟨first, hfirst, hchain.snoc ⟨isAlias, _, stands, hfind⟩⟩

/-- Aliases that end at a name of no declaration break off. -/
theorem EndsAt.breaksOff (h : table.EndsAt type aliases value) (hfind : table.find? value = none) : table.BreaksOff type := by
  cases h with
  | itself => exact .inl hfind
  | behind leads isAlias stands =>
    refine .inr ⟨_, _, leads, isAlias, fun target htarget => ?_⟩
    rw [Option.some.inj (htarget.symm.trans stands)]
    exact hfind

/-- A type that aliases lead on from is an alias. -/
theorem EndsAt.exists_alias (h : table.EndsAt type (aliases + 1) value) :
    ∃ declaration, table.find? type.qualified = some declaration ∧ declaration.kind = .typeAlias := by
  cases h with
  | behind leads isAlias _ =>
    obtain ⟨first, hfirst, hchain⟩ := leads
    cases hchain with
    | here => exact ⟨_, hfirst, isAlias⟩
    | through step _ => exact ⟨_, hfirst, step.1⟩

/-- The class of a type is what its aliases end at, if these are not too many. -/
theorem EndsAt.classOf?_eq (h : table.EndsAt type aliases value) (hlt : aliases < maxAliases) {declaration : Declaration}
    (hfind : table.find? value = some declaration) (hkind : declaration.kind ≠ .typeAlias) : table.classOf? type = some declaration :=
  classOf?_eq_some_iff.2 ⟨aliases, hlt, h.leadsTo hfind, hkind⟩

end SymbolTable

/-! ## What is found behind aliases -/

namespace TypeContext

variable {context : TypeContext} {type : TypeExpr} {serializer : Serializer}

/-- A type that has a serializer by its own name is mapped by it. -/
theorem navType_of_find? (hmapped : type.MappedByClass) (hserializer : context.registry.find? type.qualified = some serializer) :
    context.navType type = .ok (.custom serializer) := by
  rw [navType_of_mappedByClass hmapped, singleNavType, hmapped.primitive]
  dsimp only
  rw [hserializer]

/-- A type whose class has a serializer is mapped by it. -/
theorem navType_of_classOf? (hregistry : context.registry.AliasFree context.table) (hmapped : type.MappedByClass) {declaration : Declaration}
    (hclass : context.table.classOf? type = some declaration) (hserializer : context.registry.find? declaration.qualified = some serializer) :
    context.navType type = .ok (.custom serializer) := by
  have hsame := toOption_navType hregistry hmapped hclass
  rw [classNavType?_of_find? hserializer] at hsame
  cases hread : context.navType type with
  | error error =>
    rw [hread] at hsame
    contradiction
  | ok navType =>
    rw [hread] at hsame
    rw [Option.some.inj hsame]

/-- A type that has no serializer by its own name and no class is refused. -/
theorem navType_of_classOf?_eq_none (hmapped : type.MappedByClass) (hwritten : context.registry.find? type.qualified = none)
    (hclass : context.table.classOf? type = none) : context.navType type = context.fail (.unsupportedType context.argument type.qualified) := by
  rw [navType_of_mappedByClass hmapped, singleNavType, hmapped.primitive]
  dsimp only
  rw [hwritten]
  dsimp only
  rw [hclass, Option.bind_none]

end TypeContext

namespace SerializerRegistry

/-- Whether a type that aliases lead on from, fewer than `maxAliases`, is mapped by the serializer of what they end at, whoever declares the
argument. -/
def ReachedBehindAliases (registry : SerializerRegistry) (table : SymbolTable) (type : TypeExpr) : Prop :=
  ∀ aliases < SymbolTable.maxAliases, ∀ value, table.EndsAt type aliases value → table.NoAlias value →
    ∀ serializer, registry.find? value = some serializer →
      ∀ owner argument, (TypeContext.mk table registry owner argument).navType type = .ok (.custom serializer)

/-- Whether aliases lead from a type to one that is not declared but has a serializer. -/
def HasSerializerOfUndeclared (registry : SerializerRegistry) (table : SymbolTable) (type : TypeExpr) : Prop :=
  ∃ aliases, aliases + 1 < SymbolTable.maxAliases ∧ ∃ value, table.EndsAt type (aliases + 1) value ∧ table.find? value = none ∧
    ∃ serializer, registry.find? value = some serializer

variable {registry : SerializerRegistry} {table : SymbolTable} {type : TypeExpr}

/-- An alias has no serializer by its own name. -/
theorem AliasFree.find?_eq_none (h : registry.AliasFree table) {declaration : Declaration} (hfind : table.find? type.qualified = some declaration)
    (hkind : declaration.kind = .typeAlias) : registry.find? type.qualified = none := by
  refine Option.eq_none_iff_forall_ne_some.2 fun serializer hserializer => ?_
  exact h _ serializer hserializer declaration hfind hkind

/-- The serializer of a type that is not declared is not found behind aliases. -/
theorem not_reachedBehindAliases (hregistry : registry.AliasFree table) (hmapped : type.MappedByClass)
    (h : registry.HasSerializerOfUndeclared table type) : ¬registry.ReachedBehindAliases table type := by
  obtain ⟨aliases, hlt, value, hends, hundeclared, serializer, hserializer⟩ := h
  intro hreached
  have hnoAlias : table.NoAlias value := by
    intro declaration hfind
    rw [hundeclared] at hfind
    contradiction
  have hcustom := hreached _ hlt value hends hnoAlias serializer hserializer "" ""
  obtain ⟨first, hfirst, hkind⟩ := hends.exists_alias
  have hclass := SymbolTable.classOf?_eq_none_of_breaksOff (hends.breaksOff hundeclared)
  rw [TypeContext.navType_of_classOf?_eq_none hmapped (hregistry.find?_eq_none hfirst hkind) hclass] at hcustom
  contradiction

/-- Aliases reach the serializers of a table exactly if they do not lead to a type that is not declared but has a serializer. -/
theorem reachedBehindAliases_iff {symbols : Symbols} (hcollect : (collect symbols).result = .ok registry) (hmapped : type.MappedByClass) :
    registry.ReachedBehindAliases symbols.table type ↔ ¬registry.HasSerializerOfUndeclared symbols.table type := by
  have haliasFree := aliasFree_of_collect hcollect
  constructor
  · intro hreached hundeclared
    exact not_reachedBehindAliases haliasFree hmapped hundeclared hreached
  · intro hdeclared aliases hlt value hends hnoAlias serializer hserializer owner argument
    cases hfind : symbols.table.find? value with
    | some declaration =>
      have hclass := hends.classOf?_eq hlt hfind (hnoAlias declaration hfind)
      have hname : declaration.qualified = value := (mem_of_find?_key hfind).2
      exact TypeContext.navType_of_classOf? haliasFree hmapped hclass (hname ▸ hserializer)
    | none =>
      cases aliases with
      | zero =>
        cases hends
        exact TypeContext.navType_of_find? hmapped hserializer
      | succ aliases => exact absurd ⟨aliases, hlt, value, hends, hfind, serializer, hserializer⟩ hdeclared

/-- An alias of a class of a library. -/
def accent : Declaration :=
  { qualified := "app.Accent", kind := .typeAlias, aliased? := some (.plain "lib.Color") }

/-- The alias and a serializer for the class, behind what is declared of the library. -/
def accentTable (library : List Declaration) : SymbolTable :=
  { declarations := library ++ [
      accent,
      { qualified := "app.ColorSerializer"
        kind := .object
        annotations := [.plain Library.navTypeSerializer]
        supertypes := [{ qualified := Library.serializerInterface, nullable := false, arguments := [.plain "lib.Color"] }] }] }

theorem endsAt_accent (h : table.find? "app.Accent" = some accent) : table.EndsAt (.plain "app.Accent") 1 "lib.Color" := by
  change table.EndsAt (.plain "app.Accent") (0 + 1) (TypeExpr.plain "lib.Color").qualified
  exact .behind ⟨accent, h, .here accent⟩ rfl rfl

/-- The alias of a class that is declared is mapped by its serializer. -/
theorem reachedBehindAliases_iff_accent :
    let table := accentTable [{ qualified := "lib.Color", kind := .plainClass }]
    ∃ registry, (collect table.symbols).result = .ok registry ∧ (TypeExpr.plain "app.Accent").MappedByClass ∧
      registry.ReachedBehindAliases table (.plain "app.Accent") ∧
      table.EndsAt (.plain "app.Accent") 1 "lib.Color" ∧ table.NoAlias "lib.Color" ∧ (registry.find? "lib.Color").isSome = true := by
  intro table
  obtain ⟨registry, hcollect, hserializer⟩ := exists_ok_of_any (collect table.symbols).result
    (fun registry => (registry.find? "lib.Color").isSome = true) (by decide +kernel)
  have hmapped : (TypeExpr.plain "app.Accent").MappedByClass := ⟨by decide, by decide, by decide⟩
  have hclass : table.classOf? (.plain "app.Accent") = some { qualified := "lib.Color", kind := .plainClass } := rfl
  refine ⟨registry, hcollect, hmapped, (reachedBehindAliases_iff hcollect hmapped).2 ?_, endsAt_accent rfl, ?_, hserializer⟩
  · rintro ⟨aliases, -, value, hends, hundeclared, -⟩
    have hnone := SymbolTable.classOf?_eq_none_of_breaksOff (hends.breaksOff hundeclared)
    rw [show table.symbols.table = table from rfl, hclass] at hnone
    contradiction
  · rintro declaration hfind
    cases hfind
    decide

/-- That aliases reach all serializers is false: the class of the library may not be declared. -/
theorem reachedBehindAliases_false :
    ¬∀ (table : SymbolTable) (registry : SerializerRegistry), (collect table.symbols).result = .ok registry →
      ∀ type : TypeExpr, type.MappedByClass → registry.ReachedBehindAliases table type := by
  intro hall
  obtain ⟨registry, hcollect, hserializer⟩ := exists_ok_of_any (collect (accentTable []).symbols).result
    (fun registry => (registry.find? "lib.Color").isSome = true) (by decide +kernel)
  have hmapped : (TypeExpr.plain "app.Accent").MappedByClass := ⟨by decide, by decide, by decide⟩
  refine not_reachedBehindAliases (aliasFree_of_collect hcollect) hmapped ?_ (hall _ registry hcollect _ hmapped)
  exact ⟨0, by decide, "lib.Color", endsAt_accent rfl, rfl, Option.isSome_iff_exists.1 hserializer⟩

end SerializerRegistry

end NavGen
