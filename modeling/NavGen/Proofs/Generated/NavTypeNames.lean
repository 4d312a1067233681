import Mathlib.Data.List.Perm.Basic
import NavGen.Proofs.Generated.DeclaredNames

/-!
# Names of generated nav types

The files of the nav types share a package, so their properties have to differ. The check of a model compares the simple names of the value types
as they are written, which keeps the files apart. The properties, however, begin with those names in camel case, and properties for lists end in a
text of their own: names that differ can meet in camel case, and one of them can end like a list of another. If nav types are for single values, as
those of an assembled model are, then the properties are distinct exactly if neither happens.
-/

namespace NavGen

/-- The name of a value type as the properties of its nav types begin. -/
def ValueType.camelName (type : ValueType) : String :=
  Text.camel type.value.simple

/-- The properties that the files of all nav types declare, in order. -/
def Generation.navTypeProperties (generation : Generation) : List String :=
  generation.model.valueTypes.flatMap fun type => (generation.valueTypeSource type).properties

/-- Whether the nav types of a model can be told apart by their properties. -/
structure Model.NavTypesApart (model : Model) : Prop where
  /-- No nav type is for a list itself: where a value type is used in lists of lists, this is not its first use. -/
  single : ∀ type ∈ model.valueTypes, type.navType.IsSingle
  /-- No two value types are called the same in camel case. -/
  camelNames : (model.valueTypes.map (·.camelName)).Nodup
  /-- No value type is called like lists of another. -/
  lists : ∀ type ∈ model.valueTypes, ∀ listed ∈ model.valueTypes, listed.inLists = true → type.camelName ≠ listed.camelName ++ "ArrayList"

/-! ## The properties of one value type -/

/-- A nav type that needs a value type and is not for single values is that of a list. -/
theorem NavType.exists_eq_list {navType : NavType} {value : Name} (hvalue : navType.generatedFor? = some value)
    (hsingle : ¬navType.IsSingle) : ∃ element, navType = .list element := by
  cases navType with
  | list element => exact ⟨element, rfl⟩
  | primitiveArray _ => contradiction
  | _ => exact absurd trivial hsingle

/-- A nav type that is for a list itself is called like the nav type for lists beside it. -/
theorem ValueType.propertyName_of_navType_eq_list {type : ValueType} (hvalue : type.navType.generatedFor? = some type.value)
    {element : NavType} (hlist : type.navType = .list element) (package : String) :
    type.propertyName package = type.listPropertyName := by
  rw [hlist, NavType.generatedFor?] at hvalue
  rw [propertyName, listPropertyName, hlist]
  cases element with
  | primitive _ => contradiction
  | _ =>
    rw [NavType.instanceName, NavType.generatedInstance, hvalue]
    · rfl
    all_goals simp

namespace Generation

variable {generation : Generation}

/-! ## The properties of all value types -/

/-- Up to order, there is a property for each value type, and one for each that is asked for in lists. -/
theorem perm_navTypeProperties (generation : Generation) :
    generation.navTypeProperties.Perm
      (generation.model.valueTypes.map (·.propertyName generation.package) ++
        (generation.model.valueTypes.filter (·.inLists)).map (·.listPropertyName)) := by
  have hlists : (generation.model.valueTypes.filter (·.inLists)).map (·.listPropertyName) =
      generation.model.valueTypes.flatMap fun type => if type.inLists then [type.listPropertyName] else [] := by
    induction generation.model.valueTypes with
    | nil => rfl
    | cons type rest ih =>
      rw [List.flatMap_cons, ← ih]
      cases hinLists : type.inLists <;> simp [hinLists]
  simp only [navTypeProperties, properties_valueTypeSource]
  rw [hlists]
  exact (List.map_append_flatMap_perm _ _ _).symm

/-- So the properties are distinct if those of single values are, those of lists are, and none of the former is one of the latter. -/
theorem nodup_navTypeProperties_iff_parts :
    generation.navTypeProperties.Nodup ↔
      (generation.model.valueTypes.map (·.propertyName generation.package)).Nodup ∧
        ((generation.model.valueTypes.filter (·.inLists)).map (·.listPropertyName)).Nodup ∧
          ∀ type ∈ generation.model.valueTypes, ∀ listed ∈ generation.model.valueTypes, listed.inLists = true →
            type.propertyName generation.package ≠ listed.listPropertyName := by
  rw [generation.perm_navTypeProperties.nodup_iff, List.nodup_append]
  simp only [List.forall_mem_map, List.mem_filter, and_imp]

/-- Properties for lists are distinct as soon as the names they begin with are. -/
theorem nodup_map_listPropertyName (h : (generation.model.valueTypes.map (·.camelName)).Nodup) :
    ((generation.model.valueTypes.filter (·.inLists)).map (·.listPropertyName)).Nodup := by
  have hlisted : ((generation.model.valueTypes.filter (·.inLists)).map (·.camelName)).Nodup := h.sublist (List.filter_sublist.map _)
  have hmap : (generation.model.valueTypes.filter (·.inLists)).map (·.listPropertyName) =
      ((generation.model.valueTypes.filter (·.inLists)).map (·.camelName)).map (· ++ "ArrayListNavType") := by
    rw [List.map_map]
    rfl
  rw [hmap]
  exact hlisted.map fun first second heq => String.append_left_inj _ |>.1 heq

/-- If nav types are for single values, then their properties are distinct exactly if the names they begin with are. -/
theorem nodup_map_propertyName_iff (hsingle : ∀ type ∈ generation.model.valueTypes, type.navType.IsSingle) :
    (generation.model.valueTypes.map (·.propertyName generation.package)).Nodup ↔
      (generation.model.valueTypes.map (·.camelName)).Nodup := by
  have hmap : generation.model.valueTypes.map (·.propertyName generation.package) =
      (generation.model.valueTypes.map (·.camelName)).map (· ++ "NavType") := by
    rw [List.map_map]
    exact List.map_congr_left fun type hmem => propertyName_of_isSingle hmem (hsingle type hmem)
  rw [hmap]
  exact List.nodup_map_iff fun first second heq => String.append_left_inj _ |>.1 heq

/-- The property of a value type is that for lists of another exactly if the name of the one is that of lists of the other. -/
theorem propertyName_eq_listPropertyName_iff {type listed : ValueType} (hmem : type ∈ generation.model.valueTypes)
    (hsingle : type.navType.IsSingle) :
    type.propertyName generation.package = listed.listPropertyName ↔ type.camelName = listed.camelName ++ "ArrayList" := by
  have hending : "ArrayListNavType" = "ArrayList" ++ "NavType" := rfl
  rw [propertyName_of_isSingle hmem hsingle, ValueType.listPropertyName, hending, ← String.append_assoc, String.append_left_inj]
  rfl

/-- A nav type that is for a list itself would leave its file with two properties of one name. -/
theorem isSingle_of_nodup (h : generation.navTypeProperties.Nodup) {type : ValueType} (hmem : type ∈ generation.model.valueTypes) :
    type.navType.IsSingle := by
  obtain ⟨-, -, hdisjoint⟩ := nodup_navTypeProperties_iff_parts.1 h
  have hvalue := Model.generatedFor?_of_mem_valueTypes hmem
  by_contra hsingle
  obtain ⟨element, hlist⟩ := NavType.exists_eq_list hvalue hsingle
  have hinLists := Model.inLists_of_navType_eq_list hmem hlist
  exact hdisjoint type hmem type hmem hinLists (ValueType.propertyName_of_navType_eq_list hvalue hlist _)

/-! ## Distinct names -/

/-- The generated nav types have distinct names, whatever the package, exactly if the model tells them apart. -/
theorem nodup_navTypeProperties_iff (generation : Generation) :
    generation.navTypeProperties.Nodup ↔ generation.model.NavTypesApart := by
  constructor
  · intro h
    have hsingle : ∀ type ∈ generation.model.valueTypes, type.navType.IsSingle := fun type hmem => isSingle_of_nodup h hmem
    obtain ⟨hnames, -, hdisjoint⟩ := nodup_navTypeProperties_iff_parts.1 h
    refine ⟨hsingle, (nodup_map_propertyName_iff hsingle).1 hnames, fun type hmem listed hlisted hinLists heq => ?_⟩
    exact hdisjoint type hmem listed hlisted hinLists ((propertyName_eq_listPropertyName_iff hmem (hsingle type hmem)).2 heq)
  · rintro ⟨hsingle, hnames, hlists⟩
    refine nodup_navTypeProperties_iff_parts.2 ⟨(nodup_map_propertyName_iff hsingle).2 hnames, nodup_map_listPropertyName hnames, ?_⟩
    intro type hmem listed hlisted hinLists heq
    exact hlists type hmem listed hlisted hinLists ((propertyName_eq_listPropertyName_iff hmem (hsingle type hmem)).1 heq)

/-- A screen that is given two entries of enumerations that are called the same in camel case. -/
def browserTable : SymbolTable :=
  { declarations := [
      { qualified := "app.link.Url", kind := .enumClass },
      { qualified := "app.net.URL", kind := .enumClass },
      { qualified := "app.BrowserScreen"
        kind := .function
        annotations := [{ type := Library.destination, typeArguments := [], arguments := [("start", .bool true)] }]
        parameters := [
          { name := "shown", type := .plain "app.net.URL", default? := none },
          { name := "shared", type := .plain "app.link.Url", default? := none }] }] }

/-- That the nav types of a valid model have distinct names is false in general: those of `URL` and of `Url` are both called `urlNavType`. -/
theorem nodup_navTypeProperties_false :
    ¬∀ generation : Generation, generation.model.isValid = true → generation.navTypeProperties.Nodup := by
  intro hdistinct
  have hfacts : (Model.assemble? browserTable.symbols).result.toOption.any (fun model? => model?.any fun model =>
      decide (model.isValid = true ∧
        navTypeProperties { settings := { package := "app", moduleName? := none }, model } = ["urlNavType", "urlNavType"])) = true := by
    decide +kernel
  cases hassembled : (Model.assemble? browserTable.symbols).result with
  | error error =>
    rw [hassembled] at hfacts
    contradiction
  | ok model? =>
    rw [hassembled] at hfacts
    cases model? with
    | none => contradiction
    | some model =>
      obtain ⟨hvalid, hproperties⟩ := of_decide_eq_true hfacts
      have hnodup := hdistinct { settings := { package := "app", moduleName? := none }, model } hvalid
      rw [hproperties] at hnodup
      contradiction

end Generation

end NavGen
