import NavGen.Symbol.Table

/-!
# Names of types in declarations

All that a pass looks up in a table are names of types that declarations are written with: those of parameters, of supertypes, of what aliases stand for
and of what annotations hold, with their type arguments at any depth. The classes of annotations are no such names. They are not looked up, but
searched for among the annotations of all declarations.
-/

namespace NavGen

mutual

/-- The names that a type is written with, its own before those of its type arguments. -/
def TypeExpr.names : TypeExpr → List String
  | ⟨qualified, _, arguments⟩ => qualified :: TypeExpr.namesOf arguments

/-- The names that the types of a list are written with. -/
def TypeExpr.namesOf : List TypeExpr → List String
  | [] => []
  | type :: rest => type.names ++ TypeExpr.namesOf rest

end

namespace AnnotationValue

mutual

/-- The names of types that the value of an annotation's argument is written with. -/
def typeNames : AnnotationValue → List String
  | .bool _ | .int _ | .text _ | .entry _ => []
  | .type value => value.names
  | .nested _ typeArguments arguments => TypeExpr.namesOf typeArguments ++ argumentTypeNames arguments
  | .array items => itemTypeNames items

/-- The names of types that the items of an array are written with. -/
def itemTypeNames : List AnnotationValue → List String
  | [] => []
  | item :: rest => item.typeNames ++ itemTypeNames rest

/-- The names of types that named arguments are written with. -/
def argumentTypeNames : List (String × AnnotationValue) → List String
  | [] => []
  | (_, argument) :: rest => argument.typeNames ++ argumentTypeNames rest

end

end AnnotationValue

/-- The names of types that an annotation is written with. -/
def AnnotationExpr.typeNames (written : AnnotationExpr) : List String :=
  written.value.typeNames

namespace Declaration

/-- The names of types that a declaration is written with, its annotations left aside. -/
def typeNames (declaration : Declaration) : List String :=
  TypeExpr.namesOf (declaration.parameters.map (·.type)) ++ TypeExpr.namesOf declaration.supertypes
    ++ TypeExpr.namesOf declaration.aliased?.toList

/-- The names of types that a declaration mentions anywhere. -/
def mentions (declaration : Declaration) : List String :=
  declaration.typeNames ++ declaration.annotations.flatMap (·.typeNames)

end Declaration

/-- The names of types that are mentioned anywhere in a table. -/
def SymbolTable.mentions (table : SymbolTable) : List String :=
  table.declarations.flatMap (·.mentions)

/-! ## Types among the names -/

namespace TypeExpr

theorem names_eq (type : TypeExpr) : type.names = type.qualified :: namesOf type.arguments := by
  cases type
  rw [names]

theorem qualified_mem_names (type : TypeExpr) : type.qualified ∈ type.names := by
  rw [names_eq]
  exact List.mem_cons_self

theorem names_subset_namesOf {type : TypeExpr} {types : List TypeExpr} (h : type ∈ types) : type.names ⊆ namesOf types := by
  induction types with
  | nil => contradiction
  | cons first rest ih =>
    rw [namesOf]
    rcases List.mem_cons.1 h with rfl | h
    · exact List.subset_append_left _ _
    · exact List.subset_append_of_subset_right _ (ih h)

/-- The names of a type argument are among those of the type. -/
theorem names_subset_of_mem_arguments {type argument : TypeExpr} (h : argument ∈ type.arguments) : argument.names ⊆ type.names := by
  rw [names_eq type]
  exact List.subset_cons_of_subset _ (names_subset_namesOf h)

end TypeExpr

theorem AnnotationValue.typeNames_subset_argumentTypeNames {name : String} {value : AnnotationValue}
    {arguments : List (String × AnnotationValue)} (h : (name, value) ∈ arguments) : value.typeNames ⊆ argumentTypeNames arguments := by
  induction arguments with
  | nil => contradiction
  | cons first rest ih =>
    obtain ⟨other, argument⟩ := first
    rw [argumentTypeNames]
    rcases List.mem_cons.1 h with heq | h
    · cases heq
      exact List.subset_append_left _ _
    · exact List.subset_append_of_subset_right _ (ih h)

/-- The names in an argument are among those of the annotation. -/
theorem AnnotationExpr.typeNames_subset_of_argument? {written : AnnotationExpr} {name : String} {value : AnnotationValue}
    (h : written.argument? name = some value) : value.typeNames ⊆ written.typeNames := by
  obtain ⟨⟨other, found⟩, hfound, rfl⟩ := Option.map_eq_some_iff.1 h
  have hmem : (other, found) ∈ written.arguments := List.mem_reverse.1 (List.mem_of_find?_eq_some hfound)
  exact List.subset_append_of_subset_right _ (AnnotationValue.typeNames_subset_argumentTypeNames hmem)

namespace Declaration

variable {declaration : Declaration}

theorem names_subset_of_mem_parameters {parameter : Parameter} (h : parameter ∈ declaration.parameters) :
    parameter.type.names ⊆ declaration.typeNames :=
  List.subset_append_of_subset_left _
    (List.subset_append_of_subset_left _ (TypeExpr.names_subset_namesOf (List.mem_map_of_mem h)))

theorem names_subset_of_mem_supertypes {type : TypeExpr} (h : type ∈ declaration.supertypes) : type.names ⊆ declaration.typeNames :=
  List.subset_append_of_subset_left _ (List.subset_append_of_subset_right _ (TypeExpr.names_subset_namesOf h))

theorem names_subset_of_aliased? {type : TypeExpr} (h : declaration.aliased? = some type) : type.names ⊆ declaration.typeNames :=
  List.subset_append_of_subset_right _ (TypeExpr.names_subset_namesOf (Option.mem_toList.2 h))

theorem typeNames_subset_mentions (declaration : Declaration) : declaration.typeNames ⊆ declaration.mentions :=
  List.subset_append_left _ _

theorem typeNames_subset_of_mem_annotations {written : AnnotationExpr} (h : written ∈ declaration.annotations) :
    written.typeNames ⊆ declaration.mentions :=
  List.subset_append_of_subset_right _ fun _ hname => List.mem_flatMap.2 ⟨written, h, hname⟩

end Declaration

end NavGen
