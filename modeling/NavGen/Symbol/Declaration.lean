import NavGen.Symbol.Annotation

/-!
# Declarations

What a compiler knows of the declarations of a module, independent of the language they are written in, as far as navigation needs it.
-/

namespace NavGen

/-- The kinds of declarations. -/
inductive DeclarationKind where
  | annotationClass | plainClass | enumClass | function | interface | object | property | typeAlias
  deriving DecidableEq

namespace DeclarationKind

/-- The word that symbol tables use for a kind. -/
def word : DeclarationKind → String
  | .annotationClass => "annotation_class"
  | .plainClass => "class"
  | .enumClass => "enum"
  | .function => "function"
  | .interface => "interface"
  | .object => "object"
  | .property => "property"
  | .typeAlias => "type_alias"

/-- All kinds, in the order of their words. -/
def all : List DeclarationKind :=
  [.annotationClass, .plainClass, .enumClass, .function, .interface, .object, .property, .typeAlias]

end DeclarationKind

/-- A parameter of a function or of a primary constructor. -/
structure Parameter where
  name : String
  type : TypeExpr
  /-- The source text of the declared default value. -/
  default? : Option String

/-- A declaration. -/
structure Declaration where
  qualified : String
  kind : DeclarationKind
  annotations : List AnnotationExpr := []
  parameters : List Parameter := []
  /-- The direct supertypes. -/
  supertypes : List TypeExpr := []
  /-- What an alias stands for. -/
  aliased? : Option TypeExpr := none
  /-- The source that holds the declaration. -/
  sourceId? : Option String := none

namespace Declaration

/-- The last segment of the qualified name. -/
def simpleName (declaration : Declaration) : String :=
  lastSegment declaration.qualified

/-- What stands before the last dot of the qualified name. -/
def package (declaration : Declaration) : String :=
  match Text.splitLast '.' declaration.qualified with
  | some (package, _) => package
  | none => ""

/-- The name of the declaration. -/
def name (declaration : Declaration) : Name :=
  Name.ofQualified declaration.qualified

/-- The annotations of a class, in the order written. -/
def annotationsOf (declaration : Declaration) (type : String) : List AnnotationExpr :=
  declaration.annotations.filter (·.type == type)

/-- The first annotation of a class. -/
def annotationOf? (declaration : Declaration) (type : String) : Option AnnotationExpr :=
  declaration.annotations.find? (·.type == type)

/-- The source of the declaration as a list of none or one. -/
def sourceIds (declaration : Declaration) : List String :=
  declaration.sourceId?.toList

end Declaration

end NavGen
