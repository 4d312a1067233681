import NavGen.Symbol.TypeExpr

/-!
# Annotations

An annotation as it is written on a declaration. It holds only the arguments that are written out; for the others the annotation class
declares defaults, which are not known here.
-/

namespace NavGen

/-- The value of an annotation's argument. -/
inductive AnnotationValue where
  | bool (value : Bool)
  | int (value : Int64)
  | text (value : String)
  /-- A class literal. -/
  | type (value : TypeExpr)
  /-- An entry of an enumeration, by its qualified name. -/
  | entry (qualified : String)
  /-- An annotation inside another, with the fields of `AnnotationExpr`. -/
  | nested (type : String) (typeArguments : List TypeExpr) (arguments : List (String × AnnotationValue))
  | array (items : List AnnotationValue)

/-- An annotation. -/
structure AnnotationExpr where
  /-- The qualified name of the annotation class. -/
  type : String
  typeArguments : List TypeExpr
  /-- The arguments by name. Of two with one name the later counts. -/
  arguments : List (String × AnnotationValue)

namespace AnnotationValue

/-- The truth value, if it is one. -/
def asBool? : AnnotationValue → Option Bool
  | .bool value => some value
  | _ => none

/-- The text, if it is one. -/
def asText? : AnnotationValue → Option String
  | .text value => some value
  | _ => none

/-- The class literal, if it is one. -/
def asType? : AnnotationValue → Option TypeExpr
  | .type value => some value
  | _ => none

/-- The annotation, if it is one. -/
def asAnnotation? : AnnotationValue → Option AnnotationExpr
  | .nested ty typeArguments arguments => some { type := ty, typeArguments, arguments }
  | _ => none

/-- The items of an array. Any other value stands for an array of itself. -/
def items : AnnotationValue → List AnnotationValue
  | .array items => items
  | value => [value]

end AnnotationValue

namespace AnnotationExpr

/-- An annotation without arguments. -/
def plain (type : String) : AnnotationExpr :=
  { type, typeArguments := [], arguments := [] }

/-- The annotation as a value inside another. -/
def value (written : AnnotationExpr) : AnnotationValue :=
  .nested written.type written.typeArguments written.arguments

/-- The simple name of the annotation class. -/
def simpleName (written : AnnotationExpr) : String :=
  lastSegment written.type

/-- The argument of a name, if it is written out. -/
def argument? (written : AnnotationExpr) (name : String) : Option AnnotationValue :=
  (written.arguments.reverse.find? (·.1 == name)).map (·.2)

/-- The annotation with an argument set. -/
def withArgument (written : AnnotationExpr) (name : String) (value : AnnotationValue) : AnnotationExpr :=
  { written with arguments := written.arguments.filter (·.1 != name) ++ [(name, value)] }

end AnnotationExpr

end NavGen
