import NavGen.Name

/-!
# Types in the navigation model

A type as it is used on a parameter or a result, with its type arguments, and the primitive types that the navigation runtime reads from
a route without a converter.
-/

namespace NavGen

/-- The use of a type. -/
structure TypeUse where
  name : Name
  nullable : Bool
  arguments : List TypeUse

namespace TypeUse

mutual

/-- The type written with simple names. -/
def code : TypeUse → String
  | ⟨name, nullable, arguments⟩ =>
    name.simple
      ++ (if arguments.isEmpty then "" else "<" ++ ", ".intercalate (codes arguments) ++ ">")
      ++ (if nullable then "?" else "")

/-- The types of a list written with simple names. -/
def codes : List TypeUse → List String
  | [] => []
  | type :: rest => type.code :: codes rest

end

mutual

/-- Every name in a type, outermost first. -/
def names : TypeUse → List Name
  | ⟨name, _, arguments⟩ => name :: namesOfAll arguments

/-- Every name in a list of types, in order. -/
def namesOfAll : List TypeUse → List Name
  | [] => []
  | type :: rest => type.names ++ namesOfAll rest

end

end TypeUse

/-- An argument type that the navigation runtime knows. -/
inductive Primitive where
  | boolean | float | int | long | string
  deriving DecidableEq

namespace Primitive

/-- All primitive types, in the order of their names. -/
def all : List Primitive := [.boolean, .float, .int, .long, .string]

/-- The simple name of a primitive type. -/
def name : Primitive → String
  | .boolean => "Boolean"
  | .float => "Float"
  | .int => "Int"
  | .long => "Long"
  | .string => "String"

/-- The qualified name of a primitive type. -/
def qualified (primitive : Primitive) : String :=
  "kotlin." ++ primitive.name

/-- The qualified name of the array type of a primitive. There is no array type of its own for strings, they use the generic one. -/
def arrayQualified : Primitive → String
  | .string => "kotlin.Array"
  | primitive => "kotlin." ++ primitive.name ++ "Array"

/-- The primitive type with a qualified name. -/
def ofQualified? (qualified : String) : Option Primitive :=
  all.find? (·.qualified == qualified)

/-- The primitive type whose array type has a qualified name. -/
def ofArrayQualified? (qualified : String) : Option Primitive :=
  all.find? (·.arrayQualified == qualified)

end Primitive

end NavGen
