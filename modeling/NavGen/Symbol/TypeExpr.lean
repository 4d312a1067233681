import NavGen.TypeUse

/-!
# Types as declarations write them

A type at a place where source code names one: the qualified name as written, which may be that of an alias, whether it may be null, and its
type arguments.
-/

namespace NavGen

/-- A type as written. -/
structure TypeExpr where
  qualified : String
  nullable : Bool
  arguments : List TypeExpr
  deriving Inhabited

namespace TypeExpr

/-- A type without arguments that cannot be null. -/
def plain (qualified : String) : TypeExpr :=
  { qualified, nullable := false, arguments := [] }

/-- The name that a type starts with. -/
def name (type : TypeExpr) : Name :=
  Name.ofQualified type.qualified

mutual

/-- The type as the navigation model keeps it. -/
def typeUse : TypeExpr → TypeUse
  | ⟨qualified, nullable, arguments⟩ => ⟨Name.ofQualified qualified, nullable, typeUses arguments⟩

/-- The types of a list as the navigation model keeps them. -/
def typeUses : List TypeExpr → List TypeUse
  | [] => []
  | type :: rest => type.typeUse :: typeUses rest

end

end TypeExpr

end NavGen
