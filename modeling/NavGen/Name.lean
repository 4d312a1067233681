import NavGen.Order
import NavGen.Text.Search

/-!
# Names of declarations

A declaration is known by its qualified name and called by its simple name. The package of a name is what is left of the qualified name
when the simple name and the dot before it are taken off its end.
-/

namespace NavGen

/-- What follows the last dot of a qualified name. -/
def lastSegment (qualified : String) : String :=
  match Text.splitLast '.' qualified with
  | some (_, simple) => simple
  | none => qualified

/-- A declared type or member that generated code can refer to. -/
structure Name where
  simple : String
  qualified : String
  deriving DecidableEq

namespace Name

/-- The name with the last segment of a qualified name as its simple name. -/
def ofQualified (qualified : String) : Name :=
  { simple := lastSegment qualified, qualified }

/-- The enclosing package, or the enclosing class of a nested declaration. -/
def package (name : Name) : String :=
  match Text.beforeEnding name.simple name.qualified with
  | some enclosing => (Text.beforeEnding "." enclosing).getD ""
  | none => ""

/-- Names are ordered by their simple names, then by their qualified names. -/
def le (a b : Name) : Bool :=
  decide (a.simple < b.simple) || (decide (a.simple = b.simple) && decide (a.qualified ≤ b.qualified))

end Name

/-- The distinct names of a list, sorted. -/
def sortedNames (names : List Name) : List Name :=
  dropRepeats (sortBy Name.le names)

end NavGen
