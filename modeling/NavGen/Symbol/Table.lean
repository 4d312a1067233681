import NavGen.Symbol.Declaration

/-!
# Symbol tables

The declarations of a module and of what it depends on, and the questions a pass asks about them. A qualified name stands for the first
declaration of that name. Inheritance may run in circles in a table, and aliases too; both searches end nevertheless.
-/

namespace NavGen

/-- The declarations that a pass can see. -/
structure SymbolTable where
  declarations : List Declaration

namespace SymbolTable

/-- Chains of this many aliases are not followed to their end. -/
def maxAliases : Nat := 16

/-- The declarations that carry an annotation of a class. -/
def annotatedWith (table : SymbolTable) (marker : String) : List Declaration :=
  table.declarations.filter fun declaration => declaration.annotations.any (·.type == marker)

/-- The declarations of a package. -/
def inPackage (table : SymbolTable) (package : String) : List Declaration :=
  table.declarations.filter (·.package == package)

/-- The declaration of a qualified name. -/
def find? (table : SymbolTable) (qualified : String) : Option Declaration :=
  table.declarations.find? (·.qualified == qualified)

/-- The declaration that an alias leads to in at most `steps` steps, the last of which finds that it is no alias. -/
def followAliases (table : SymbolTable) : (steps : Nat) → Declaration → Option Declaration
  | 0, _ => none
  | steps + 1, declaration =>
    if declaration.kind = .typeAlias then
      match declaration.aliased? with
      | none => none
      | some target =>
        match table.find? target.qualified with
        | none => none
        | some next => table.followAliases steps next
    else some declaration

/-- The declaration that a type stands for, once aliases are followed. -/
def classOf? (table : SymbolTable) (type : TypeExpr) : Option Declaration :=
  (table.find? type.qualified).bind (table.followAliases maxAliases)

/-- The declarations of a list that do not have a name. -/
def unnamed (declarations : List Declaration) (qualified : String) : List Declaration :=
  declarations.filter (·.qualified != qualified)

/-- The number of direct supertypes of all declarations of a list. -/
def supertypeCount : List Declaration → Nat
  | [] => 0
  | declaration :: rest => declaration.supertypes.length + supertypeCount rest

theorem supertypeCount_unnamed_le (declarations : List Declaration) (qualified : String) :
    supertypeCount (unnamed declarations qualified) ≤ supertypeCount declarations := by
  induction declarations with
  | nil => exact Nat.le_refl 0
  | cons first rest ih =>
    simp only [unnamed, List.filter_cons] at ih ⊢
    split
    · simp only [supertypeCount]
      omega
    · simp only [supertypeCount]
      omega

theorem supertypeCount_unnamed_find {declarations : List Declaration} {qualified : String} {found : Declaration}
    (h : declarations.find? (·.qualified == qualified) = some found) :
    supertypeCount (unnamed declarations qualified) + found.supertypes.length ≤ supertypeCount declarations := by
  induction declarations with
  | nil => simp at h
  | cons first rest ih =>
    have hle := supertypeCount_unnamed_le rest qualified
    simp only [unnamed] at ih hle ⊢
    by_cases hq : first.qualified = qualified
    · simp only [List.find?_cons, hq, beq_self_eq_true, Option.some.injEq] at h
      subst h
      simp only [List.filter_cons, hq, bne_self_eq_false, supertypeCount]
      rw [Nat.add_comm]
      exact Nat.add_le_add_left hle _
    · have hb : (first.qualified == qualified) = false := beq_eq_false_iff_ne.mpr hq
      simp only [List.find?_cons, hb] at h
      have := ih h
      simp only [List.filter_cons, bne, hb, Bool.not_false, if_true, supertypeCount]
      simp only [bne] at this
      omega

/-- The types of a queue and the supertypes behind them, nearest first, each name once. `seen` holds the names met so far, `pending` the
declarations whose supertypes were not queued yet. -/
def supertypesFrom (seen : List String) (pending : List Declaration) : (queue : List TypeExpr) → List TypeExpr
  | [] => []
  | type :: queue =>
    if type.qualified ∈ seen then supertypesFrom seen pending queue
    else
      match _h : pending.find? (·.qualified == type.qualified) with
      | none => type :: supertypesFrom (type.qualified :: seen) pending queue
      | some declaration =>
        type :: supertypesFrom (type.qualified :: seen) (unnamed pending type.qualified) (queue ++ declaration.supertypes)
termination_by queue => supertypeCount pending + queue.length
decreasing_by
  · simp
  · simp
  · have := supertypeCount_unnamed_find _h
    simp only [List.length_append, List.length_cons]
    omega

/-- Every supertype of a declaration, nearest first. -/
def supertypesOf (table : SymbolTable) (declaration : Declaration) : List TypeExpr :=
  supertypesFrom [] table.declarations declaration.supertypes

end SymbolTable

/-- What a pass works on: a table, and the declarations that the compiler reports for an annotation although it is not written on them,
by their names. -/
structure Symbols where
  table : SymbolTable
  alsoAnnotated : List (String × List String)

/-- The symbols of a table, where every annotation is written out. -/
def SymbolTable.symbols (table : SymbolTable) : Symbols :=
  { table, alsoAnnotated := [] }

/-- The declarations that carry an annotation, and then those it is reported for. -/
def Symbols.annotatedWith (symbols : Symbols) (marker : String) : List Declaration :=
  symbols.table.annotatedWith marker
    ++ ((symbols.alsoAnnotated.lookup marker).getD []).filterMap symbols.table.find?

end NavGen
