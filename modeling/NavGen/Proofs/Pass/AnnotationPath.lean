import NavGen.Pass.AnnotationPath
import NavGen.Proofs.Pass.Results
import NavGen.Proofs.Symbol.Reordering

/-!
# Annotation paths of tables that differ in order

The walk from a marker to its targets takes declarations in the order of the table, and stops at the first annotation class that closes a cycle.
In another order it takes the same branches, so it stops in both or finds the same paths, in whatever order.
-/

namespace NavGen.SymbolTable.Reorders

variable {table table' : SymbolTable}

/-- The annotation classes have the same names in both tables. -/
theorem perm_annotationClassNames (h : table.Reorders table') :
    table.symbols.annotationClassNames.Perm table'.symbols.annotationClassNames :=
  (h.declarations.filter _).map _

/-- The walk from an annotation class of a chain ends alike, if the same classes are pending. -/
theorem endAlike_pathsFrom (h : table.Reorders table') (terminal : DeclarationKind) {pending pending' : List String}
    (hpending : pending.Perm pending') (chain : List String) (outer : List AnnotationExpr) (marker : String) :
    EndAlike List.Perm (table.symbols.pathsFrom terminal pending chain outer marker).result
      (table'.symbols.pathsFrom terminal pending' chain outer marker).result := by
  rw [Symbols.pathsFrom, Symbols.pathsFrom]
  refine Logged.flatMap_perm (h.perm_annotatedWith marker) fun declaration _ => ?_
  split
  · split
    · exact .error _ _
    · rename_i written _
      simp only [Logged.result_bind, Logged.result_debug]
      refine EndAlike.bind (EndAlike.of_eq rfl) fun _ _ _ => ?_
      by_cases hmem : declaration.qualified ∈ pending
      · rw [dif_pos hmem, dif_pos (hpending.mem_iff.1 hmem)]
        exact endAlike_pathsFrom h terminal (hpending.filter _) _ _ _
      · rw [dif_neg hmem, dif_neg fun hmem' => hmem (hpending.mem_iff.2 hmem')]
        exact .error _ _
  · split
    · exact EndAlike.refl List.Perm.refl _
    · exact EndAlike.refl List.Perm.refl _
termination_by pending.length
decreasing_by exact length_without_lt hmem

/-- The walk from a marker ends alike in both tables. -/
theorem endAlike_paths (h : table.Reorders table') (terminal : DeclarationKind) (marker : String) :
    EndAlike List.Perm (table.symbols.paths terminal marker).result (table'.symbols.paths terminal marker).result :=
  h.endAlike_pathsFrom terminal (h.perm_annotationClassNames.filter _) _ _ _

theorem endAlike_composablePaths (h : table.Reorders table') :
    EndAlike List.Perm table.symbols.composablePaths.result table'.symbols.composablePaths.result :=
  h.endAlike_paths _ _

theorem endAlike_activityPaths (h : table.Reorders table') :
    EndAlike List.Perm table.symbols.activityPaths.result table'.symbols.activityPaths.result :=
  Logged.flatMap_perm (List.Perm.refl _) fun marker _ => h.endAlike_paths _ marker

end NavGen.SymbolTable.Reorders
