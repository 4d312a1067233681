import NavGen.Name

/-!
# Names that are put together

A name without dots that is put behind a package is the last segment of the whole, and what it was put behind is the package. The last segment of
whatever text is such a name.
-/

namespace NavGen

namespace Text

theorem splitLastChars_of_not_mem {separator : Char} {cs : List Char} (h : separator ∉ cs) : splitLastChars separator cs = none := by
  induction cs with
  | nil => rfl
  | cons c rest ih =>
    rw [List.mem_cons, not_or] at h
    rw [splitLastChars, ih h.2]
    exact if_neg fun heq => h.1 heq.symm

theorem splitLastChars_append {separator : Char} {after : List Char} (h : separator ∉ after) (before : List Char) :
    splitLastChars separator (before ++ separator :: after) = some (before, after) := by
  induction before with
  | nil =>
    rw [List.nil_append, splitLastChars, splitLastChars_of_not_mem h]
    exact if_pos rfl
  | cons c rest ih => rw [List.cons_append, splitLastChars, ih]

theorem not_mem_of_splitLastChars_eq_none {separator : Char} {cs : List Char} (h : splitLastChars separator cs = none) :
    separator ∉ cs := by
  induction cs with
  | nil => exact List.not_mem_nil
  | cons c rest ih =>
    rw [splitLastChars] at h
    split at h
    · contradiction
    · rename_i hrest
      split at h
      · contradiction
      · rename_i hne
        rw [List.mem_cons, not_or]
        exact ⟨fun heq => hne heq.symm, ih hrest⟩

/-- What stands behind the last separator has none. -/
theorem not_mem_of_splitLastChars {separator : Char} {cs before after : List Char}
    (h : splitLastChars separator cs = some (before, after)) : separator ∉ after := by
  induction cs generalizing before with
  | nil => contradiction
  | cons c rest ih =>
    rw [splitLastChars] at h
    split at h
    · rename_i hrest
      cases h
      exact ih hrest
    · rename_i hrest
      split at h
      · cases h
        exact not_mem_of_splitLastChars_eq_none hrest
      · contradiction

/-- A name without dots is cut off where it was put behind a package. -/
theorem splitLast_append {simple : String} (h : '.' ∉ simple.toList) (package : String) :
    splitLast '.' (package ++ "." ++ simple) = some (package, simple) := by
  have hchars : (package ++ "." ++ simple).toList = package.toList ++ '.' :: simple.toList := by
    rw [String.toList_append, String.toList_append, List.append_assoc]
    rfl
  rw [splitLast, hchars, splitLastChars_append h, Option.map_some]
  dsimp only
  rw [String.ofList_toList, String.ofList_toList]

/-- A text begins with what it was put behind. -/
theorem begins_append (start ending : String) : begins start (start ++ ending) = true := by
  rw [begins, String.toList_append, List.isPrefixOf_iff_prefix]
  exact List.prefix_append _ _

end Text

theorem dot_not_mem_lastSegment (qualified : String) : '.' ∉ (lastSegment qualified).toList := by
  unfold lastSegment Text.splitLast
  cases hsplit : Text.splitLastChars '.' qualified.toList with
  | none => exact Text.not_mem_of_splitLastChars_eq_none hsplit
  | some parts =>
    rw [Option.map_some, String.toList_ofList]
    exact Text.not_mem_of_splitLastChars hsplit

theorem lastSegment_append {simple : String} (h : '.' ∉ simple.toList) (package : String) :
    lastSegment (package ++ "." ++ simple) = simple := by
  rw [lastSegment, Text.splitLast_append h]

end NavGen
