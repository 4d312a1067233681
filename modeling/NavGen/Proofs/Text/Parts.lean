import NavGen.Text.Search

/-!
# Parts of a text

Splitting a text at a separator gives parts without it. So it undoes joining such parts, and the parts before and after a separator are found one
independently of the other.
-/

namespace NavGen

namespace Text

theorem splitChars_ne_nil (separator : Char) (cs : List Char) : splitChars separator cs ≠ [] := by
  fun_induction splitChars separator cs <;> simp

/-- A separator between two lists of characters cuts them apart. -/
theorem splitChars_append (separator : Char) (before after : List Char) :
    splitChars separator (before ++ separator :: after) = splitChars separator before ++ splitChars separator after := by
  induction before with
  | nil => simp [splitChars]
  | cons c rest ih =>
    by_cases h : c = separator
    · simp [splitChars, h, ih]
    · rw [List.cons_append, splitChars, splitChars, if_neg h, if_neg h, ih]
      cases hparts : splitChars separator rest with
      | nil => exact absurd hparts (splitChars_ne_nil separator rest)
      | cons part parts => rfl

theorem splitChars_of_not_mem {separator : Char} {cs : List Char} (h : separator ∉ cs) : splitChars separator cs = [cs] := by
  induction cs with
  | nil => rfl
  | cons c rest ih =>
    rw [List.mem_cons, not_or] at h
    rw [splitChars, if_neg (Ne.symm h.1), ih h.2]

/-- The parts between separators have none. -/
theorem not_mem_of_mem_splitChars {separator : Char} {cs part : List Char} (h : part ∈ splitChars separator cs) : separator ∉ part := by
  induction cs generalizing part with
  | nil =>
    rw [List.mem_singleton.1 h]
    exact List.not_mem_nil
  | cons c rest ih =>
    rw [splitChars] at h
    split at h
    · rcases List.mem_cons.1 h with rfl | h
      · exact List.not_mem_nil
      · exact ih h
    · rename_i hc
      split at h
      · rw [List.mem_singleton.1 h]
        exact fun hmem => hc (List.mem_singleton.1 hmem).symm
      · rename_i first parts hsplit
        rw [hsplit] at ih
        rcases List.mem_cons.1 h with rfl | h
        · rw [List.mem_cons, not_or]
          exact ⟨Ne.symm hc, ih List.mem_cons_self⟩
        · exact ih (List.mem_cons_of_mem first h)

/-- Texts without a separator in front of one are the same if what starts with them is. -/
theorem eq_of_append_separator {separator : Char} {start start' rest rest' : List Char} (hstart : separator ∉ start)
    (hstart' : separator ∉ start') (h : start ++ separator :: rest = start' ++ separator :: rest') : start = start' := by
  have hsplit := congrArg (splitChars separator) h
  rw [splitChars_append, splitChars_append, splitChars_of_not_mem hstart, splitChars_of_not_mem hstart'] at hsplit
  exact (List.cons.inj hsplit).1

/-- Parts without separators are cut apart where they were joined. -/
theorem split_intercalate {parts : List String} (hne : parts ≠ []) (h : ∀ part ∈ parts, '.' ∉ part.toList) :
    split '.' (".".intercalate parts) = parts := by
  induction parts with
  | nil => contradiction
  | cons part rest ih =>
    rw [List.forall_mem_cons] at h
    cases rest with
    | nil => rw [String.intercalate_singleton, split, splitChars_of_not_mem h.1, List.map_singleton, String.ofList_toList]
    | cons next others =>
      have hchars : (part ++ "." ++ ".".intercalate (next :: others)).toList =
          part.toList ++ '.' :: (".".intercalate (next :: others)).toList := by
        simp [String.toList_append]
      rw [String.intercalate_cons_cons, split, hchars, splitChars_append, splitChars_of_not_mem h.1, List.map_append, List.map_singleton,
        String.ofList_toList, List.singleton_append]
      exact congrArg (part :: ·) (ih (List.cons_ne_nil _ _) h.2)

end Text

end NavGen
