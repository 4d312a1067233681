import Mathlib.Data.List.Infix
import NavGen.Text.Blank
import NavGen.Text.Search

/-!
# Occurrences in a text

Replacing goes through a text from left to right. At each place the text begins with an occurrence of the part, which is passed over as a whole, or
with a character that is kept. What is to be shown of a text with its occurrences replaced follows from these two steps.
-/

namespace NavGen.Text

/-! ## Replacing step by step -/

section

variable {part replacement : List Char}

/-- What is passed over is left out. -/
theorem replaceChars_skip (skip : Nat) (cs : List Char) : replaceChars part replacement skip cs = replaceChars part replacement 0 (cs.drop skip) := by
  induction skip generalizing cs with
  | zero => rfl
  | succ skip ih =>
    cases cs with
    | nil => rfl
    | cons c rest => exact ih rest

/-- An occurrence at the beginning is replaced as a whole. -/
theorem replaceChars_append (hpart : part ≠ []) (rest : List Char) :
    replaceChars part replacement 0 (part ++ rest) = replacement ++ replaceChars part replacement 0 rest := by
  obtain ⟨first, others, rfl⟩ := List.exists_cons_of_ne_nil hpart
  have hstart : (first :: others).isPrefixOf (first :: (others ++ rest)) = true := List.isPrefixOf_iff_prefix.2 (List.prefix_append _ _)
  have hdrop : (others ++ rest).drop ((first :: others).length - 1) = rest := List.drop_left
  rw [List.cons_append, replaceChars, if_pos hstart, replaceChars_skip, hdrop]

/-- A character at which no occurrence begins is kept. -/
theorem replaceChars_cons {c : Char} {rest : List Char} (h : ¬part <+: c :: rest) :
    replaceChars part replacement 0 (c :: rest) = c :: replaceChars part replacement 0 rest := by
  rw [replaceChars, if_neg (mt List.isPrefixOf_iff_prefix.1 h)]

/-- What holds of the empty text, of a text after an occurrence and of one after a character that begins none, holds of all texts. -/
theorem occurrence_induction (hpart : part ≠ []) {motive : List Char → Prop} (nil : motive [])
    (occurrence : ∀ rest, motive rest → motive (part ++ rest))
    (char : ∀ c rest, ¬part <+: c :: rest → motive rest → motive (c :: rest)) (cs : List Char) : motive cs := by
  induction hlength : cs.length using Nat.strong_induction_on generalizing cs with
  | _ length ih =>
    subst hlength
    cases cs with
    | nil => exact nil
    | cons c rest =>
      by_cases hstart : part <+: c :: rest
      · obtain ⟨after, hafter⟩ := hstart
        rw [← hafter]
        refine occurrence after (ih after.length ?_ after rfl)
        have hpos := List.length_pos_iff.2 hpart
        rw [← hafter, List.length_append]
        omega
      · exact char c rest hstart (ih rest.length (Nat.lt_succ_self _) rest rfl)

/-- An occurrence in a text at whose beginning there is none lies behind the first character. -/
theorem exists_cons_of_occurrence {c : Char} {rest before after : List Char} (h : ¬part <+: c :: rest)
    (hocc : c :: rest = before ++ part ++ after) : ∃ before', before = c :: before' ∧ rest = before' ++ part ++ after := by
  cases before with
  | nil => exact absurd ⟨after, by simpa using hocc.symm⟩ h
  | cons first before' =>
    obtain ⟨rfl, hrest⟩ := List.cons.inj hocc
    exact ⟨before', rfl, by simpa using hrest⟩

/-- An occurrence in a text that begins with one lies behind that one, or overlaps with it. -/
theorem prefix_or_exists_of_occurrence {rest before after : List Char} (hocc : part ++ rest = before ++ part ++ after) :
    before <+: part ∨ ∃ before', before = part ++ before' ∧ rest = before' ++ part ++ after := by
  rw [List.append_assoc] at hocc
  rcases List.append_eq_append_iff.1 hocc with ⟨before', rfl, hrest⟩ | ⟨overlap, hpart, -⟩
  · exact Or.inr ⟨before', rfl, by rw [hrest, List.append_assoc]⟩
  · exact Or.inl ⟨overlap, hpart.symm⟩

end

/-! ## Trimming -/

theorem mem_dropWhile_of_not {p : Char → Bool} {cs : List Char} {c : Char} (hmem : c ∈ cs) (h : p c = false) : c ∈ cs.dropWhile p := by
  induction cs with
  | nil => contradiction
  | cons first rest ih =>
    rw [List.dropWhile_cons]
    split
    · rename_i hfirst
      rcases List.mem_cons.1 hmem with rfl | hmem
      · rw [h] at hfirst
        contradiction
      · exact ih hmem
    · exact hmem

/-- Trimming keeps the characters that are not blank. -/
theorem mem_trimChars {cs : List Char} {c : Char} (hmem : c ∈ cs) (h : isBlankChar c = false) : c ∈ trimChars cs := by
  refine List.mem_reverse.2 (mem_dropWhile_of_not (List.mem_reverse.2 ?_) h)
  exact mem_dropWhile_of_not hmem h

end NavGen.Text
