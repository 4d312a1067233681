import NavGen.Pass.Options
import NavGen.Proofs.Pass.Results
import NavGen.Proofs.Text.Words

/-!
# Accepted options

What is known of a configuration that options give: each option that is set is one that its check accepts. A module name is made of ASCII letters,
digits, underscores and hyphens, so that its capitalized words are made of letters and digits.
-/

namespace NavGen

namespace Config

theorem accepts_of_checked? {options : List (String × String)} {key : OptionKey} {accepts : String → Bool} {value : String}
    (h : checked? options key accepts = .ok (some value)) : accepts value = true := by
  unfold checked? at h
  split at h
  · simp at h
  · split at h
    · rename_i haccepts
      cases h
      exact haccepts
    · simp at h

/-- A name that options give a module is one that a module can have. -/
theorem isModuleName_of_ofOptions {options : List (String × String)} {config : Config} (h : ofOptions options = .ok config)
    {name : String} (hname : config.moduleName? = some name) : isModuleName name = true := by
  unfold ofOptions at h
  obtain ⟨package?, -, h⟩ := bind_eq_ok.1 h
  obtain ⟨moduleName?, hmodule, h⟩ := bind_eq_ok.1 h
  obtain ⟨debug?, -, h⟩ := bind_eq_ok.1 h
  cases h
  change moduleName? = some name at hname
  rw [hname] at hmodule
  exact accepts_of_checked? hmodule

/-! ## Module names -/

/-- Whether a character can stand in the name of a module. -/
def isModuleNameChar (c : Char) : Bool :=
  isIdentifierChar c || c == '-'

/-- The characters of module names are ASCII characters. -/
theorem lt_of_isModuleNameChar {c : Char} (h : isModuleNameChar c = true) : c.toNat < 128 := by
  rw [isModuleNameChar, isIdentifierChar, Bool.or_eq_true, Bool.or_eq_true, beq_iff_eq, beq_iff_eq] at h
  rcases h with (halphanum | rfl) | rfl
  · have hkinds : ((c.isUpper || c.isLower) || c.isDigit) = true := halphanum
    rw [Bool.or_eq_true, Bool.or_eq_true] at hkinds
    rcases hkinds with (hupper | hlower) | hdigit
    · exact Nat.lt_of_le_of_lt (UInt32.le_iff_toNat_le.1 (of_decide_eq_true hupper).2) (by decide)
    · exact Nat.lt_of_le_of_lt (UInt32.le_iff_toNat_le.1 (of_decide_eq_true (Bool.and_eq_true_iff.1 hlower).2)) (by decide)
    · exact Nat.lt_of_le_of_lt (UInt32.le_iff_toNat_le.1 (of_decide_eq_true (Bool.and_eq_true_iff.1 hdigit).2)) (by decide)
  · decide
  · decide

/-- The characters of module names do not join with others. -/
theorem isSimpleChar_of_isModuleNameChar {c : Char} (h : isModuleNameChar c = true) : Text.IsSimpleChar c := by
  have hall : ∀ code < 128, isModuleNameChar (Char.ofNat code) = true →
      Text.breakClass (Char.ofNat code) = .other ∧ Text.isConjunctConsonant (Char.ofNat code) = false ∧
        Text.isPictographic (Char.ofNat code) = false := by
    decide +kernel
  obtain ⟨hother, hconsonant, hpicture⟩ := Text.of_forall_lt
    (P := fun c => isModuleNameChar c = true →
      Text.breakClass c = .other ∧ Text.isConjunctConsonant c = false ∧ Text.isPictographic c = false)
    hall (lt_of_isModuleNameChar h) h
  exact ⟨hother, hconsonant, hpicture⟩

/-- But for the separators of words, they are those of identifiers, in either case. -/
theorem isIdentifierChar_toUpper_toLower {c : Char} (h : isModuleNameChar c = true) (hword : Text.isWordSeparator [c] = false) :
    isIdentifierChar c.toUpper = true ∧ isIdentifierChar c.toLower = true := by
  have hall : ∀ code < 128, isModuleNameChar (Char.ofNat code) = true → Text.isWordSeparator [Char.ofNat code] = false →
      isIdentifierChar (Char.ofNat code).toUpper = true ∧ isIdentifierChar (Char.ofNat code).toLower = true := by
    decide +kernel
  exact Text.of_forall_lt
    (P := fun c => isModuleNameChar c = true → Text.isWordSeparator [c] = false →
      isIdentifierChar c.toUpper = true ∧ isIdentifierChar c.toLower = true)
    hall (lt_of_isModuleNameChar h) h hword

/-- The capitalized words of a module name are part of an identifier. -/
theorem isIdentifierChar_of_mem_pascal {name : String} (h : isModuleName name = true) {c : Char} (hc : c ∈ (Text.pascal name).toList) :
    isIdentifierChar c = true := by
  have hchars : ∀ other ∈ name.toList, isModuleNameChar other = true := List.all_eq_true.1 h
  obtain ⟨word, hword, other, hmem, hcase⟩ := Text.mem_pascal_of_lt (fun other hmem => lt_of_isModuleNameChar (hchars other hmem)) hc
  obtain ⟨hname, hseparator⟩ :=
    Text.mem_of_mem_words_of_simple (fun other hmem => isSimpleChar_of_isModuleNameChar (hchars other hmem)) hword hmem
  obtain ⟨hupper, hlower⟩ := isIdentifierChar_toUpper_toLower (hchars other hname) hseparator
  rcases hcase with rfl | rfl
  · exact hupper
  · exact hlower

/-- So they are made of characters of module names, too. -/
theorem isModuleNameChar_of_mem_pascal {name : String} (h : isModuleName name = true) {c : Char}
    (hc : c ∈ (Text.pascal name).toList) : isModuleNameChar c = true := by
  rw [isModuleNameChar, isIdentifierChar_of_mem_pascal h hc, Bool.true_or]

end Config

end NavGen
