import Mathlib.Data.List.SplitBy
import NavGen.Proofs.Text.Words

/-!
# Words that a capitalized name shows

A name in capitalized words does not show where separators stood and which letters were capitals before. It shows where words of letters begin, since
each has one capital, its first, and where a number begins behind a letter. Two numbers that were apart are written as one. So what can be read off the
capitalized words of a name are its words in lower case, with numbers that follow one another joined, and nothing else.
-/

namespace NavGen.Text

/-! ## Joined words -/

/-- Joins words of digits that follow one another. -/
def joinNumbers : List (List Char) → List (List Char)
  | [] => []
  | word :: rest =>
    match joinNumbers rest with
    | [] => [word]
    | next :: others => if isDigit word && isDigit next then (word ++ next) :: others else word :: next :: others

/-- The words of a name in lower case, without the empty words beside separators and with numbers that follow one another joined. -/
def nameWords (s : String) : List (List Char) :=
  joinNumbers (((words s.toList).filter (!·.isEmpty)).map lower)

/-- Whether characters are a word of small ASCII letters or a number. -/
structure IsPlainWord (word : List Char) : Prop where
  nonempty : word ≠ []
  letters_or_number : (∀ c ∈ word, c.isLower = true) ∨ isDigit word = true

/-- Whether words can be told apart when they are capitalized and written one behind the other. -/
structure Separable (words : List (List Char)) : Prop where
  plain : ∀ word ∈ words, IsPlainWord word
  apart : words.IsChain fun word next => ¬(isDigit word = true ∧ isDigit next = true)

theorem isDigit_append (word next : List Char) : isDigit (word ++ next) = (isDigit word && isDigit next) :=
  List.all_append

theorem separable_joinNumbers {words : List (List Char)} (h : ∀ word ∈ words, IsPlainWord word) : Separable (joinNumbers words) := by
  induction words with
  | nil => exact ⟨fun _ h => absurd h List.not_mem_nil, List.isChain_nil⟩
  | cons word rest ih =>
    rw [List.forall_mem_cons] at h
    obtain ⟨hplain, hapart⟩ := ih h.2
    rw [joinNumbers]
    cases hrest : joinNumbers rest with
    | nil => exact ⟨by simpa using h.1, List.isChain_singleton _⟩
    | cons next others =>
      rw [hrest] at hplain hapart
      rw [List.forall_mem_cons] at hplain
      dsimp only
      split
      · rename_i hnumbers
        rw [Bool.and_eq_true] at hnumbers
        refine ⟨?_, ?_⟩
        · rw [List.forall_mem_cons]
          refine ⟨⟨List.append_ne_nil_of_left_ne_nil h.1.nonempty _, Or.inr ?_⟩, hplain.2⟩
          rw [isDigit_append, hnumbers.1, hnumbers.2, Bool.and_true]
        · rw [List.isChain_cons] at hapart ⊢
          refine ⟨fun other hother hboth => hapart.1 other hother ⟨hnumbers.2, hboth.2⟩, hapart.2⟩
      · rename_i hnumbers
        rw [Bool.and_eq_true] at hnumbers
        refine ⟨?_, List.IsChain.cons_cons hnumbers hapart⟩
        rw [List.forall_mem_cons, List.forall_mem_cons]
        exact ⟨h.1, hplain⟩

/-! ## Letters and digits -/

theorem lt_of_isLower {c : Char} (h : c.isLower = true) : c.toNat < 128 :=
  Nat.lt_of_le_of_lt (UInt32.le_iff_toNat_le.1 (of_decide_eq_true (Bool.and_eq_true_iff.1 h).2)) (by decide)

theorem lt_of_isDigit {c : Char} (h : c.isDigit = true) : c.toNat < 128 :=
  Nat.lt_of_le_of_lt (UInt32.le_iff_toNat_le.1 (of_decide_eq_true (Bool.and_eq_true_iff.1 h).2)) (by decide)

/-- What a small letter and its capital are. -/
structure IsLetterPair (small capital : Char) : Prop where
  notSmall : capital.isLower = false
  notDigit : capital.isDigit = false
  lower : capital.toLower = small
  lower_small : small.toLower = small
  small_notDigit : small.isDigit = false

theorem isLetterPair_of_isLower {c : Char} (h : c.isLower = true) : IsLetterPair c c.toUpper := by
  have hall : ∀ code < 128, (Char.ofNat code).isLower = true →
      (Char.ofNat code).toUpper.isLower = false ∧ (Char.ofNat code).toUpper.isDigit = false ∧
        (Char.ofNat code).toUpper.toLower = Char.ofNat code ∧ (Char.ofNat code).toLower = Char.ofNat code ∧
          (Char.ofNat code).isDigit = false := by
    decide +kernel
  obtain ⟨hsmall, hdigit, hlower, hlowerSmall, hsmallDigit⟩ := of_forall_lt
    (P := fun c => c.isLower = true →
      c.toUpper.isLower = false ∧ c.toUpper.isDigit = false ∧ c.toUpper.toLower = c ∧ c.toLower = c ∧ c.isDigit = false)
    hall (lt_of_isLower h) h
  exact ⟨hsmall, hdigit, hlower, hlowerSmall, hsmallDigit⟩

/-- A digit has no case. -/
theorem toUpper_toLower_of_isDigit {c : Char} (h : c.isDigit = true) : c.toUpper = c ∧ c.toLower = c ∧ c.isLower = false := by
  have hall : ∀ code < 128, (Char.ofNat code).isDigit = true →
      (Char.ofNat code).toUpper = Char.ofNat code ∧ (Char.ofNat code).toLower = Char.ofNat code ∧ (Char.ofNat code).isLower = false := by
    decide +kernel
  exact of_forall_lt (P := fun c => c.isDigit = true → c.toUpper = c ∧ c.toLower = c ∧ c.isLower = false) hall (lt_of_isDigit h) h

theorem map_toLower_eq {cs : List Char} (h : ∀ c ∈ cs, c.toLower = c) : cs.map Char.toLower = cs := by
  rw [List.map_congr_left h, List.map_id']

/-- The capital of a word of small letters is its first letter. -/
theorem capitalize_of_isLower {c : Char} {rest : List Char} (h : ∀ other ∈ c :: rest, other.isLower = true) :
    capitalize (c :: rest) = c.toUpper :: rest := by
  rw [capitalize_of_lt fun other hmem => lt_of_isLower (h other hmem)]
  rw [map_toLower_eq fun other hmem => (isLetterPair_of_isLower (h other (List.mem_cons_of_mem c hmem))).lower_small]

theorem capitalize_of_isDigit {word : List Char} (h : isDigit word = true) : capitalize word = word := by
  have hdigits : ∀ c ∈ word, c.isDigit = true := List.all_eq_true.1 h
  cases word with
  | nil => rfl
  | cons c rest =>
    rw [capitalize_of_lt fun other hmem => lt_of_isDigit (hdigits other hmem)]
    rw [map_toLower_eq fun other hmem => (toUpper_toLower_of_isDigit (hdigits other (List.mem_cons_of_mem c hmem))).2.1]
    rw [(toUpper_toLower_of_isDigit (hdigits c List.mem_cons_self)).1]

/-- What a plain word is capitalized to: a word of letters has its first letter changed, a number stays as it is. -/
theorem IsPlainWord.capitalize_eq {word : List Char} (h : IsPlainWord word) :
    (∃ c rest, word = c :: rest ∧ (∀ other ∈ c :: rest, other.isLower = true) ∧ capitalize word = c.toUpper :: rest) ∨
      (∀ c ∈ word, c.isDigit = true) ∧ capitalize word = word := by
  obtain ⟨hnonempty, hletters | hnumber⟩ := h
  · obtain ⟨c, rest, rfl⟩ := List.exists_cons_of_ne_nil hnonempty
    exact Or.inl ⟨c, rest, rfl, hletters, capitalize_of_isLower hletters⟩
  · exact Or.inr ⟨List.all_eq_true.1 hnumber, capitalize_of_isDigit hnumber⟩

/-- In which case a word was written does not show when it is capitalized. -/
theorem capitalize_lower {word : List Char} (h : ∀ c ∈ word, c.toNat < 128) : capitalize (lower word) = capitalize word := by
  have hcase : ∀ c ∈ word, c.toLower.toNat < 128 ∧ c.toLower.toUpper = c.toUpper ∧ c.toLower.toLower = c.toLower := by
    have hall : ∀ code < 128, (Char.ofNat code).toLower.toNat < 128 ∧ (Char.ofNat code).toLower.toUpper = (Char.ofNat code).toUpper ∧
        (Char.ofNat code).toLower.toLower = (Char.ofNat code).toLower := by
      decide +kernel
    intro c hmem
    exact of_forall_lt
      (P := fun c => c.toLower.toNat < 128 ∧ c.toLower.toUpper = c.toUpper ∧ c.toLower.toLower = c.toLower) hall (h c hmem)
  cases word with
  | nil => rfl
  | cons c rest =>
    have hlower : lower (c :: rest) = c.toLower :: rest.map Char.toLower := lowerAfter_of_lt [] h
    have hascii : ∀ d ∈ c.toLower :: rest.map Char.toLower, d.toNat < 128 := by
      intro d hd
      rw [← List.map_cons] at hd
      obtain ⟨other, hmem, rfl⟩ := List.mem_map.1 hd
      exact (hcase other hmem).1
    rw [hlower, capitalize_of_lt hascii, capitalize_of_lt h, (hcase c List.mem_cons_self).2.1, map_toLower_eq]
    intro d hd
    obtain ⟨other, hmem, rfl⟩ := List.mem_map.1 hd
    exact (hcase other (List.mem_cons_of_mem c hmem)).2.2

/-- Numbers that follow one another are written alike, joined or not. -/
theorem flatMap_capitalize_joinNumbers (words : List (List Char)) : (joinNumbers words).flatMap capitalize = words.flatMap capitalize := by
  induction words with
  | nil => rfl
  | cons word rest ih =>
    rw [List.flatMap_cons, ← ih, joinNumbers]
    cases joinNumbers rest with
    | nil => rfl
    | cons next others =>
      dsimp only
      split
      · rename_i hnumbers
        obtain ⟨hword, hnext⟩ := Bool.and_eq_true_iff.1 hnumbers
        have hboth : isDigit (word ++ next) = true := by rw [isDigit_append, hnumbers]
        rw [List.flatMap_cons, List.flatMap_cons, capitalize_of_isDigit hboth, capitalize_of_isDigit hword, capitalize_of_isDigit hnext,
          List.append_assoc]
      · rfl

/-! ## Reading words off a capitalized name -/

/-- Whether a character belongs to the word of the character before it: a small letter always does, a digit does behind a digit. -/
def continues (before c : Char) : Bool :=
  c.isLower || (before.isDigit && c.isDigit)

theorem isChain_continues_capitalize {word : List Char} (h : IsPlainWord word) : (capitalize word).IsChain (continues · ·) := by
  obtain ⟨c, rest, rfl, hletters, heq⟩ | ⟨hdigits, heq⟩ := h.capitalize_eq
  · rw [heq]
    refine List.Pairwise.isChain (List.pairwise_cons.2 ⟨fun other hmem => ?_, List.pairwise_of_forall_mem_list fun _ _ other hmem => ?_⟩)
    all_goals rw [continues, hletters other (List.mem_cons_of_mem c hmem), Bool.true_or]
  · rw [heq]
    refine List.Pairwise.isChain (List.pairwise_of_forall_mem_list fun before hbefore c hmem => ?_)
    rw [continues, hdigits before hbefore, hdigits c hmem, Bool.and_true, Bool.or_true]

theorem capitalize_ne_nil {word : List Char} (h : IsPlainWord word) : capitalize word ≠ [] := by
  obtain ⟨c, rest, -, -, heq⟩ | ⟨-, heq⟩ := h.capitalize_eq
  · rw [heq]
    exact List.cons_ne_nil _ _
  · rw [heq]
    exact h.nonempty

/-- No digit is in a capitalized word of letters. -/
theorem not_isDigit_of_mem_capitalize {word : List Char} (h : ∀ c ∈ word, c.isLower = true) {d : Char} (hd : d ∈ capitalize word) :
    d.isDigit = false := by
  cases word with
  | nil => exact absurd hd List.not_mem_nil
  | cons c rest =>
    rw [capitalize_of_isLower h] at hd
    rcases List.mem_cons.1 hd with rfl | hd
    · exact (isLetterPair_of_isLower (h c List.mem_cons_self)).notDigit
    · exact (isLetterPair_of_isLower (h d (List.mem_cons_of_mem c hd))).small_notDigit

/-- A capitalized word does not go on with the first character of the next, unless both are numbers. -/
theorem not_continues_head {word next : List Char} (hword : IsPlainWord word) (hnext : IsPlainWord next)
    (hapart : ¬(isDigit word = true ∧ isDigit next = true)) :
    ∃ ha hb, continues ((capitalize word).getLast ha) ((capitalize next).head hb) = false := by
  refine ⟨capitalize_ne_nil hword, capitalize_ne_nil hnext, ?_⟩
  obtain ⟨c, rest, rfl, hletters, heq⟩ | ⟨hdigits, heq⟩ := hnext.capitalize_eq
  · have hpair := isLetterPair_of_isLower (hletters c List.mem_cons_self)
    simp only [heq, List.head_cons, continues, hpair.notSmall, hpair.notDigit, Bool.and_false, Bool.or_false]
  · have hwordLetters : ∀ c ∈ word, c.isLower = true :=
      hword.letters_or_number.resolve_right fun hnumber => hapart ⟨hnumber, List.all_eq_true.2 hdigits⟩
    have hhead : (next.head hnext.nonempty).isDigit = true := hdigits _ (List.head_mem hnext.nonempty)
    have hlast := not_isDigit_of_mem_capitalize hwordLetters (List.getLast_mem (capitalize_ne_nil hword))
    simp only [heq, continues, (toUpper_toLower_of_isDigit hhead).2.2, hlast, Bool.false_and, Bool.or_false]

/-- Words that can be told apart are found again in what they are capitalized to. -/
theorem splitBy_flatMap_capitalize {words : List (List Char)} (h : Separable words) :
    (words.flatMap capitalize).splitBy continues = words.map capitalize := by
  rw [List.flatMap_def]
  refine List.splitBy_flatten ?_ ?_ ?_
  · intro hnil
    obtain ⟨word, hmem, hword⟩ := List.mem_map.1 hnil
    exact capitalize_ne_nil (h.plain word hmem) hword
  · intro capitalized hmem
    obtain ⟨word, hword, rfl⟩ := List.mem_map.1 hmem
    exact isChain_continues_capitalize (h.plain word hword)
  · rw [List.isChain_map]
    exact h.apart.imp_of_mem_imp fun word next hword hnext hapart => not_continues_head (h.plain word hword) (h.plain next hnext) hapart

theorem map_toLower_capitalize {word : List Char} (h : IsPlainWord word) : (capitalize word).map Char.toLower = word := by
  obtain ⟨c, rest, rfl, hletters, heq⟩ | ⟨hdigits, heq⟩ := h.capitalize_eq
  · have hrest : rest.map Char.toLower = rest :=
      map_toLower_eq fun other hmem => (isLetterPair_of_isLower (hletters other (List.mem_cons_of_mem c hmem))).lower_small
    rw [heq, List.map_cons, (isLetterPair_of_isLower (hletters c List.mem_cons_self)).lower, hrest]
  · rw [heq]
    exact map_toLower_eq fun c hmem => (toUpper_toLower_of_isDigit (hdigits c hmem)).2.1

/-- Words that can be told apart are the same if they are capitalized to the same. -/
theorem eq_of_flatMap_capitalize_eq {words others : List (List Char)} (h : Separable words) (hothers : Separable others)
    (heq : words.flatMap capitalize = others.flatMap capitalize) : words = others := by
  have hback : ∀ {words : List (List Char)}, Separable words → (words.map capitalize).map (List.map Char.toLower) = words := by
    intro words h
    rw [List.map_map]
    exact (List.map_congr_left fun word hmem => map_toLower_capitalize (h.plain word hmem)).trans (List.map_id words)
  have hsplit : words.map capitalize = others.map capitalize := by
    rw [← splitBy_flatMap_capitalize h, heq, splitBy_flatMap_capitalize hothers]
  rw [← hback h, hsplit, hback hothers]

end NavGen.Text
