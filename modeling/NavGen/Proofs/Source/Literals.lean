import Mathlib.Logic.Function.Basic
import NavGen.Source.Literal

/-!
# What literals stand for

A compiler reads a literal character by character. It takes a backslash together with the character behind it, ends the literal at the first quote that
no backslash escapes, and refuses a dollar sign or a line feed that stands by itself. So read, the literal of a text stands for the text, whatever
characters the text has and whatever follows the literal.

Of the control characters, line feeds and tabs are escaped and all others are not. A literal is free of them exactly if its text has no others, and it
stays on one line exactly if its text has no carriage return.
-/

namespace NavGen.Literal

/-! ## Reading literals -/

/-- The character that is meant by a backslash and the character behind it. -/
def meant? : Char → Option Char
  | '"' => some '"'
  | '\\' => some '\\'
  | '$' => some '$'
  | 'n' => some '\n'
  | 't' => some '\t'
  | _ => none

/-- Reads a literal from behind its opening quote: the text that it stands for, and what follows its closing quote. -/
def readInside? : List Char → Option (List Char × List Char)
  | [] => none
  | '"' :: after => some ([], after)
  | ['\\'] => none
  | '\\' :: c :: rest =>
    match meant? c, readInside? rest with
    | some meant, some (value, after) => some (meant :: value, after)
    | _, _ => none
  | c :: rest =>
    if c = '$' ∨ c = '\n' then none
    else (readInside? rest).map fun (value, after) => (c :: value, after)

/-- Reads the literal that source text begins with. -/
def read? : List Char → Option (String × List Char)
  | '"' :: inside => (readInside? inside).map fun (value, after) => (String.ofList value, after)
  | _ => none

/-- The characters inside a literal that no backslash escapes, the backslashes that escape others left out. -/
def unescaped : List Char → List Char
  | [] => []
  | '\\' :: _ :: rest => unescaped rest
  | c :: rest => c :: unescaped rest

/-- Whether source text is a literal of a text. -/
structure Denotes (source : List Char) (value : String) : Prop where
  /-- Between its quotes, no quote and no dollar sign stands unescaped, and no line feed stands at all. -/
  quoted : ∃ inside, source = '"' :: inside ++ ['"'] ∧ '"' ∉ unescaped inside ∧ '$' ∉ unescaped inside ∧ '\n' ∉ inside
  /-- It is read to its last character and no further. -/
  reads : ∀ after, read? (source ++ after) = some (value, after)

theorem toList_quote (value : String) : (quote value).toList = '"' :: value.toList.flatMap escape ++ ['"'] := by
  rw [quote, String.toList_ofList]

/-- An escape is read as the character that it was written for, and the reader goes on behind it. -/
theorem readInside?_escape_append (c : Char) (rest : List Char) :
    readInside? (escape c ++ rest) = (readInside? rest).map fun (value, after) => (c :: value, after) := by
  unfold escape
  split
  case h_6 hquote hbackslash hdollar hfeed _ =>
    rw [List.singleton_append, readInside?]
    · rw [if_neg (not_or.2 ⟨hdollar, hfeed⟩)]
    · exact hquote
    · intro hc _
      exact hbackslash hc
    · intro _ _ hc _
      exact hbackslash hc
  all_goals
    simp only [List.cons_append, List.nil_append, readInside?, meant?]
    cases readInside? rest <;> rfl

/-- The escapes of a text up to a closing quote are read as the text: no escape runs into the one that follows. -/
theorem readInside?_flatMap_escape (cs after : List Char) : readInside? (cs.flatMap escape ++ '"' :: after) = some (cs, after) := by
  induction cs with
  | nil => simp [readInside?]
  | cons c rest ih => rw [List.flatMap_cons, List.append_assoc, readInside?_escape_append, ih, Option.map_some]

theorem read?_quote_append (value : String) (after : List Char) : read? ((quote value).toList ++ after) = some (value, after) := by
  rw [toList_quote, List.append_assoc, List.singleton_append, List.cons_append, read?, readInside?_flatMap_escape]
  simp only [Option.map_some, String.ofList_toList]

/-- Different texts have different literals. -/
theorem quote_injective : Function.Injective quote := by
  intro value other h
  have hread := read?_quote_append value []
  rw [h, read?_quote_append, Option.some.injEq, Prod.mk.injEq] at hread
  exact hread.1.symm

/-- What stands unescaped inside the literal of a text are the characters of the text that are written as they are. -/
theorem unescaped_flatMap_escape (cs : List Char) : unescaped (cs.flatMap escape) = cs.filter fun c => escape c = [c] := by
  induction cs with
  | nil => rfl
  | cons c rest ih =>
    rw [List.flatMap_cons, List.filter_cons, ← ih]
    unfold escape
    split
    case h_6 hquote hbackslash hdollar hfeed htab =>
      rw [List.singleton_append, unescaped]
      · simp
      · intro _ _ hc _
        exact hbackslash hc
    all_goals simp [unescaped]

theorem not_mem_unescaped {c : Char} (h : escape c ≠ [c]) (cs : List Char) : c ∉ unescaped (cs.flatMap escape) := by
  rw [unescaped_flatMap_escape, List.mem_filter, decide_eq_true_eq]
  intro hmem
  exact h hmem.2

/-! ## Control characters -/

/-- Whether a character is a control character of ASCII. Both characters that end a line of source text are. -/
def IsControl (c : Char) : Prop :=
  c.toNat < 0x20 ∨ c.toNat = 0x7F

instance (c : Char) : Decidable (IsControl c) :=
  inferInstanceAs (Decidable (_ ∨ _))

/-- Whether a literal has no control characters. -/
def ControlFree (literal : String) : Prop :=
  ∀ c ∈ literal.toList, ¬IsControl c

/-- Whether a literal does not go beyond a line of source text. -/
def OnOneLine (literal : String) : Prop :=
  '\n' ∉ literal.toList ∧ '\r' ∉ literal.toList

/-- Escapes are written without control characters, and of these line feeds and tabs alone are escaped. -/
theorem mem_escape_iff {c : Char} (hc : IsControl c) (d : Char) : c ∈ escape d ↔ c = d ∧ c ≠ '\n' ∧ c ≠ '\t' := by
  have hwritten : ∀ {written : Char}, ¬IsControl written → c ≠ written := fun hnot heq => hnot (heq ▸ hc)
  obtain ⟨hbackslash, hquote, hdollar, hn, ht⟩ : c ≠ '\\' ∧ c ≠ '"' ∧ c ≠ '$' ∧ c ≠ 'n' ∧ c ≠ 't' :=
    ⟨hwritten (by decide), hwritten (by decide), hwritten (by decide), hwritten (by decide), hwritten (by decide)⟩
  unfold escape
  split
  case h_6 hfeed htab =>
    rw [List.mem_singleton]
    constructor
    · rintro rfl
      exact ⟨rfl, hfeed, htab⟩
    · exact And.left
  all_goals grind

/-- The control characters of a literal are those of its text, but for line feeds and tabs. -/
theorem mem_quote_iff {c : Char} (hc : IsControl c) (value : String) :
    c ∈ (quote value).toList ↔ c ∈ value.toList ∧ c ≠ '\n' ∧ c ≠ '\t' := by
  have hquote : c ≠ '"' := by
    rintro rfl
    revert hc
    decide
  rw [toList_quote, List.mem_append, List.mem_cons, List.mem_singleton, List.mem_flatMap]
  constructor
  · rintro ((heq | ⟨d, hd, hmem⟩) | heq)
    · exact absurd heq hquote
    · obtain ⟨rfl, hescaped⟩ := (mem_escape_iff hc d).1 hmem
      exact ⟨hd, hescaped⟩
    · exact absurd heq hquote
  · rintro ⟨hmem, hescaped⟩
    exact Or.inl (Or.inr ⟨c, hmem, (mem_escape_iff hc c).2 ⟨rfl, hescaped⟩⟩)

/-! ## What the literal of a text promises -/

/-- The literal of a text stands for the text, be it followed by anything, and for no other text. -/
theorem denotes_quote : (∀ value : String, Denotes (quote value).toList value) ∧ Function.Injective quote := by
  refine ⟨fun value => ⟨⟨value.toList.flatMap escape, toList_quote value, ?_, ?_, ?_⟩, read?_quote_append value⟩, quote_injective⟩
  · exact not_mem_unescaped (by decide) _
  · exact not_mem_unescaped (by decide) _
  · intro hfeed
    obtain ⟨d, -, hmem⟩ := List.mem_flatMap.1 hfeed
    exact ((mem_escape_iff (by decide) d).1 hmem).2.1 rfl

/-- A literal has no control characters exactly if its text has none but line feeds and tabs. It stays on its line exactly if its text has no carriage
return. -/
theorem controlFree_quote_iff (value : String) :
    (ControlFree (quote value) ↔ ∀ c ∈ value.toList, IsControl c → c = '\n' ∨ c = '\t') ∧
      (OnOneLine (quote value) ↔ '\r' ∉ value.toList) := by
  constructor
  · constructor
    · intro hfree c hmem hc
      by_contra hescaped
      exact hfree c ((mem_quote_iff hc value).2 ⟨hmem, not_or.1 hescaped⟩) hc
    · intro hescaped c hmem hc
      obtain ⟨hvalue, hfeed, htab⟩ := (mem_quote_iff hc value).1 hmem
      exact (hescaped c hvalue hc).elim hfeed htab
  · have hfeed : '\n' ∉ (quote value).toList := fun hmem => ((mem_quote_iff (by decide) value).1 hmem).2.1 rfl
    have hreturn : '\r' ∈ (quote value).toList ↔ '\r' ∈ value.toList := by
      rw [mem_quote_iff (by decide) value]
      exact and_iff_left (by decide)
    rw [OnOneLine, hreturn]
    exact and_iff_right hfeed

/-- That no control character reaches a literal is false: a carriage return does, and ends the line. -/
theorem controlFree_quote_false : ¬∀ value : String, ControlFree (quote value) ∧ OnOneLine (quote value) := by
  intro h
  exact (h "\r").2.2 (by decide)

end NavGen.Literal
