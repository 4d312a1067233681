import Mathlib.Data.String.Basic
import NavGen.Proofs.Source.Scopes
import NavGen.Source.File

/-!
# Lines of written files

The layout of a file says what it declares, its text is what other modules are compiled with. The statements here lead from one to the other: whatever
stands on a line of a layout stands at the beginning of a line of the text, and the text of a part of a layout is a part of the text.
-/

namespace NavGen

/-- Whether a text ends with the end of a line. -/
def EndsLine (text : String) : Prop :=
  ∃ before, text = before ++ "\n"

/-- The blanks before a line at a depth. -/
def indentation (depth : Nat) : String :=
  String.join (List.replicate depth "    ")

/-- Whether a line of a text begins with some words, after its indentation. -/
def HasLine (words text : String) : Prop :=
  ∃ before depth after, EndsLine before ∧ text = before ++ indentation depth ++ words ++ after

/-- A longer text has the lines of its parts. -/
theorem HasLine.append {words text : String} (h : HasLine words text) (after : String) : HasLine words (text ++ after) := by
  obtain ⟨before, depth, rest, hbefore, rfl⟩ := h
  exact ⟨before, depth, rest ++ after, hbefore, by simp only [String.append_assoc]⟩

namespace Layout

/-! ## Text -/

/-- The text of a list of steps that starts at a depth. -/
def textFrom (depth : Nat) (layout : List Layout) : String :=
  String.join (render depth layout)

/-- Whether the lines of a layout, at some depth, are lines of a text that stand one below the other. -/
def WrittenIn (layout : List Layout) (text : String) : Prop :=
  ∃ before depth after, EndsLine before ∧ text = before ++ textFrom depth layout ++ after

theorem textFrom_cons (depth : Nat) (step : Layout) (rest : List Layout) :
    textFrom depth (step :: rest) = step.text depth ++ textFrom (step.depthAfter depth) rest := by
  rw [textFrom, render, String.join_cons, textFrom]

theorem textFrom_line (depth : Nat) (content : Line) : textFrom depth [.line content] = indented depth content.text := by
  rw [textFrom_cons]
  exact String.append_empty

theorem textFrom_code (depth : Nat) (text : String) : textFrom depth [code text] = indented depth text :=
  textFrom_line depth (.code text)

theorem textFrom_append (depth : Nat) (first second : List Layout) :
    textFrom depth (first ++ second) = textFrom depth first ++ textFrom (depthAfterAll depth first) second := by
  induction first generalizing depth with
  | nil => simp [textFrom, render]
  | cons step rest ih => rw [List.cons_append, textFrom_cons, textFrom_cons, ih, String.append_assoc, depthAfterAll_cons]

/-- What follows steps that end at their own depth is written at that depth, too. -/
theorem Level.textFrom_append {first : List Layout} (h : Level first) (second : List Layout) (depth : Nat) :
    textFrom depth (first ++ second) = textFrom depth first ++ textFrom depth second := by
  rw [Layout.textFrom_append, h]

/-- The text of lines between brackets. -/
theorem textFrom_bracketed {inside : List Layout} (h : Level inside) (first : Line) (last : String) (depth : Nat) :
    textFrom depth (Layout.bracketed first inside last) =
      indented depth first.text ++ textFrom (depth + 1) inside ++ indented depth last := by
  have hlast : textFrom (depth + 1) [.dedent, code last] = indented depth last := by
    rw [textFrom_cons, textFrom_code, depthAfter, Nat.add_sub_cancel]
    exact String.empty_append
  have hfirst : textFrom depth [.line first, .indent] = indented depth first.text := by
    rw [textFrom_cons, textFrom_cons]
    exact String.append_empty
  rw [Layout.bracketed, textFrom_append, textFrom_append, hfirst]
  simp only [depthAfterAll_append, depthAfterAll_cons, depthAfterAll_nil, depthAfter]
  rw [h, hlast]

/-- What a step writes after the indentation, if it writes a line that is not empty. -/
def content? : Layout → Option String
  | .line content => some content.text
  | .openBrace header => some (header.text ++ " \x7b")
  | .closeBrace ending => some ("\x7d" ++ ending)
  | .blank | .indent | .dedent => none

theorem indented_of_ne {depth : Nat} {text : String} (h : text ≠ "") : indented depth text = indentation depth ++ text ++ "\n" := by
  rw [indented, if_neg (by simpa using h), indentation]

/-- At depth zero a line is not indented. -/
theorem indented_zero {text : String} (h : text ≠ "") : indented 0 text = text ++ "\n" := by
  rw [indented_of_ne h, indentation, List.replicate_zero, String.join_nil, String.empty_append]

theorem text_of_content? {step : Layout} {content : String} (h : step.content? = some content) (hcontent : content ≠ "") (depth : Nat) :
    ∃ shown, step.text depth = indentation shown ++ content ++ "\n" := by
  cases step with
  | line _ | openBrace _ =>
    cases h
    exact ⟨depth, indented_of_ne hcontent⟩
  | closeBrace _ =>
    cases h
    exact ⟨depth - 1, indented_of_ne hcontent⟩
  | _ => contradiction

theorem endsLine_indented (depth : Nat) (text : String) : EndsLine (indented depth text) := by
  unfold indented
  split
  · exact ⟨"", rfl⟩
  · exact ⟨_, rfl⟩

/-- A step writes whole lines. -/
theorem endsLine_append_text {before : String} (h : EndsLine before) (step : Layout) (depth : Nat) : EndsLine (before ++ step.text depth) := by
  have happend : ∀ text, EndsLine text → EndsLine (before ++ text) := by
    rintro _ ⟨text, rfl⟩
    exact ⟨before ++ text, String.append_assoc.symm⟩
  cases step with
  | line content => exact happend _ (endsLine_indented depth content.text)
  | blank => exact happend _ ⟨"", rfl⟩
  | openBrace header => exact happend _ (endsLine_indented depth _)
  | closeBrace ending => exact happend _ (endsLine_indented (depth - 1) _)
  | indent | dedent => simpa [Layout.text] using h

/-- What a step of a layout writes stands on a line of the text. -/
theorem hasLine_append_textFrom {before : String} (h : EndsLine before) {layout : List Layout} {step : Layout} (hmem : step ∈ layout)
    {words more : String} (hwords : words ≠ "") (hcontent : step.content? = some (words ++ more)) (depth : Nat) :
    HasLine words (before ++ textFrom depth layout) := by
  induction layout generalizing before depth with
  | nil => contradiction
  | cons first rest ih =>
    rw [textFrom_cons, ← String.append_assoc]
    rcases List.mem_cons.1 hmem with rfl | hmem
    · obtain ⟨shown, htext⟩ := text_of_content? hcontent (by simp [hwords]) depth
      refine HasLine.append ⟨before, shown, more ++ "\n", h, ?_⟩ _
      rw [htext]
      simp only [String.append_assoc]
    · exact ih (endsLine_append_text h first depth) hmem _

/-- A layout writes whole lines. -/
theorem endsLine_append_textFrom {before : String} (h : EndsLine before) (layout : List Layout) (depth : Nat) :
    EndsLine (before ++ textFrom depth layout) := by
  induction layout generalizing before depth with
  | nil => simpa [textFrom, render] using h
  | cons step rest ih =>
    rw [textFrom_cons, ← String.append_assoc]
    exact ih (endsLine_append_text h step depth) _

/-! ## Characters -/

section

variable {c : Char} (hblank : c ≠ ' ') (hfeed : c ≠ '\n')

include hblank in
theorem not_mem_indentation (depth : Nat) : c ∉ (indentation depth).toList := by
  have hblanks : c ∉ "    ".toList := by
    have heq : "    ".toList = [' ', ' ', ' ', ' '] := by decide
    rw [heq]
    simp [hblank]
  induction depth with
  | zero => simp [indentation]
  | succ depth ih =>
    rw [indentation, List.replicate_succ, String.join_cons, ← indentation, String.toList_append, List.mem_append, not_or]
    exact ⟨hblanks, ih⟩

include hblank hfeed

theorem not_mem_indented {text : String} (h : c ∉ text.toList) (depth : Nat) : c ∉ (indented depth text).toList := by
  have hend : c ∉ "\n".toList := by
    have heq : "\n".toList = ['\n'] := by decide
    rw [heq]
    simp [hfeed]
  by_cases htext : text = ""
  · subst htext
    exact hend
  · rw [indented_of_ne htext, String.toList_append, String.toList_append, List.mem_append, List.mem_append, not_or, not_or]
    exact ⟨⟨not_mem_indentation hblank depth, h⟩, hend⟩

/-- But for blanks and line feeds, the characters of a text are those that its steps write. -/
theorem not_mem_textFrom {layout : List Layout} (h : ∀ step ∈ layout, ∀ content, step.content? = some content → c ∉ content.toList)
    (depth : Nat) : c ∉ (textFrom depth layout).toList := by
  induction layout generalizing depth with
  | nil => simp [textFrom, render]
  | cons step rest ih =>
    rw [List.forall_mem_cons] at h
    rw [textFrom_cons, String.toList_append, List.mem_append, not_or]
    refine ⟨?_, ih h.2 _⟩
    cases step with
    | line _ | openBrace _ | closeBrace _ => exact not_mem_indented hblank hfeed (h.1 _ rfl) _
    | blank =>
      have hnothing : c ∉ "".toList := List.not_mem_nil
      exact not_mem_indented hblank hfeed hnothing 0
    | indent | dedent => exact List.not_mem_nil

end

end Layout

namespace SourceFile

/-- What a file begins with: the header, the package and the imports. -/
def opening (file : SourceFile) : String :=
  header ++ "\n" ++ file.packageText ++ file.importText

theorem text_eq (file : SourceFile) : file.text = file.opening ++ Layout.textFrom 0 file.body.layout :=
  rfl

/-- A file is at least as long as its header, its package and its body. -/
theorem le_utf8ByteSize_text (file : SourceFile) :
    (header ++ file.packageText).utf8ByteSize + (Layout.textFrom 0 file.body.layout).utf8ByteSize ≤ file.text.utf8ByteSize := by
  rw [text_eq, opening]
  simp only [String.utf8ByteSize_append]
  omega

theorem endsLine_opening (file : SourceFile) : EndsLine file.opening := by
  have happend : ∀ before text : String, EndsLine before → (text = "" ∨ EndsLine text) → EndsLine (before ++ text) := by
    rintro before text hbefore (rfl | ⟨rest, rfl⟩)
    · simpa using hbefore
    · exact ⟨before ++ rest, String.append_assoc.symm⟩
  refine happend _ _ (happend _ _ ⟨header, rfl⟩ ?_) ?_
  · unfold packageText
    split
    · exact Or.inl rfl
    · have hfeeds : "\n\n" = "\n" ++ "\n" := rfl
      exact Or.inr ⟨"package " ++ file.package ++ "\n", by rw [hfeeds, ← String.append_assoc]⟩
  · unfold importText
    split
    · exact Or.inl rfl
    · exact Or.inr ⟨_, rfl⟩

/-- What a step of the layout of a file writes stands on a line of its text. -/
theorem hasLine_text {file : SourceFile} {step : Layout} (hmem : step ∈ file.body.layout) {words more : String} (hwords : words ≠ "")
    (hcontent : step.content? = some (words ++ more)) : HasLine words file.text :=
  Layout.hasLine_append_textFrom file.endsLine_opening hmem hwords hcontent 0

/-- A part of the layout of a file is written in its text. -/
theorem writtenIn_text {file : SourceFile} {layout : List Layout} (h : layout <:+: file.body.layout) : Layout.WrittenIn layout file.text := by
  obtain ⟨first, last, hlayout⟩ := h
  refine ⟨file.opening ++ Layout.textFrom 0 first, Layout.depthAfterAll 0 first, Layout.textFrom (Layout.depthAfterAll 0 (first ++ layout)) last,
    Layout.endsLine_append_textFrom file.endsLine_opening first 0, ?_⟩
  rw [text_eq, ← hlayout, Layout.textFrom_append, Layout.textFrom_append]
  simp only [String.append_assoc]

end SourceFile

end NavGen
