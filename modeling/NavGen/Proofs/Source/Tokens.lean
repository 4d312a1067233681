import NavGen.Pass.Options
import NavGen.Proofs.Source.Lines
import NavGen.Source.Literal

/-!
# Tokens of source text

What a compiler makes of source text first: words, the texts of literals, and marks. It takes one character after the other and knows what it is in
the middle of. The statements here say which tokens the pieces have that generated source is put together from.
-/

namespace NavGen

/-- A token of source text. -/
inductive Token where
  /-- A keyword or a name. -/
  | word (text : String)
  /-- A literal, by the text that it stands for. -/
  | text (value : String)
  /-- A bracket or another character that is a token by itself. -/
  | mark (c : Char)
  deriving DecidableEq

/-- What a place in source text is in the middle of, with what was read of it, last character first. -/
inductive Reading where
  | nothing
  | word (read : List Char)
  | literal (read : List Char)
  /-- A literal, behind a backslash. -/
  | escape (read : List Char)
  deriving DecidableEq

namespace Reading

/-- The character that an escape stands for. -/
def escaped? : Char → Option Char
  | 't' => some '\t'
  | 'b' => some '\x08'
  | 'n' => some '\n'
  | 'r' => some '\r'
  | '\'' => some '\''
  | '"' => some '"'
  | '\\' => some '\\'
  | '$' => some '$'
  | _ => none

/-- What a character is that does not continue a word or a literal. -/
def start (c : Char) : List Token × Reading :=
  if c = '"' then ([], .literal [])
  else if Config.isIdentifierChar c then ([], .word [c])
  else if c = ' ' ∨ c = '\n' then ([], .nothing)
  else ([.mark c], .nothing)

/-- The tokens that end with a character or before it, and what the place behind it is in the middle of. A literal ends on its line, and templates
inside literals are not read. -/
def step : Reading → Char → Option (List Token × Reading)
  | .nothing, c => some (start c)
  | .word read, c =>
    if Config.isIdentifierChar c then some ([], .word (c :: read))
    else some (.word (String.ofList read.reverse) :: (start c).1, (start c).2)
  | .literal read, c =>
    if c = '"' then some ([.text (String.ofList read.reverse)], .nothing)
    else if c = '\\' then some ([], .escape read)
    else if c = '$' ∨ c = '\n' then none
    else some ([], .literal (c :: read))
  | .escape read, c => (escaped? c).map fun meant => ([], .literal (meant :: read))

/-- The tokens of a piece of source text, and what its end is in the middle of. -/
def run : Reading → List Char → Option (List Token × Reading)
  | reading, [] => some ([], reading)
  | reading, c :: rest =>
    match reading.step c with
    | none => none
    | some (tokens, next) => (run next rest).map fun (others, last) => (tokens ++ others, last)

theorem run_append {reading next last : Reading} {first second : List Char} {tokens others : List Token}
    (h : run reading first = some (tokens, next)) (h' : run next second = some (others, last)) :
    run reading (first ++ second) = some (tokens ++ others, last) := by
  induction first generalizing reading tokens with
  | nil =>
    cases h
    exact h'
  | cons c rest ih =>
    rw [run] at h
    rw [List.cons_append, run]
    cases hstep : reading.step c with
    | none =>
      rw [hstep] at h
      contradiction
    | some stepped =>
      obtain ⟨found, between⟩ := stepped
      rw [hstep] at h
      obtain ⟨⟨more, _⟩, hrest, hpair⟩ := Option.map_eq_some_iff.1 h
      cases hpair
      simp only [ih hrest, Option.map_some, List.append_assoc]

end Reading

/-- The tokens of source text, if it does not end inside a literal. -/
def tokens? (source : List Char) : Option (List Token) :=
  match Reading.run .nothing source with
  | some (tokens, .nothing) => some tokens
  | some (tokens, .word read) => some (tokens ++ [.word (String.ofList read.reverse)])
  | _ => none

/-- Whether a piece of source text is made of whole tokens. -/
def Lexes (source : List Char) (tokens : List Token) : Prop :=
  Reading.run .nothing source = some (tokens, .nothing)

instance (source : List Char) (tokens : List Token) : Decidable (Lexes source tokens) :=
  inferInstanceAs (Decidable (_ = _))

/-- Whether a text is a word of source text. -/
structure IsWord (text : String) : Prop where
  nonempty : text.toList ≠ []
  chars : ∀ c ∈ text.toList, Config.isIdentifierChar c = true

theorem isWord_of_check {text : String} (h : (!text.toList.isEmpty && text.toList.all Config.isIdentifierChar) = true) : IsWord text := by
  rw [Bool.and_eq_true, Bool.not_eq_true', List.isEmpty_eq_false_iff, List.all_eq_true] at h
  exact ⟨h.1, h.2⟩

theorem Lexes.tokens? {source : List Char} {tokens : List Token} (h : Lexes source tokens) : tokens? source = some tokens := by
  rw [NavGen.tokens?, h]

theorem Lexes.append {first second : List Char} {tokens others : List Token} (h : Lexes first tokens) (h' : Lexes second others) :
    Lexes (first ++ second) (tokens ++ others) :=
  Reading.run_append h h'

theorem lexes_nil : Lexes [] [] :=
  rfl

/-! ## Words -/

theorem run_word {cs : List Char} (h : ∀ c ∈ cs, Config.isIdentifierChar c = true) (read : List Char) :
    Reading.run (.word read) cs = some ([], .word (cs.reverse ++ read)) := by
  induction cs generalizing read with
  | nil => rfl
  | cons c rest ih =>
    rw [List.forall_mem_cons] at h
    rw [Reading.run, Reading.step, if_pos h.1]
    dsimp only
    rw [ih h.2, List.reverse_cons, List.append_assoc, List.singleton_append]
    rfl

/-- The characters of identifiers do not open literals. -/
theorem start_of_isIdentifierChar {c : Char} (h : Config.isIdentifierChar c = true) : Reading.start c = ([], .word [c]) := by
  have hquote : c ≠ '"' := by
    rintro rfl
    contradiction
  rw [Reading.start, if_neg hquote, if_pos h]

/-- A word goes on up to a character that no word holds. -/
theorem lexes_word {text : String} (h : IsWord text) {c : Char} (hc : Config.isIdentifierChar c = false) {tokens : List Token}
    (hstart : Reading.start c = (tokens, .nothing)) : Lexes (text.toList ++ [c]) (.word text :: tokens) := by
  have hword : Reading.run .nothing text.toList = some ([], .word text.toList.reverse) := by
    obtain ⟨hnonempty, hchars⟩ := h
    cases htext : text.toList with
    | nil => exact absurd htext hnonempty
    | cons first rest =>
      rw [htext, List.forall_mem_cons] at hchars
      rw [Reading.run, Reading.step, start_of_isIdentifierChar hchars.1]
      dsimp only
      rw [run_word hchars.2, List.reverse_cons]
      rfl
  refine Reading.run_append hword ?_
  simp [Reading.run, Reading.step, hc, hstart]

/-! ## Literals -/

/-- An escape is read as the character that it was written for. -/
theorem run_escape (c : Char) (read : List Char) : Reading.run (.literal read) (Literal.escape c) = some ([], .literal (c :: read)) := by
  unfold Literal.escape
  split
  case h_6 hquote hbackslash hdollar hfeed _ =>
    have hstep : (Reading.literal read).step c = some ([], .literal (c :: read)) := by
      rw [Reading.step, if_neg hquote, if_neg hbackslash, if_neg (not_or.2 ⟨hdollar, hfeed⟩)]
    rw [Reading.run, hstep]
    rfl
  all_goals rfl

theorem run_literal (cs read : List Char) :
    Reading.run (.literal read) (cs.flatMap Literal.escape) = some ([], .literal (cs.reverse ++ read)) := by
  induction cs generalizing read with
  | nil => rfl
  | cons c rest ih =>
    rw [List.flatMap_cons, List.reverse_cons, List.append_assoc, List.singleton_append]
    exact Reading.run_append (run_escape c read) (ih (c :: read))

/-- The literal of a text stands for the text, whatever characters it has. -/
theorem lexes_quote (text : String) : Lexes (Literal.quote text).toList [.text text] := by
  have hopen : Reading.run .nothing ['"'] = some ([], .literal []) := rfl
  have hinside := run_literal text.toList []
  rw [List.append_nil] at hinside
  have hclose : Reading.run (.literal text.toList.reverse) ['"'] = some ([.text text], .nothing) := by
    simp [Reading.run, Reading.step]
  rw [Literal.quote, String.toList_ofList]
  exact Reading.run_append hopen (Reading.run_append hinside hclose)

example : tokens? "name = \"a\\$b\",".toList = some [.word "name", .mark '=', .text "a$b", .mark ','] := by
  decide

/-! ## Lines -/

theorem lexes_indentation (depth : Nat) : Lexes (indentation depth).toList [] := by
  induction depth with
  | zero => rfl
  | succ depth ih =>
    have hsplit : indentation (depth + 1) = "    " ++ indentation depth := by
      rw [indentation, List.replicate_succ, String.join_cons, ← indentation]
    have hblanks : Lexes "    ".toList [] := by decide
    rw [hsplit, String.toList_append]
    exact hblanks.append ih

/-- A line has the tokens of its text. -/
theorem Lexes.indented {text : String} {tokens : List Token} (h : Lexes text.toList tokens) (depth : Nat) :
    Lexes (Layout.indented depth text).toList tokens := by
  have hfeed : Lexes "\n".toList [] := by decide
  by_cases htext : text = ""
  · subst htext
    cases h
    exact hfeed
  · rw [Layout.indented_of_ne htext, String.toList_append, String.toList_append]
    simpa using ((lexes_indentation depth).append h).append hfeed

end NavGen
