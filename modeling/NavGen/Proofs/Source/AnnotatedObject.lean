import NavGen.Generated.ModuleRegistry
import NavGen.Proofs.Source.Tokens
import NavGen.Symbol.Declaration

/-!
# Reading an annotated object

What a compiler knows of an object that a source file declares under an annotation. The annotation is read from the text of the file: its arguments
by name, texts without their escapes, lists in brackets as arrays and annotations inside others as annotations.
-/

namespace NavGen

namespace AnnotationReader

mutual

/-- The value that some tokens begin with, and the tokens behind it. Annotation classes are those of a package. No more than `steps` values are opened
inside each other or read one after the other. -/
def value? (package : String) : (steps : Nat) → List Token → Option (AnnotationValue × List Token)
  | _ + 1, .text value :: rest => some (.text value, rest)
  | steps + 1, .mark '[' :: rest => (items? package steps rest).map fun (items, rest) => (.array items, rest)
  | steps + 1, .word type :: .mark '(' :: rest =>
    (arguments? package steps rest).map fun (arguments, rest) => (.nested (package ++ "." ++ type) [] arguments, rest)
  | _ + 1, .word "true" :: rest => some (.bool true, rest)
  | _ + 1, .word "false" :: rest => some (.bool false, rest)
  | _, _ => none

/-- The items of an array behind its opening bracket, and the tokens behind the closing one. -/
def items? (package : String) : (steps : Nat) → List Token → Option (List AnnotationValue × List Token)
  | _ + 1, .mark ']' :: rest => some ([], rest)
  | steps + 1, tokens =>
    match value? package steps tokens with
    | some (value, .mark ',' :: rest) => (items? package steps rest).map fun (others, rest) => (value :: others, rest)
    | some (value, .mark ']' :: rest) => some ([value], rest)
    | _ => none
  | _, _ => none

/-- The arguments of an annotation behind its opening bracket, and the tokens behind the closing one. -/
def arguments? (package : String) : (steps : Nat) → List Token → Option (List (String × AnnotationValue) × List Token)
  | _ + 1, .mark ')' :: rest => some ([], rest)
  | steps + 1, .word name :: .mark '=' :: rest =>
    match value? package steps rest with
    | some (value, .mark ',' :: rest) => (arguments? package steps rest).map fun (others, rest) => ((name, value) :: others, rest)
    | some (value, .mark ')' :: rest) => some ([(name, value)], rest)
    | _ => none
  | _, _ => none

end

end AnnotationReader

/-- The object that a file declares under the first annotation of its text, if it declares nothing else behind that. -/
def GeneratedFile.annotatedObject? (file : GeneratedFile) : Option Declaration :=
  match tokens? ((file.content.toList.dropWhile (· != '@')).drop 1) with
  | some (.word type :: .mark '(' :: rest) =>
    match AnnotationReader.arguments? file.package rest.length rest with
    | some (arguments, [.word "public", .word "object", .word name]) =>
      some {
        qualified := file.package ++ "." ++ name
        kind := .object
        annotations := [{ type := file.package ++ "." ++ type, typeArguments := [], arguments }] }
    | _ => none
  | _ => none

namespace ArgumentCode

mutual

/-- The tokens of an argument. -/
def tokens : ArgumentCode → List Token
  | .text value => [.text value]
  | .bool value => [.word (Literal.ofBool value)]
  | .array items => .mark '[' :: itemTokens items ++ [.mark ']']
  | .nested type arguments => .word type :: .mark '(' :: argumentTokens arguments ++ [.mark ')']

/-- The tokens of the items of an array. -/
def itemTokens : List ArgumentCode → List Token
  | [] => []
  | item :: rest => item.tokens ++ .mark ',' :: itemTokens rest

/-- The tokens of named arguments. -/
def argumentTokens : List (String × ArgumentCode) → List Token
  | [] => []
  | (name, argument) :: rest => .word name :: .mark '=' :: argument.tokens ++ .mark ',' :: argumentTokens rest

end

mutual

/-- The value of an argument, when annotation classes are those of a package. -/
def value (package : String) : ArgumentCode → AnnotationValue
  | .text value => .text value
  | .bool value => .bool value
  | .array items => .array (itemValues package items)
  | .nested type arguments => .nested (package ++ "." ++ type) [] (argumentValues package arguments)

/-- The values of the items of an array. -/
def itemValues (package : String) : List ArgumentCode → List AnnotationValue
  | [] => []
  | item :: rest => item.value package :: itemValues package rest

/-- The values of named arguments. -/
def argumentValues (package : String) : List (String × ArgumentCode) → List (String × AnnotationValue)
  | [] => []
  | (name, argument) :: rest => (name, argument.value package) :: argumentValues package rest

end

mutual

/-- Whether all names in an argument are words. -/
def WellNamed : ArgumentCode → Prop
  | .text _ | .bool _ => True
  | .array items => WellNamedItems items
  | .nested type arguments => IsWord type ∧ WellNamedArguments arguments

/-- Whether all names in the items of an array are words. -/
def WellNamedItems : List ArgumentCode → Prop
  | [] => True
  | item :: rest => item.WellNamed ∧ WellNamedItems rest

/-- Whether all names of arguments, and in them, are words. -/
def WellNamedArguments : List (String × ArgumentCode) → Prop
  | [] => True
  | (name, argument) :: rest => IsWord name ∧ argument.WellNamed ∧ WellNamedArguments rest

end

/-! ## From lines to tokens -/

mutual

/-- The lines of an argument close the scopes that they open. -/
theorem wellNested_layout (introduction : String) : (argument : ArgumentCode) → Layout.WellNested (argument.layout introduction)
  | .text _ | .bool _ => Layout.wellNested_nil.code _
  | .array items => (wellNested_itemLayout items).bracketed _ _
  | .nested _ arguments => (wellNested_argumentLayout arguments).bracketed _ _

theorem wellNested_itemLayout : (items : List ArgumentCode) → Layout.WellNested (itemLayout items)
  | [] => Layout.wellNested_nil
  | item :: rest => (wellNested_layout "" item).append (wellNested_itemLayout rest)

theorem wellNested_argumentLayout : (arguments : List (String × ArgumentCode)) → Layout.WellNested (argumentLayout arguments)
  | [] => Layout.wellNested_nil
  | (name, argument) :: rest => (wellNested_layout (name ++ " = ") argument).append (wellNested_argumentLayout rest)

end

/-- Lines between brackets have the tokens of the brackets and of what stands between them. -/
theorem lexes_bracketed {first last : String} {inside : List Layout} {opening tokens closing : List Token} (hlevel : Layout.Level inside)
    (hfirst : Lexes first.toList opening) (hlast : Lexes last.toList closing) {depth : Nat}
    (h : Lexes (Layout.textFrom (depth + 1) inside).toList tokens) :
    Lexes (Layout.textFrom depth (Layout.bracketed (.code first) inside last)).toList (opening ++ tokens ++ closing) := by
  rw [Layout.textFrom_bracketed hlevel, String.toList_append, String.toList_append]
  exact ((hfirst.indented depth).append h).append (hlast.indented depth)

theorem lexes_ofBool (value : Bool) : Lexes (Literal.ofBool value ++ ",").toList [.word (Literal.ofBool value), .mark ','] := by
  cases value <;> decide

/-- What introduces the value of an argument. -/
theorem lexes_introduction {name : String} (h : IsWord name) : Lexes (name ++ " = ").toList [.word name, .mark '='] := by
  have hname : Lexes (name.toList ++ [' ']) [.word name] := lexes_word h (by decide) (by decide)
  have hequals : Lexes "= ".toList [.mark '='] := by decide
  have hsplit : " = ".toList = [' '] ++ "= ".toList := by decide
  rw [String.toList_append, hsplit, ← List.append_assoc]
  exact hname.append hequals

/-- What opens the arguments of an annotation. -/
theorem lexes_opening {name : String} (h : IsWord name) : Lexes (name ++ "(").toList [.word name, .mark '('] := by
  rw [String.toList_append]
  exact lexes_word h (by decide) (by decide)

mutual

/-- The lines of an argument have its tokens, and the comma behind it, at any depth. -/
theorem lexes_layout {introduction : String} {opening : List Token} (hopening : Lexes introduction.toList opening) :
    (argument : ArgumentCode) → argument.WellNamed → (depth : Nat) →
      Lexes (Layout.textFrom depth (argument.layout introduction)).toList (opening ++ argument.tokens ++ [.mark ','])
  | .text value, _, depth => by
    have hcomma : Lexes ",".toList [.mark ','] := by decide
    rw [layout, Layout.textFrom_code]
    refine Lexes.indented ?_ depth
    rw [String.toList_append, String.toList_append]
    exact (hopening.append (lexes_quote value)).append hcomma
  | .bool value, _, depth => by
    rw [layout, Layout.textFrom_code]
    refine Lexes.indented ?_ depth
    rw [String.append_assoc, String.toList_append, tokens, List.append_assoc]
    exact hopening.append (lexes_ofBool value)
  | .array items, h, depth => by
    have hfirst : Lexes (introduction ++ "[").toList (opening ++ [.mark '[']) := by
      rw [String.toList_append]
      exact hopening.append (by decide)
    have hlast : Lexes "],".toList [.mark ']', .mark ','] := by decide
    have hitems := lexes_itemLayout items h (depth + 1)
    simpa [layout, tokens] using lexes_bracketed (wellNested_itemLayout items).level hfirst hlast hitems
  | .nested name arguments, h, depth => by
    have hfirst : Lexes (introduction ++ name ++ "(").toList (opening ++ [.word name, .mark '(']) := by
      rw [String.append_assoc, String.toList_append]
      exact hopening.append (lexes_opening h.1)
    have hlast : Lexes "),".toList [.mark ')', .mark ','] := by decide
    have harguments := lexes_argumentLayout arguments h.2 (depth + 1)
    simpa [layout, tokens] using lexes_bracketed (wellNested_argumentLayout arguments).level hfirst hlast harguments

theorem lexes_itemLayout :
    (items : List ArgumentCode) → WellNamedItems items → (depth : Nat) →
      Lexes (Layout.textFrom depth (itemLayout items)).toList (itemTokens items)
  | [], _, _ => lexes_nil
  | item :: rest, h, depth => by
    rw [itemLayout, (wellNested_layout "" item).level.textFrom_append, String.toList_append]
    have hnothing : Lexes "".toList [] := lexes_nil
    simpa [itemTokens] using (lexes_layout hnothing item h.1 depth).append (lexes_itemLayout rest h.2 depth)

theorem lexes_argumentLayout :
    (arguments : List (String × ArgumentCode)) → WellNamedArguments arguments → (depth : Nat) →
      Lexes (Layout.textFrom depth (argumentLayout arguments)).toList (argumentTokens arguments)
  | [], _, _ => lexes_nil
  | (name, argument) :: rest, h, depth => by
    rw [argumentLayout, (wellNested_layout (name ++ " = ") argument).level.textFrom_append, String.toList_append]
    simpa [argumentTokens] using
      (lexes_layout (lexes_introduction h.1) argument h.2.1 depth).append (lexes_argumentLayout rest h.2.2 depth)

end

/-! ## From tokens to values -/

/-- The tokens of an argument do not begin with the end of an array. -/
theorem tokens_append_ne (argument : ArgumentCode) (behind rest : List Token) : argument.tokens ++ behind ≠ .mark ']' :: rest := by
  cases argument <;> simp [tokens]

open AnnotationReader

mutual

/-- An argument is read back from its tokens. -/
theorem value?_tokens (package : String) :
    (argument : ArgumentCode) → (steps : Nat) → (rest : List Token) → argument.tokens.length ≤ steps →
      value? package steps (argument.tokens ++ .mark ',' :: rest) = some (argument.value package, .mark ',' :: rest)
  | .text value, steps + 1, rest, _ => rfl
  | .bool true, steps + 1, rest, _ => rfl
  | .bool false, steps + 1, rest, _ => rfl
  | .array items, steps + 1, rest, h => by
    have hitems := items?_itemTokens package items steps (.mark ',' :: rest) (by simp [tokens] at h; omega)
    simp [tokens, value?, ArgumentCode.value, hitems]
  | .nested type arguments, steps + 1, rest, h => by
    have harguments := arguments?_argumentTokens package arguments steps (.mark ',' :: rest) (by simp [tokens] at h; omega)
    simp [tokens, value?, ArgumentCode.value, harguments]
  | .text _, 0, _, h | .bool _, 0, _, h | .array _, 0, _, h | .nested _ _, 0, _, h => by simp [tokens] at h

theorem items?_itemTokens (package : String) :
    (items : List ArgumentCode) → (steps : Nat) → (rest : List Token) → (itemTokens items).length < steps →
      items? package steps (itemTokens items ++ .mark ']' :: rest) = some (itemValues package items, rest)
  | [], steps + 1, rest, _ => rfl
  | item :: others, steps + 1, rest, h => by
    rw [itemTokens, List.length_append, List.length_cons] at h
    have hitem := value?_tokens package item steps (itemTokens others ++ .mark ']' :: rest) (by omega)
    have hothers := items?_itemTokens package others steps rest (by omega)
    rw [itemTokens, List.append_assoc, List.cons_append, items?, hitem]
    · simp [hothers, itemValues]
    · exact tokens_append_ne item _
  | _, 0, _, h => by simp at h

theorem arguments?_argumentTokens (package : String) :
    (arguments : List (String × ArgumentCode)) → (steps : Nat) → (rest : List Token) → (argumentTokens arguments).length < steps →
      arguments? package steps (argumentTokens arguments ++ .mark ')' :: rest) = some (argumentValues package arguments, rest)
  | [], steps + 1, rest, _ => rfl
  | (name, argument) :: others, steps + 1, rest, h => by
    simp only [argumentTokens, List.length_append, List.length_cons, List.cons_append] at h
    have hargument := value?_tokens package argument steps (argumentTokens others ++ .mark ')' :: rest) (by omega)
    have hothers := arguments?_argumentTokens package others steps rest (by omega)
    simp [argumentTokens, arguments?, hargument, hothers, argumentValues]
  | _, 0, _, h => by simp at h

end

end ArgumentCode

/-- The object that a file declares is found behind the first sign that opens an annotation. -/
theorem GeneratedFile.annotatedObject?_of_lexes {file : GeneratedFile} {package : String} (hpackage : file.package = package)
    {before behind : List Char} (hbefore : '@' ∉ before) (hcontent : file.content.toList = before ++ '@' :: behind) {type name : String}
    {arguments : List (String × ArgumentCode)}
    (h : Lexes behind (.word type :: .mark '(' :: (ArgumentCode.argumentTokens arguments ++ .mark ')' ::
      [.word "public", .word "object", .word name]))) :
    file.annotatedObject? = some {
      qualified := package ++ "." ++ name
      kind := .object
      annotations := [{
        type := package ++ "." ++ type
        typeArguments := []
        arguments := ArgumentCode.argumentValues package arguments }] } := by
  subst hpackage
  have hpassed : ∀ c ∈ before, (c != '@') = true := fun c hc => bne_iff_ne.2 fun heq => hbefore (heq ▸ hc)
  have hbehind : (file.content.toList.dropWhile (· != '@')).drop 1 = behind := by
    rw [hcontent, List.dropWhile_append_of_pos hpassed]
    rfl
  have harguments := fun steps => ArgumentCode.arguments?_argumentTokens file.package arguments steps
    [.word "public", .word "object", .word name]
  unfold annotatedObject?
  rw [hbehind, h.tokens?]
  simp [harguments]

end NavGen
