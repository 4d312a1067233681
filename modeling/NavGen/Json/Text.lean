import NavGen.Json.Document
import NavGen.Json.Magnitude

/-!
# JSON texts

Reading a JSON text strictly: no text before or after the value but white space, no trailing commas, no leading zeros, no control
characters inside quotes. What is well formed but denotes no value becomes `unreadable`. A step of the parser answers what it has read
together with the characters left, which are fewer than it was given; the parser ends for that reason.
-/

namespace NavGen.JsonText

/-- Arrays and objects inside more than this many others are not read. -/
def maxDepth : Nat := 127

/-- What a step has read, and the characters it left. -/
structure Step (α : Type) (cs : List Char) where
  value : α
  rest : List Char
  shorter : rest.length < cs.length

/-- Whether a character may stand between the tokens of a text. -/
def isSpace (c : Char) : Bool :=
  c == ' ' || c == '\n' || c == '\t' || c == '\r'

/-- The characters after the leading white space. -/
def skipSpace (cs : List Char) : List Char :=
  cs.dropWhile isSpace

theorem length_dropWhile_le {α : Type} (p : α → Bool) (cs : List α) : (cs.dropWhile p).length ≤ cs.length :=
  (List.dropWhile_suffix p).length_le

theorem length_skipSpace_le (cs : List Char) : (skipSpace cs).length ≤ cs.length :=
  length_dropWhile_le isSpace cs

/-- A character of a quoted text, or one 16 bit unit given by its number. -/
inductive Piece where
  | char (c : Char)
  | unit (code : Nat)

/-- The value of a hexadecimal digit. -/
def hexValue? (c : Char) : Option Nat :=
  if c.isDigit then some (c.toNat - 0x30)
  else if 'a' ≤ c ∧ c ≤ 'f' then some (c.toNat - 0x61 + 10)
  else if 'A' ≤ c ∧ c ≤ 'F' then some (c.toNat - 0x41 + 10)
  else none

/-- The number four hexadecimal digits denote. -/
def hexUnit? (a b c d : Char) : Option Nat := do
  return (((← hexValue? a) * 16 + (← hexValue? b)) * 16 + (← hexValue? c)) * 16 + (← hexValue? d)

/-- The character an escape other than a number stands for. -/
def escaped? : Char → Option Char
  | '"' => some '"'
  | '\\' => some '\\'
  | '/' => some '/'
  | 'b' => some '\x08'
  | 'f' => some '\x0c'
  | 'n' => some '\n'
  | 'r' => some '\r'
  | 't' => some '\t'
  | _ => none

/-- The pieces of a quoted text up to its closing quote, last first, and the characters after it. -/
def pieces (read : List Piece) : List Char → Option (List Piece × List Char)
  | [] => none
  | '"' :: rest => some (read, rest)
  | '\\' :: 'u' :: a :: b :: c :: d :: rest =>
    match hexUnit? a b c d with
    | some code => pieces (.unit code :: read) rest
    | none => none
  | '\\' :: e :: rest =>
    match escaped? e with
    | some c => pieces (.char c :: read) rest
    | none => none
  | c :: rest => if c.toNat < 0x20 ∨ c = '\\' then none else pieces (.char c :: read) rest

theorem length_pieces_lt {read found : List Piece} {cs rest : List Char} (h : pieces read cs = some (found, rest)) :
    rest.length < cs.length := by
  fun_induction pieces read cs <;> simp_all <;> omega

/-- The text of a list of pieces, given what was assembled so far, last first. There is none if a unit is half of a surrogate pair
without its other half. -/
def assemble (done : List Char) : List Piece → Option (List Char)
  | [] => some done.reverse
  | .char c :: rest => assemble (c :: done) rest
  | .unit high :: .unit low :: rest =>
    if 0xD800 ≤ high ∧ high < 0xDC00 then
      if 0xDC00 ≤ low ∧ low < 0xE000 then
        assemble (Char.ofNat (0x10000 + (high - 0xD800) * 0x400 + (low - 0xDC00)) :: done) rest
      else none
    else if 0xDC00 ≤ high ∧ high < 0xE000 then none
    else assemble (Char.ofNat high :: done) (.unit low :: rest)
  | .unit code :: rest =>
    if 0xD800 ≤ code ∧ code < 0xE000 then none else assemble (Char.ofNat code :: done) rest

/-- A quoted text after its opening quote; no text if its escapes denote none. -/
def quoted? (cs : List Char) : Option (Step (Option String) cs) :=
  match h : pieces [] cs with
  | none => none
  | some (found, rest) => some ⟨(assemble [] found.reverse).map String.ofList, rest, length_pieces_lt h⟩

/-- The number a list of decimal digits denotes. -/
def natOfDigits (digits : List Char) : Nat :=
  digits.foldl (fun n c => n * 10 + (c.toNat - 0x30)) 0

/-- One or more digits, and the characters after them. -/
def digits? (cs : List Char) : Option (List Char × List Char) :=
  if (cs.takeWhile Char.isDigit).isEmpty then none else some (cs.takeWhile Char.isDigit, cs.dropWhile Char.isDigit)

theorem length_digits_lt {cs digits rest : List Char} (h : digits? cs = some (digits, rest)) : rest.length < cs.length := by
  have parts := congrArg List.length (List.takeWhile_append_dropWhile (p := Char.isDigit) (l := cs))
  simp only [List.length_append] at parts
  simp only [digits?, Option.ite_none_left_eq_some, List.isEmpty_iff, Option.some.injEq, Prod.mk.injEq] at h
  have := List.length_pos_iff.mpr h.1
  rw [← h.2.2]
  omega

/-- The digits of a number before its point. Only zero itself starts with the digit zero. -/
def whole? (cs : List Char) : Option (List Char × List Char) :=
  match digits? cs with
  | some ('0' :: _ :: _, _) => none
  | found => found

theorem length_whole_lt {cs digits rest : List Char} (h : whole? cs = some (digits, rest)) : rest.length < cs.length := by
  unfold whole? at h
  split at h
  · nomatch h
  · exact length_digits_lt h

/-- The fraction of a number: the digits after a point, if there is one. -/
def fraction? : List Char → Option (List Char × List Char)
  | '.' :: rest => digits? rest
  | rest => some ([], rest)

theorem length_fraction_le {cs digits rest : List Char} (h : fraction? cs = some (digits, rest)) : rest.length ≤ cs.length := by
  unfold fraction? at h
  split at h
  · have := length_digits_lt h
    simp only [List.length_cons]
    omega
  · simp_all

/-- The digits of an exponent whose sign was read. -/
def power? (negative : Bool) (cs : List Char) : Option (Option Int × List Char) :=
  (digits? cs).map fun (digits, rest) =>
    let size : Int := natOfDigits digits
    (some (if negative then -size else size), rest)

theorem length_power_lt {negative : Bool} {cs rest : List Char} {size : Option Int} (h : power? negative cs = some (size, rest)) :
    rest.length < cs.length := by
  simp only [power?, Option.map_eq_some_iff, Prod.exists] at h
  obtain ⟨digits, left, hd, hr⟩ := h
  have := length_digits_lt hd
  simp only [Prod.mk.injEq] at hr
  rw [← hr.2]
  exact this

/-- The exponent of a number, if it has one. -/
def exponent? : List Char → Option (Option Int × List Char)
  | 'e' :: '-' :: rest | 'E' :: '-' :: rest => power? true rest
  | 'e' :: '+' :: rest | 'E' :: '+' :: rest => power? false rest
  | 'e' :: rest | 'E' :: rest => power? false rest
  | rest => some (none, rest)

theorem length_exponent_le {cs rest : List Char} {size : Option Int} (h : exponent? cs = some (size, rest)) :
    rest.length ≤ cs.length := by
  unfold exponent? at h
  split at h
  case h_7 => simp_all
  all_goals
    have := length_power_lt h
    simp only [List.length_cons]
    omega

/-- A number without its sign. -/
def unsigned? (negative : Bool) (cs : List Char) : Option (Json × List Char) := do
  let (whole, rest) ← whole? cs
  let (decimals, rest) ← fraction? rest
  let (exponent, rest) ← exponent? rest
  let value : Json :=
    if Json.isBeyondDoubles whole decimals (exponent.getD 0) then .unreadable
    else if decimals.isEmpty && exponent.isNone && !(negative && whole == ['0']) then
      .int (if negative then -(natOfDigits whole : Int) else natOfDigits whole)
    else .real (String.ofList ((if negative then ['-'] else []) ++ cs.take (cs.length - rest.length)))
  return (value, rest)

theorem length_unsigned_lt {negative : Bool} {cs rest : List Char} {value : Json} (h : unsigned? negative cs = some (value, rest)) :
    rest.length < cs.length := by
  simp only [unsigned?, Option.bind_eq_bind, Option.bind_eq_some_iff, Prod.exists] at h
  obtain ⟨whole, afterWhole, hw, decimals, afterPoint, hd, exponent, left, he, hr⟩ := h
  have := length_whole_lt hw
  have := length_fraction_le hd
  have := length_exponent_le he
  simp only [Option.pure_def, Option.some.injEq, Prod.mk.injEq] at hr
  rw [← hr.2]
  omega

/-- A number. -/
def number? (cs : List Char) : Option (Step Json cs) :=
  match cs with
  | '-' :: rest =>
    match h : unsigned? true rest with
    | some (value, left) => some ⟨value, left, by have := length_unsigned_lt h; simp only [List.length_cons]; omega⟩
    | none => none
  | rest =>
    match h : unsigned? false rest with
    | some (value, left) => some ⟨value, left, length_unsigned_lt h⟩
    | none => none

/-- The value of a name without quotes. -/
def word? (cs : List Char) : Option (Step Json cs) :=
  match cs with
  | 't' :: 'r' :: 'u' :: 'e' :: rest => some ⟨.bool true, rest, by simp only [List.length_cons]; omega⟩
  | 'f' :: 'a' :: 'l' :: 's' :: 'e' :: rest => some ⟨.bool false, rest, by simp only [List.length_cons]; omega⟩
  | 'n' :: 'u' :: 'l' :: 'l' :: rest => some ⟨.null, rest, by simp only [List.length_cons]; omega⟩
  | _ => none

/-- The object of a list of members. It cannot be read if one of its keys denotes no text. -/
def ofMembers (members : List (Option String × Json)) : Json :=
  if members.all (·.1.isSome) then .object (members.map fun (key, value) => (key.getD "", value)) else .unreadable

mutual

/-- The value at the start of a list of characters; `depth` arrays and objects are open around it. -/
def value? (depth : Nat) (cs : List Char) : Option (Step Json cs) :=
  match h : cs with
  | '[' :: rest =>
    have : (skipSpace rest).length ≤ rest.length := length_skipSpace_le rest
    let wrap (items : List Json) : Json := if depth < maxDepth then .array items else .unreadable
    match hs : skipSpace rest with
    | ']' :: after => some ⟨wrap [], after, by simp_all; omega⟩
    | _ => do
      let items ← items? (depth + 1) rest
      return ⟨wrap items.value, items.rest, by have := items.shorter; simp only [List.length_cons]; omega⟩
  | '\x7b' :: rest =>
    have : (skipSpace rest).length ≤ rest.length := length_skipSpace_le rest
    let wrap (members : List (Option String × Json)) : Json := if depth < maxDepth then ofMembers members else .unreadable
    match hs : skipSpace rest with
    | '\x7d' :: after => some ⟨wrap [], after, by simp_all; omega⟩
    | _ => do
      let members ← members? (depth + 1) rest
      return ⟨wrap members.value, members.rest, by have := members.shorter; simp only [List.length_cons]; omega⟩
  | '"' :: rest => do
    let text ← quoted? rest
    return ⟨(text.value.map Json.text).getD .unreadable, text.rest, by have := text.shorter; simp only [List.length_cons]; omega⟩
  | c :: rest => if c.isDigit || c = '-' then number? (c :: rest) else word? (c :: rest)
  | [] => none
termination_by 2 * cs.length

/-- One or more values between commas, up to the closing bracket. -/
def items? (depth : Nat) (cs : List Char) : Option (Step (List Json) cs) := do
  have : (skipSpace cs).length ≤ cs.length := length_skipSpace_le cs
  let first ← value? depth (skipSpace cs)
  have : first.rest.length < (skipSpace cs).length := first.shorter
  have : (skipSpace first.rest).length ≤ first.rest.length := length_skipSpace_le first.rest
  match hs : skipSpace first.rest with
  | ']' :: after => some ⟨[first.value], after, by simp_all; omega⟩
  | ',' :: after => do
    have : after.length < cs.length := by simp_all; omega
    let others ← items? depth after
    return ⟨first.value :: others.value, others.rest, by have := others.shorter; omega⟩
  | _ => none
termination_by 2 * cs.length + 1

/-- One or more members between commas, up to the closing brace. -/
def members? (depth : Nat) (cs : List Char) : Option (Step (List (Option String × Json)) cs) := do
  have : (skipSpace cs).length ≤ cs.length := length_skipSpace_le cs
  match hq : skipSpace cs with
  | '"' :: opened =>
    let key ← quoted? opened
    have : key.rest.length < opened.length := key.shorter
    have : (skipSpace key.rest).length ≤ key.rest.length := length_skipSpace_le key.rest
    match hc : skipSpace key.rest with
    | ':' :: behind =>
      have : (skipSpace behind).length ≤ behind.length := length_skipSpace_le behind
      have : behind.length + 1 ≤ key.rest.length := by simp_all
      have : opened.length + 1 ≤ cs.length := by simp_all
      let first ← value? depth (skipSpace behind)
      have : first.rest.length < (skipSpace behind).length := first.shorter
      have : (skipSpace first.rest).length ≤ first.rest.length := length_skipSpace_le first.rest
      match hs : skipSpace first.rest with
      | '\x7d' :: after => some ⟨[(key.value, first.value)], after, by simp_all; omega⟩
      | ',' :: after => do
        have : after.length < cs.length := by simp_all; omega
        let others ← members? depth after
        return ⟨(key.value, first.value) :: others.value, others.rest, by have := others.shorter; omega⟩
      | _ => none
    | _ => none
  | _ => none
termination_by 2 * cs.length + 1

end

/-- The document of a text. -/
def parse? (s : String) : Option Json := do
  let document ← value? 0 (skipSpace s.toList)
  if (skipSpace document.rest).isEmpty then some document.value else none

end NavGen.JsonText
