import NavGen.Text.LetterTable

/-!
# Upper and lower case

The full case mappings of Unicode: a character may become several, and the Greek capital sigma has a lowercase of its own at the end
of a word.
-/

namespace NavGen.Text

/-- The mapping of a code point by sorted runs. -/
def mapByRuns : List CaseRun → Nat → Option Nat
  | [], _ => none
  | run :: rest, code =>
    if code < run.first then none
    else if code ≤ run.last && (code - run.first) % run.step = 0 then some (code + run.shift).toNat
    else mapByRuns rest code

/-- The entry of a code point in a list sorted by code point. -/
def sortedEntry : List (Nat × List Nat) → Nat → Option (List Nat)
  | [], _ => none
  | (key, value) :: rest, code =>
    if code < key then none
    else if code = key then some value
    else sortedEntry rest code

/-- A character mapped by runs and special cases; one that has no entry stays as it is. -/
def mapLetter (runs : List CaseRun) (special : List (Nat × List Nat)) (c : Char) : List Char :=
  match mapByRuns runs c.toNat with
  | some code => [Char.ofNat code]
  | none =>
    match sortedEntry special c.toNat with
    | some codes => codes.map Char.ofNat
    | none => [c]

/-- The uppercase of a character. -/
def upperChar (c : Char) : List Char :=
  mapLetter LetterTable.upperRuns LetterTable.upperSpecial c

/-- The lowercase of a character on its own. -/
def lowerChar (c : Char) : List Char :=
  mapLetter LetterTable.lowerRuns LetterTable.lowerSpecial c

/-- The uppercase of a text. -/
def upper (cs : List Char) : List Char :=
  cs.flatMap upperChar

/-- Whether the first character that is not case ignorable is a cased letter. -/
def startsCased (cs : List Char) : Bool :=
  match cs.dropWhile (LetterTable.caseIgnorable.contains ·.toNat) with
  | [] => false
  | c :: _ => LetterTable.cased.contains c.toNat

/-- The lowercase of the rest of a text, given the characters before it, nearest first. A capital sigma becomes the final form when a
cased letter stands before it and none after it. -/
def lowerAfter (before : List Char) : List Char → List Char
  | [] => []
  | c :: rest =>
    let here :=
      if c = 'Σ' then [if startsCased before && !startsCased rest then 'ς' else 'σ']
      else lowerChar c
    here ++ lowerAfter (c :: before) rest

/-- The lowercase of a text. -/
def lower (cs : List Char) : List Char :=
  lowerAfter [] cs

end NavGen.Text
