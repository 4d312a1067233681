import NavGen.Text.ClusterTable

/-!
# Grapheme clusters

What a reader takes for one character may be several code points. This module cuts a text into extended grapheme clusters by the
rules of Unicode Standard Annex 29. The rules look at the next character and at a summary of the cluster read so far, so one pass
from left to right suffices.
-/

namespace NavGen.Text

/-- The values of Grapheme_Cluster_Break. -/
inductive BreakClass where
  | other | cr | lf | control | extend | joiner | regionalIndicator | prepended | spacingMark
  | leading | vowel | trailing | syllable | closedSyllable
  deriving DecidableEq

/-- The class of a character. A Hangul syllable without a trailing consonant is every 28th of its block. -/
def breakClass (c : Char) : BreakClass :=
  let code := c.toNat
  if code = 0xD then .cr
  else if code = 0xA then .lf
  else if code = 0x200D then .joiner
  else if ClusterTable.control.contains code then .control
  else if code < 0x80 then .other
  else if ClusterTable.extend.contains code then .extend
  else if ClusterTable.regionalIndicator.contains code then .regionalIndicator
  else if ClusterTable.prepended.contains code then .prepended
  else if ClusterTable.spacingMark.contains code then .spacingMark
  else if ClusterTable.leading.contains code then .leading
  else if ClusterTable.vowel.contains code then .vowel
  else if ClusterTable.trailing.contains code then .trailing
  else if 0xAC00 ≤ code && code ≤ 0xD7A3 then
    if (code - 0xAC00) % 28 = 0 then .syllable else .closedSyllable
  else .other

/-- Whether a character is a picture that joiners can tie to others. -/
def isPictographic (c : Char) : Bool :=
  ClusterTable.pictographic.contains c.toNat

/-- Whether a character is an Indic consonant that can stand in a conjunct. -/
def isConjunctConsonant (c : Char) : Bool :=
  ClusterTable.conjunctConsonant.contains c.toNat

/-- Whether a character links the consonants of a conjunct. -/
def isConjunctLinker (c : Char) : Bool :=
  ClusterTable.conjunctLinker.contains c.toNat

/-- How far a conjunct has come: not begun, a consonant with marks, or a consonant with a linker among its marks. -/
inductive Conjunct where
  | none | consonant | linked
  deriving DecidableEq

/-- What the break rules need to know of the text before a position. -/
structure ClusterState where
  last : BreakClass
  /-- The text ends in a picture followed by extending marks. -/
  picture : Bool
  /-- The text ends in such a picture and a joiner. -/
  joined : Bool
  conjunct : Conjunct
  /-- The text ends in an odd number of regional indicators. -/
  halfFlag : Bool

/-- The summary of the empty text. -/
def ClusterState.start : ClusterState :=
  { last := .other, picture := false, joined := false, conjunct := .none, halfFlag := false }

/-- The summary after one more character. -/
def ClusterState.step (before : ClusterState) (c : Char) : ClusterState :=
  let kind := breakClass c
  { last := kind
    picture := isPictographic c || (kind == .extend && before.picture)
    joined := kind == .joiner && before.picture
    conjunct :=
      if isConjunctConsonant c then .consonant
      else if isConjunctLinker c then (if before.conjunct == .none then .none else .linked)
      else if (kind == .extend && c.toNat != 0x200C) || kind == .joiner then before.conjunct
      else .none
    halfFlag := kind == .regionalIndicator && !before.halfFlag }

/-- Whether a character belongs to the cluster that the state summarises. The cases follow the rules GB3 to GB13 in their order. -/
def ClusterState.joins (before : ClusterState) (c : Char) : Bool :=
  match before.last, breakClass c with
  | .cr, .lf => true
  | .cr, _ | .lf, _ | .control, _ => false
  | _, .cr | _, .lf | _, .control => false
  | .leading, .leading | .leading, .vowel | .leading, .syllable | .leading, .closedSyllable => true
  | .syllable, .vowel | .syllable, .trailing | .vowel, .vowel | .vowel, .trailing => true
  | .closedSyllable, .trailing | .trailing, .trailing => true
  | _, .extend | _, .joiner | _, .spacingMark => true
  | .prepended, _ => true
  | last, kind =>
    (before.conjunct == .linked && isConjunctConsonant c)
      || (before.joined && isPictographic c)
      || (last == .regionalIndicator && kind == .regionalIndicator && before.halfFlag)

/-- Cuts the rest of a text into clusters. `current` is the cluster being read, `before` the summary of the text up to here. -/
def clustersFrom (before : ClusterState) (current : List Char) : List Char → List (List Char)
  | [] => [current]
  | c :: rest =>
    if before.joins c then clustersFrom (before.step c) (current ++ [c]) rest
    else current :: clustersFrom (before.step c) [c] rest

/-- The extended grapheme clusters of a text, in order. -/
def clusters : List Char → List (List Char)
  | [] => []
  | c :: rest => clustersFrom (ClusterState.start.step c) [c] rest

end NavGen.Text
