/-!
# Finding and cutting

The few searches in text that names, packages and patterns need: splitting at a separator, the part after the last separator,
whether a text occurs in another, and replacing every occurrence. All work on lists of characters, from left to right.
-/

namespace NavGen.Text

/-- The parts of a list of characters between the occurrences of a separator; one more than there are separators. -/
def splitChars (separator : Char) : List Char → List (List Char)
  | [] => [[]]
  | c :: rest =>
    if c = separator then [] :: splitChars separator rest
    else
      match splitChars separator rest with
      | [] => [[c]]
      | part :: parts => (c :: part) :: parts

/-- The parts of a text between the occurrences of a separator. -/
def split (separator : Char) (s : String) : List String :=
  (splitChars separator s.toList).map String.ofList

/-- The characters before and after the last separator, if there is one. -/
def splitLastChars (separator : Char) : List Char → Option (List Char × List Char)
  | [] => none
  | c :: rest =>
    match splitLastChars separator rest with
    | some (before, after) => some (c :: before, after)
    | none => if c = separator then some ([], rest) else none

/-- The text before and after the last separator, if there is one. -/
def splitLast (separator : Char) (s : String) : Option (String × String) :=
  (splitLastChars separator s.toList).map fun (before, after) => (String.ofList before, String.ofList after)

/-- What stands before `ending` at the end of a list of characters. -/
def beforeEndingChars (ending : List Char) (cs : List Char) : Option (List Char) :=
  if ending.isSuffixOf cs then some (cs.take (cs.length - ending.length)) else none

/-- What stands before `ending` at the end of a text; nothing if the text does not end so. -/
def beforeEnding (ending s : String) : Option String :=
  (beforeEndingChars ending.toList s.toList).map String.ofList

/-- Whether the first text begins the second. -/
def begins (start s : String) : Bool :=
  start.toList.isPrefixOf s.toList

/-- Whether `part` occurs somewhere in a list of characters. -/
def occursInChars (part : List Char) : List Char → Bool
  | [] => part.isEmpty
  | c :: rest => part.isPrefixOf (c :: rest) || occursInChars part rest

/-- Whether the first text occurs somewhere in the second. -/
def occursIn (part s : String) : Bool :=
  occursInChars part.toList s.toList

/-- Copies a list of characters with every occurrence of `part` replaced, after passing over `skip` characters. Occurrences are
taken from left to right and do not overlap. -/
def replaceChars (part replacement : List Char) : (skip : Nat) → List Char → List Char
  | _, [] => []
  | skip + 1, _ :: rest => replaceChars part replacement skip rest
  | 0, c :: rest =>
    if part.isPrefixOf (c :: rest) then replacement ++ replaceChars part replacement (part.length - 1) rest
    else c :: replaceChars part replacement 0 rest

/-- The text with every occurrence of a non-empty `part` replaced. -/
def replace (part replacement s : String) : String :=
  String.ofList (replaceChars part.toList replacement.toList 0 s.toList)

end NavGen.Text
