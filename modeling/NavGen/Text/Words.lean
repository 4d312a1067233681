import NavGen.Text.Cluster
import NavGen.Text.Letter

/-!
# Words of an identifier

Routes, property names and class names are derived from one another by cutting a name into words and writing the words in another
convention. Words end at the separators `_`, `-` and space, where the case changes from lower to upper, between letters and digits, and
before the last capital of an acronym that runs into a word. Separators are dropped; the empty words beside them are kept.
-/

namespace NavGen.Text

/-- Whether a cluster is a separator of words. -/
def isWordSeparator (cluster : List Char) : Bool :=
  cluster == ['_'] || cluster == ['-'] || cluster == [' ']

/-- Whether a cluster is upper case: it has two cases and is written in the upper one. -/
def isUpper (cluster : List Char) : Bool :=
  upper cluster != lower cluster && cluster == upper cluster

/-- Whether a cluster is lower case: it has two cases and is written in the lower one. -/
def isLower (cluster : List Char) : Bool :=
  upper cluster != lower cluster && cluster == lower cluster

/-- Whether a cluster is an ASCII digit. -/
def isDigit (cluster : List Char) : Bool :=
  cluster.all Char.isDigit

/-- Whether a word ends after the cluster `here` when the clusters `rest` follow. -/
def endsWord (here : List Char) (rest : List (List Char)) : Bool :=
  match rest with
  | [] => false
  | next :: others =>
    (isLower here && isUpper next)
      || (isLower here && isDigit next)
      || (isUpper here && isDigit next)
      || (isDigit here && isLower next)
      || (isDigit here && isUpper next)
      || (isUpper here && isUpper next &&
        match others with
        | [] => false
        | afterNext :: _ => isLower afterNext)

/-- Cuts clusters into words; `current` is the word being read. -/
def wordsFrom (current : List Char) : List (List Char) → List (List Char)
  | [] => [current]
  | here :: rest =>
    if isWordSeparator here then current :: wordsFrom [] rest
    else if endsWord here rest then (current ++ here) :: wordsFrom [] rest
    else wordsFrom (current ++ here) rest

/-- The words of a name. The empty name has none. -/
def words (cs : List Char) : List (List Char) :=
  match clusters cs with
  | [] => []
  | first :: rest => wordsFrom [] (first :: rest)

/-- A word with its first character in upper case and the others in lower case. -/
def capitalize : List Char → List Char
  | [] => []
  | c :: rest => upperChar c ++ lower rest

/-- The words of a name in lower case, joined by underscores. -/
def snake (s : String) : String :=
  String.ofList (List.intercalate ['_'] ((words s.toList).map lower))

/-- The words of a name joined, the first in lower case and the others capitalized. -/
def camel (s : String) : String :=
  match words s.toList with
  | [] => ""
  | first :: rest => String.ofList (lower first ++ rest.flatMap capitalize)

/-- The words of a name joined, each capitalized. -/
def pascal (s : String) : String :=
  String.ofList ((words s.toList).flatMap capitalize)

end NavGen.Text
