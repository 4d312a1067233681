/-!
# Sorted lists

Everything that is generated comes in an order that depends only on what it holds. The two operations here give such an order: a stable
sort, and the sorted list of the distinct texts of a list. Texts are compared code point by code point.
-/

namespace NavGen

/-- Puts an item before the first one it does not come after. -/
def insertSorted {α : Type} (le : α → α → Bool) (item : α) : List α → List α
  | [] => [item]
  | other :: rest => if le item other then item :: other :: rest else other :: insertSorted le item rest

/-- Sorts a list by insertion. Items that compare equal keep their order. -/
def sortBy {α : Type} (le : α → α → Bool) : List α → List α
  | [] => []
  | item :: rest => insertSorted le item (sortBy le rest)

/-- Drops each item that equals its successor. -/
def dropRepeats {α : Type} [DecidableEq α] : List α → List α
  | [] => []
  | [item] => [item]
  | item :: next :: rest => if item = next then dropRepeats (next :: rest) else item :: dropRepeats (next :: rest)

/-- Whether a text comes before another or equals it. -/
def textLe (a b : String) : Bool :=
  decide (a ≤ b)

/-- The distinct texts of a list, sorted. -/
def sortedTexts (texts : List String) : List String :=
  dropRepeats (sortBy textLe texts)

end NavGen
