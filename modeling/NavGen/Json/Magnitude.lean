/-!
# Numbers beyond the doubles

Which decimal numbers are too large to be read. The digits of a number are gathered into a word of 64 bits; those that no longer fit only
count, before the point. The word and the power of ten that belongs to it are each rounded to a double and multiplied, and the number is
beyond the doubles when that product rounds to infinity. This differs from rounding the number itself, by a few of the largest doubles.
-/

namespace NavGen.Json

/-- The nearest number that has at most 53 significant bits; of two equally near ones, the one whose last such bit is zero. -/
def roundToDouble (n : Nat) : Nat :=
  let unit := Nat.pow 2 (n.log2 - 52)
  let floor := n / unit
  let excess := 2 * (n % unit)
  (if unit < excess ∨ (excess = unit ∧ floor % 2 = 1) then floor + 1 else floor) * unit

/-- The least number that rounds to infinity as a double. -/
def beyondDoubles : Nat :=
  Nat.pow 2 1024 - Nat.pow 2 970

/-- Appends decimal digits to a number for as long as it fits a word of 64 bits. The digits left over are answered too. -/
def appendDigits (n : Nat) : List Char → Nat × List Char
  | [] => (n, [])
  | c :: rest =>
    let extended := n * 10 + (c.toNat - 0x30)
    if extended < 0x10000000000000000 then appendDigits extended rest else (n, c :: rest)

/-- Whether the number written with the digits `whole` before the point, the digits `decimals` behind it and an exponent is beyond the
doubles. -/
def isBeyondDoubles (whole decimals : List Char) (exponent : Int) : Bool :=
  let (gathered, passed) := appendDigits 0 whole
  let (significand, ignored) := appendDigits gathered decimals
  let scale : Int := exponent + passed.length - (decimals.length - ignored.length)
  significand != 0 &&
    (decide (308 < scale) ||
      (decide (0 ≤ scale) && decide (beyondDoubles ≤ roundToDouble significand * roundToDouble (Nat.pow 10 scale.toNat))))

end NavGen.Json
