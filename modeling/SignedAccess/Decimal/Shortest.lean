/-
# The shortest decimal that reads back

For each count of digits the two multiples of the decimal grid around the
number are tested, and the first grid with a point in the interval of reals
that round to the number wins; of two such points the nearer is taken and a tie
goes to the even digit. A number is then written positionally when the exponent
of its first digit lies in the range of `Layout.standard`, always with a
point, and otherwise with an exponent that has a sign.
-/

import SignedAccess.Decimal.Binary64
import SignedAccess.Text.Integer

namespace SignedAccess.Decimal

open Text

/-- Decimal digits and the power of ten of the last one. -/
structure Digits where
  value : Nat
  power : Int
  deriving DecidableEq, Repr

/-- The power of ten of the first digit of a positive quotient. -/
def leadingPower (num den : Nat) : Int :=
  let guess : Int := ((decimal num).length : Int) - (decimal den).length
  let reaches :=
    if guess < 0 then den ≤ num * Nat.pow 10 guess.natAbs
    else den * Nat.pow 10 guess.toNat ≤ num
  if reaches then guess else guess - 1

/-- The point of the grid of multiples of `10 ^ power` that lies in the
interval around the quotient and is nearest to it, if there is one. The
interval reaches from `low / den` to `high / den`. -/
def onGrid (num low high den : Nat) (closed : Bool) (power : Int) : Option Nat :=
  let up := if power < 0 then Nat.pow 10 power.natAbs else 1
  let down := if power < 0 then 1 else Nat.pow 10 power.toNat
  let floor := num * up / (den * down)
  let inside (d : Nat) : Bool :=
    let x := d * down * den
    if closed then low * up ≤ x && x ≤ high * up else low * up < x && x < high * up
  let below := num * up - floor * down * den
  let above := (floor + 1) * down * den - num * up
  let downFirst := below < above || (below == above && floor % 2 == 0)
  let (first, second) := if downFirst then (floor, floor + 1) else (floor + 1, floor)
  if inside first && first != 0 then some first
  else if inside second && second != 0 then some second
  else none

/-- A number without the zeros at its end, and how many there were, looking at
no more than `fuel` of them. -/
def dropZeros : Nat → Nat → Nat × Nat
  | 0, n => (n, 0)
  | fuel + 1, n =>
      if n ≠ 0 ∧ n % 10 = 0 then
        let (m, k) := dropZeros fuel (n / 10)
        (m, k + 1)
      else (n, 0)

/-- The fewest digits that read back as a positive number. Seventeen always
do. -/
def shortest (x : Binary64) : Digits :=
  let e := x.exponent - 2
  let scaled (n : Nat) : Nat := if e < 0 then n else n * Nat.pow 2 e.toNat
  let den := if e < 0 then Nat.pow 2 e.natAbs else 1
  let num := scaled (4 * x.mantissa)
  let narrow := x.mantissa = Binary64.leadingBit ∧ -1074 < x.exponent
  let low := scaled (4 * x.mantissa - if narrow then 1 else 2)
  let high := scaled (4 * x.mantissa + 2)
  let closed := x.mantissa % 2 == 0
  let leading := leadingPower num den
  let attempt (count : Nat) : Option Digits :=
    let power := leading - (count : Int) + 1
    (onGrid num low high den closed power).map fun d =>
      let (digits, zeros) := dropZeros 20 d
      ⟨digits, power + zeros⟩
  ((List.range 17).findSome? fun i => attempt (i + 1)).getD ⟨0, 0⟩

/-- Which exponents are written positionally. -/
structure Layout where
  least : Int
  greatest : Int

/-- Numbers from `0.00001` to below `10 ^ 16` are written positionally. -/
def Layout.standard : Layout := ⟨-5, 15⟩

/-- Digits in writing. -/
def Digits.written (style : Layout) (d : Digits) : List Char :=
  let text := decimal d.value
  let leading : Int := d.power + text.length - 1
  if style.least ≤ leading ∧ leading ≤ style.greatest then
    if 0 ≤ d.power then text ++ List.replicate d.power.toNat '0' ++ ['.', '0']
    else if 0 ≤ leading then
      text.take (leading.toNat + 1) ++ '.' :: text.drop (leading.toNat + 1)
    else '0' :: '.' :: (List.replicate (leading.natAbs - 1) '0' ++ text)
  else
    let mark := if leading < 0 then '-' else '+'
    let tail := if text.length ≤ 1 then [] else '.' :: text.drop 1
    text.take 1 ++ tail ++ 'e' :: mark :: decimal leading.natAbs

/-- A number in writing. -/
def Binary64.written (x : Binary64) : List Char :=
  let body := if x.isZero then ['0', '.', '0'] else (shortest x).written Layout.standard
  if x.negative then '-' :: body else body

end SignedAccess.Decimal
