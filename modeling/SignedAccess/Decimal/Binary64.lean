/-
# Binary fractions of 53 bits

A finite number is a sign, a mantissa below `2 ^ 53` and an exponent of two
between -1074 and 971. Every operation computes the exact quotient first and
then rounds it to the nearest such number, ties going to the even mantissa;
there is no result when the rounded number would be out of range.
-/

namespace SignedAccess.Decimal

/-- A finite number of 53 significant bits. -/
structure Binary64 where
  negative : Bool
  mantissa : Nat
  exponent : Int
  deriving DecidableEq, Repr, Inhabited

/-- A quotient rounded to the nearest natural number, ties to even. -/
def roundDiv (num den : Nat) : Nat :=
  let q := num / den
  let twice := 2 * (num % den)
  if twice < den then q
  else if den < twice then q + 1
  else if q % 2 = 0 then q else q + 1

namespace Binary64

/-- The least mantissa of all 53 bits. -/
def leadingBit : Nat := 4503599627370496

/-- Zero. -/
def zero : Binary64 := ⟨false, 0, -1074⟩

/-- The number is a zero of either sign. -/
def isZero (x : Binary64) : Bool := x.mantissa == 0

/-- The same number with the other sign. -/
def neg (x : Binary64) : Binary64 := { x with negative := !x.negative }

/-- The number with the given sign nearest to a positive quotient. -/
def nearest (negative : Bool) (num den : Nat) : Option Binary64 :=
  if num = 0 then some { zero with negative }
  else
    let guess : Int := (num.log2 : Int) - (den.log2 : Int) - 52
    let scaled (e : Int) : Nat × Nat :=
      if e < 0 then (num * Nat.pow 2 e.natAbs, den) else (num, den * Nat.pow 2 e.toNat)
    let whole := (scaled guess).1 / (scaled guess).2
    let e := max (if whole < leadingBit then guess - 1 else guess) (-1074)
    let m := roundDiv (scaled e).1 (scaled e).2
    let (m, e) := if m = 2 * leadingBit then (leadingBit, e + 1) else (m, e)
    if 971 < e then none else some ⟨negative, m, e⟩

/-- The number `m * 2 ^ e / n`, rounded. -/
def ofScaled (negative : Bool) (m : Nat) (e : Int) (n : Nat) : Option Binary64 :=
  if e < 0 then nearest negative m (n * Nat.pow 2 e.natAbs)
  else nearest negative (m * Nat.pow 2 e.toNat) n

/-- The number nearest to a natural number. -/
def ofNat (n : Nat) : Option Binary64 := nearest false n 1

/-- The product, rounded. -/
def mul (x y : Binary64) : Option Binary64 :=
  ofScaled (x.negative != y.negative) (x.mantissa * y.mantissa) (x.exponent + y.exponent) 1

/-- The quotient, rounded, for a divisor that is not zero. -/
def div (x y : Binary64) : Option Binary64 :=
  ofScaled (x.negative != y.negative) x.mantissa (x.exponent - y.exponent) y.mantissa

/-- The number nearest to a power of ten. -/
def powerOfTen (k : Nat) : Option Binary64 := nearest false (Nat.pow 10 k) 1

/-- The quotient by `10 ^ 308`, the greatest power of ten in range. -/
def shrink (x : Binary64) : Option Binary64 := powerOfTen 308 >>= x.div

/-- The quotient by `10 ^ 308`, taken again and again. Zero stays zero. -/
def shrinkBy : Nat → Binary64 → Option Binary64
  | 0, x => some x
  | times + 1, x => if x.isZero then some x else x.shrink >>= shrinkBy times

/-- A number moved by a power of ten: up by one product, down by one quotient,
after as many quotients by `10 ^ 308` as bring the power into range. There is
no result when the number grows out of range. -/
def scale (x : Binary64) (exponent : Int) : Option Binary64 :=
  if exponent < 0 then do
    let zeros := exponent.natAbs
    let times := (zeros - 1) / 308
    let power ← powerOfTen (zeros - 308 * times)
    let y ← shrinkBy times x
    y.div power
  else if exponent ≤ 308 then powerOfTen exponent.toNat >>= x.mul
  else if x.isZero then some x
  else none

end Binary64

end SignedAccess.Decimal
