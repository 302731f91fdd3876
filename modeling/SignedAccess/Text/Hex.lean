/-
# Hexadecimal digits

One digit function serves both cases of letters; bytes are written as two
digits each and read back by `ofHex?`, which takes either case.
-/

namespace SignedAccess.Text

/-- The lower-case hexadecimal digit of a number below sixteen. -/
def hexDigit (n : Nat) : Char :=
  if n < 10 then Char.ofNat (0x30 + n) else Char.ofNat (0x57 + n)

/-- The upper-case hexadecimal digit of a number below sixteen. -/
def hexDigitUpper (n : Nat) : Char :=
  if n < 10 then Char.ofNat (0x30 + n) else Char.ofNat (0x37 + n)

/-- The value of a hexadecimal digit of either case. -/
def hexValue? (c : Char) : Option Nat :=
  let n := c.toNat
  if 0x30 ≤ n ∧ n ≤ 0x39 then some (n - 0x30)
  else if 0x41 ≤ n ∧ n ≤ 0x46 then some (n - 0x37)
  else if 0x61 ≤ n ∧ n ≤ 0x66 then some (n - 0x57)
  else none

theorem hexValue?_hexDigit {n : Nat} (hn : n < 16) : hexValue? (hexDigit n) = some n := by
  have hall : ∀ m ∈ List.range 16, hexValue? (hexDigit m) = some m := by decide
  exact hall n (List.mem_range.2 hn)

theorem hexValue?_hexDigitUpper {n : Nat} (hn : n < 16) :
    hexValue? (hexDigitUpper n) = some n := by
  have hall : ∀ m ∈ List.range 16, hexValue? (hexDigitUpper m) = some m := by decide
  exact hall n (List.mem_range.2 hn)

/-- Bytes written with two lower-case digits each. -/
def toHex (bs : List UInt8) : List Char :=
  bs.flatMap fun b => [hexDigit (b.toNat / 16), hexDigit (b.toNat % 16)]

theorem toHex_cons (b : UInt8) (rest : List UInt8) :
    toHex (b :: rest) =
      hexDigit (b.toNat / 16) :: hexDigit (b.toNat % 16) :: toHex rest := rfl

@[simp]
theorem length_toHex (bs : List UInt8) : (toHex bs).length = 2 * bs.length := by
  induction bs with
  | nil => rfl
  | cons b rest ih =>
      rw [toHex_cons, List.length_cons, List.length_cons, ih, List.length_cons]
      omega

/-- The first digit of a byte stands in its place. -/
theorem getElem?_toHex {bs : List UInt8} {i : Nat} {b : UInt8} (hb : bs[i]? = some b) :
    (toHex bs)[2 * i]? = some (hexDigit (b.toNat / 16)) := by
  induction bs generalizing i with
  | nil => cases hb
  | cons first rest ih =>
      rw [toHex_cons]
      cases i with
      | zero =>
          cases hb
          rfl
      | succ i => exact ih hb

/-- A fact about the digits of bytes is a fact about sixteen characters. -/
theorem forall_mem_toHex {p : Char → Prop} (hall : ∀ n ∈ List.range 16, p (hexDigit n))
    {bs : List UInt8} : ∀ c ∈ toHex bs, p c := by
  intro c hc
  obtain ⟨b, _, hin⟩ := List.mem_flatMap.1 hc
  have hb : b.toNat < 256 := b.toNat_lt
  simp only [List.mem_cons, List.not_mem_nil, or_false] at hin
  rcases hin with rfl | rfl
  · exact hall _ (List.mem_range.2 (by omega))
  · exact hall _ (List.mem_range.2 (by omega))

/-- The bytes that pairs of hexadecimal digits write. -/
def ofHex? : List Char → Option (List UInt8)
  | [] => some []
  | [_] => none
  | a :: b :: rest => do
      let high ← hexValue? a
      let low ← hexValue? b
      let more ← ofHex? rest
      some (UInt8.ofNat (16 * high + low) :: more)

/-- Bytes are read back from their digits. -/
@[simp]
theorem ofHex?_toHex (bs : List UInt8) : ofHex? (toHex bs) = some bs := by
  induction bs with
  | nil => rfl
  | cons b rest ih =>
      have hb : b.toNat < 256 := b.toNat_lt
      rw [toHex_cons, ofHex?, hexValue?_hexDigit (by omega), hexValue?_hexDigit (by omega), ih]
      simp only [Option.bind_eq_bind, Option.bind_some, Nat.div_add_mod, UInt8.ofNat_toNat]

/-- The hexadecimal digits of a number, lower case, without leading zeros. -/
def hexOfNat (n : Nat) : List Char := Nat.toDigits 16 n

end SignedAccess.Text
