/-
# Decimal integers with a limit

A number is read digit by digit from the left, and the first fault met decides
which one is reported, so a text that grows past the limit before its first
wrong character is too large rather than malformed. A leading `+` is allowed;
a leading `-` only where negative numbers are.
-/

namespace SignedAccess.Text

/-- Why a text is not an integer within its limits. -/
inductive IntegerFault
  | empty
  | invalidDigit
  | tooLarge
  | tooSmall
  deriving DecidableEq, Repr

/-- The wording of a fault. -/
def IntegerFault.message : IntegerFault → String
  | .empty => "cannot parse integer from empty string"
  | .invalidDigit => "invalid digit found in string"
  | .tooLarge => "number too large to fit in target type"
  | .tooSmall => "number too small to fit in target type"

/-- Digits read from the left onto `acc` while the value stays within `limit`. -/
def digitsUpTo (limit : Nat) (onOverflow : IntegerFault) (acc : Nat) :
    List Char → Except IntegerFault Nat
  | [] => .ok acc
  | c :: rest =>
      if c.isDigit then
        let next := acc * 10 + (c.toNat - 0x30)
        if limit < next then .error onOverflow
        else digitsUpTo limit onOverflow next rest
      else .error .invalidDigit

/-- A natural number of at most `limit`. -/
def readNat (limit : Nat) (text : List Char) : Except IntegerFault Nat :=
  match text with
  | [] => .error .empty
  | ['+'] => .error .invalidDigit
  | '+' :: rest => digitsUpTo limit .tooLarge 0 rest
  | cs => digitsUpTo limit .tooLarge 0 cs

/-- How far an integer of 64 bits with a sign may lie below zero. It ends one
short of that above zero. -/
def signedLimit : Nat := 9223372036854775808

/-- An integer of 64 bits with a sign. -/
def readInt64 (text : List Char) : Except IntegerFault Int :=
  match text with
  | [] => .error .empty
  | ['+'] => .error .invalidDigit
  | ['-'] => .error .invalidDigit
  | '+' :: rest => (digitsUpTo (signedLimit - 1) .tooLarge 0 rest).map Int.ofNat
  | '-' :: rest => (digitsUpTo signedLimit .tooSmall 0 rest).map fun n => -(Int.ofNat n)
  | cs => (digitsUpTo (signedLimit - 1) .tooLarge 0 cs).map Int.ofNat

theorem digitsUpTo_le {limit acc n : Nat} {onOverflow : IntegerFault} {cs : List Char}
    (hacc : acc ≤ limit) (hread : digitsUpTo limit onOverflow acc cs = .ok n) : n ≤ limit := by
  induction cs generalizing acc with
  | nil =>
      simp only [digitsUpTo, Except.ok.injEq] at hread
      omega
  | cons c rest ih =>
      unfold digitsUpTo at hread
      split at hread
      · simp only at hread
        split at hread
        · simp at hread
        · exact ih (by omega) hread
      · simp at hread

theorem readNat_le {limit n : Nat} {text : List Char} (hread : readNat limit text = .ok n) :
    n ≤ limit := by
  unfold readNat at hread
  split at hread
  · simp at hread
  · simp at hread
  · exact digitsUpTo_le (Nat.zero_le _) hread
  · exact digitsUpTo_le (Nat.zero_le _) hread

/-- A number in decimal digits. -/
def decimal (n : Nat) : List Char := Nat.toDigits 10 n

/-- A number in decimal digits, with zeros in front up to a width. -/
def padded (width n : Nat) : List Char :=
  List.replicate (width - (decimal n).length) '0' ++ decimal n

end SignedAccess.Text
