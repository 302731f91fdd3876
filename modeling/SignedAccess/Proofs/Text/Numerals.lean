/-
# Numerals read back

A number written in decimal or hexadecimal digits is read back. Digits in any
base up to sixteen have their value by the same table, so one induction on the
number serves both bases; the readers differ only in how they bound what they
read.
-/

import Mathlib.Algebra.Group.Nat.Defs
import SignedAccess.Text.Hex
import SignedAccess.Text.Integer
import SignedAccess.Proofs.Text.Cuts

namespace SignedAccess.Text

/-- The number that digits write in a base after a number before them. -/
def valueIn (base n : Nat) (cs : List Char) : Nat :=
  cs.foldl (fun n c => base * n + (hexValue? c).getD 0) n

theorem valueIn_append (base n : Nat) (as bs : List Char) :
    valueIn base n (as ++ bs) = valueIn base (valueIn base n as) bs :=
  List.foldl_append

theorem valueIn_replicate_zero (base width : Nat) :
    valueIn base 0 (List.replicate width '0') = 0 := by
  induction width with
  | zero => rfl
  | succ width ih =>
      have hzero : hexValue? '0' = some 0 := by decide
      rw [List.replicate_succ, valueIn, List.foldl_cons, hzero]
      exact ih

theorem hexValue?_digitChar {d : Nat} (hd : d < 16) : hexValue? d.digitChar = some d := by
  have hall : ∀ e ∈ List.range 16, hexValue? e.digitChar = some e := by decide
  exact hall d (List.mem_range.2 hd)

section Base

variable {base : Nat} (hone : 1 < base) (hbase : base ≤ 16)

include hone hbase

/-- The digits of a number write it. -/
theorem valueIn_toDigits (n : Nat) : valueIn base 0 (Nat.toDigits base n) = n := by
  induction n using Nat.strongRecOn with
  | _ n ih =>
      by_cases hlt : n < base
      · rw [Nat.toDigits_of_lt_base hlt]
        simp [valueIn, hexValue?_digitChar (show n < 16 by omega)]
      · have hge : base ≤ n := Nat.le_of_not_lt hlt
        have hmod : n % base < base := Nat.mod_lt n (by omega)
        rw [Nat.toDigits_of_base_le hone hge, valueIn_append,
          ih (n / base) (Nat.div_lt_self (by omega) hone)]
        simp only [valueIn, List.foldl_cons, List.foldl_nil,
          hexValue?_digitChar (show n % base < 16 by omega), Option.getD_some]
        exact Nat.div_add_mod n base

/-- Every digit of a number has a value below the base. -/
theorem hexValue?_of_mem_toDigits {n : Nat} {c : Char} (hc : c ∈ Nat.toDigits base n) :
    ∃ d < base, hexValue? c = some d := by
  induction n using Nat.strongRecOn with
  | _ n ih =>
      by_cases hlt : n < base
      · rw [Nat.toDigits_of_lt_base hlt, List.mem_singleton] at hc
        exact ⟨n, hlt, hc ▸ hexValue?_digitChar (by omega)⟩
      · have hmod : n % base < base := Nat.mod_lt n (by omega)
        rw [Nat.toDigits_of_base_le hone (Nat.le_of_not_lt hlt), List.mem_append,
          List.mem_singleton] at hc
        rcases hc with hfront | hlast
        · exact ih (n / base) (Nat.div_lt_self (by omega) hone) hfront
        · exact ⟨n % base, hmod, hlast ▸ hexValue?_digitChar (by omega)⟩

end Base

/-! ### Decimal digits -/

theorem decimal_ne_nil (n : Nat) : decimal n ≠ [] := Nat.toDigits_ne_nil

theorem isDigit_of_mem_decimal {n : Nat} {c : Char} (hc : c ∈ decimal n) : c.isDigit = true :=
  Nat.isDigit_of_mem_toDigits (by omega) (by omega) hc

/-- The digits of a number other than zero do not begin with zero. -/
theorem head?_decimal {n : Nat} (hn : n ≠ 0) : (decimal n).head? ≠ some '0' := by
  induction n using Nat.strongRecOn with
  | _ n ih =>
      unfold decimal
      by_cases hlt : n < 10
      · have hall : ∀ m < 10, m ≠ 0 → Nat.digitChar m ≠ '0' := by decide
        rw [Nat.toDigits_of_lt_base hlt, List.head?_cons]
        exact fun heq => hall n hlt hn (Option.some.inj heq)
      · have hge := Nat.le_of_not_lt hlt
        have hfront := ih (n / 10) (by omega) (by omega)
        obtain ⟨first, more, hcons⟩ := List.exists_cons_of_ne_nil (decimal_ne_nil (n / 10))
        rw [hcons] at hfront
        rw [decimal] at hcons
        rw [Nat.toDigits_of_base_le (by omega) hge, hcons]
        exact hfront

theorem isDigit_of_mem_padded {width n : Nat} {c : Char} (hc : c ∈ padded width n) :
    c.isDigit = true := by
  rcases List.mem_append.1 hc with hzero | hdigit
  · rw [List.eq_of_mem_replicate hzero]
    decide
  · exact isDigit_of_mem_decimal hdigit

theorem le_valueIn_ten (n : Nat) (cs : List Char) : n ≤ valueIn 10 n cs := by
  induction cs generalizing n with
  | nil => exact Nat.le_refl n
  | cons c rest ih =>
      calc n ≤ 10 * n + (hexValue? c).getD 0 := by omega
        _ ≤ valueIn 10 (10 * n + (hexValue? c).getD 0) rest := ih _

theorem toNat_of_isDigit {c : Char} (hc : c.isDigit = true) :
    0x30 ≤ c.toNat ∧ c.toNat ≤ 0x39 := by
  simp only [Char.isDigit, ge_iff_le, Bool.and_eq_true, decide_eq_true_eq,
    UInt32.le_iff_toNat_le] at hc
  exact hc

theorem hexValue?_of_isDigit {c : Char} (hc : c.isDigit = true) :
    hexValue? c = some (c.toNat - 0x30) :=
  if_pos (toNat_of_isDigit hc)

theorem valueIn_ten_cons {n : Nat} {c : Char} {rest : List Char} (hc : c.isDigit = true) :
    valueIn 10 n (c :: rest) = valueIn 10 (n * 10 + (c.toNat - 0x30)) rest := by
  simp [valueIn, hexValue?_of_isDigit hc, Nat.mul_comm 10 n]

/-- Digits are read in full where their number is within the limit. -/
theorem digitsUpTo_of_isDigit {limit n : Nat} {onOverflow : IntegerFault} {cs : List Char}
    (hdigits : ∀ c ∈ cs, c.isDigit = true) (hlimit : valueIn 10 n cs ≤ limit) :
    digitsUpTo limit onOverflow n cs = .ok (valueIn 10 n cs) := by
  induction cs generalizing n with
  | nil => rfl
  | cons c rest ih =>
      have hc := hdigits c List.mem_cons_self
      rw [valueIn_ten_cons hc] at hlimit ⊢
      have hnext := Nat.le_trans (le_valueIn_ten _ rest) hlimit
      rw [digitsUpTo, if_pos hc]
      simp only
      rw [if_neg (by omega)]
      exact ih (fun d hd => hdigits d (List.mem_cons_of_mem _ hd)) hlimit

theorem readNat_of_isDigit {limit : Nat} {cs : List Char} (hne : cs ≠ [])
    (hdigits : ∀ c ∈ cs, c.isDigit = true) (hlimit : valueIn 10 0 cs ≤ limit) :
    readNat limit cs = .ok (valueIn 10 0 cs) := by
  have hplus : '+' ∉ cs := fun hin => absurd (hdigits '+' hin) (by decide)
  unfold readNat
  split
  · exact absurd rfl hne
  · exact absurd List.mem_cons_self hplus
  · exact absurd List.mem_cons_self hplus
  · exact digitsUpTo_of_isDigit hdigits hlimit

/-- Digits are read exactly when there is nothing else and their number is within the
limit. -/
theorem digitsUpTo_eq_ok_iff {limit n m : Nat} {onOverflow : IntegerFault} {cs : List Char}
    (hn : n ≤ limit) :
    digitsUpTo limit onOverflow n cs = .ok m ↔
      (∀ c ∈ cs, c.isDigit = true) ∧ valueIn 10 n cs = m ∧ m ≤ limit := by
  constructor
  · intro hread
    induction cs generalizing n with
    | nil =>
        cases hread
        exact ⟨List.forall_mem_nil _, rfl, hn⟩
    | cons c rest ih =>
        unfold digitsUpTo at hread
        split at hread
        · rename_i hc
          dsimp only at hread
          split at hread
          · cases hread
          · rename_i hlimit
            obtain ⟨hdigits, hvalue, hm⟩ := ih (Nat.le_of_not_lt hlimit) hread
            exact ⟨List.forall_mem_cons.2 ⟨hc, hdigits⟩, (valueIn_ten_cons hc).trans hvalue, hm⟩
        · cases hread
  · rintro ⟨hdigits, rfl, hlimit⟩
    exact digitsUpTo_of_isDigit hdigits hlimit

/-- A number is read exactly from digits, with or without a plus sign in front of them. -/
theorem readNat_eq_ok_iff {limit m : Nat} {cs : List Char} :
    readNat limit cs = .ok m ↔
      ∃ digits, (cs = digits ∨ cs = '+' :: digits) ∧ digits ≠ [] ∧
        (∀ c ∈ digits, c.isDigit = true) ∧ valueIn 10 0 digits = m ∧ m ≤ limit := by
  have hread {digits : List Char} :=
    @digitsUpTo_eq_ok_iff limit 0 m .tooLarge digits (Nat.zero_le limit)
  constructor
  · intro h
    unfold readNat at h
    split at h
    · cases h
    · cases h
    · rename_i digits hne
      exact ⟨digits, Or.inr rfl, fun hnil => hne (hnil ▸ rfl), hread.1 h⟩
    · rename_i hne _ _
      exact ⟨cs, Or.inl rfl, hne, hread.1 h⟩
  · rintro ⟨digits, rfl | rfl, hne, hall⟩
    · obtain ⟨hdigits, rfl, hlimit⟩ := hall
      exact readNat_of_isDigit hne hdigits hlimit
    · obtain ⟨first, more, rfl⟩ := List.exists_cons_of_ne_nil hne
      exact hread.2 hall

/-- The text writes zero: nothing but zeros, at least one, perhaps after a plus sign. -/
def WritesZero (cs : List Char) : Prop :=
  ∃ zeros, (cs = zeros ∨ cs = '+' :: zeros) ∧ zeros ≠ [] ∧ ∀ c ∈ zeros, c = '0'

theorem valueIn_ten_eq_zero_iff {cs : List Char} (hdigits : ∀ c ∈ cs, c.isDigit = true) :
    valueIn 10 0 cs = 0 ↔ ∀ c ∈ cs, c = '0' := by
  constructor
  · intro hzero
    induction cs with
    | nil => exact List.forall_mem_nil _
    | cons c rest ih =>
        obtain ⟨hc, hrest⟩ := List.forall_mem_cons.1 hdigits
        rw [valueIn_ten_cons hc] at hzero
        have hfirst := le_valueIn_ten (0 * 10 + (c.toNat - 0x30)) rest
        have hcode : c.toNat = '0'.toNat := by
          have hleast := (toNat_of_isDigit hc).1
          have hcodes : '0'.toNat = 0x30 := rfl
          omega
        have hsame : c = '0' := Char.toNat_inj.1 hcode
        subst hsame
        exact List.forall_mem_cons.2 ⟨rfl, ih hrest hzero⟩
  · intro hall
    rw [List.eq_replicate_of_mem hall, valueIn_replicate_zero]

/-- Zero is read exactly where it is written. -/
theorem readNat_eq_zero_iff {limit : Nat} {cs : List Char} :
    readNat limit cs = .ok 0 ↔ WritesZero cs := by
  rw [readNat_eq_ok_iff, WritesZero]
  constructor
  · rintro ⟨digits, hcs, hne, hdigits, hzero, -⟩
    exact ⟨digits, hcs, hne, (valueIn_ten_eq_zero_iff hdigits).1 hzero⟩
  · rintro ⟨zeros, hcs, hne, hall⟩
    have hdigits : ∀ c ∈ zeros, c.isDigit = true := fun c hc => by
      rw [hall c hc]
      decide
    exact ⟨zeros, hcs, hne, hdigits, (valueIn_ten_eq_zero_iff hdigits).2 hall, Nat.zero_le limit⟩

/-- A number within the limit is read from its decimal digits. -/
theorem readNat_decimal {limit n : Nat} (hn : n ≤ limit) :
    readNat limit (decimal n) = .ok n := by
  have hvalue : valueIn 10 0 (decimal n) = n := valueIn_toDigits (by omega) (by omega) n
  have hlimit : valueIn 10 0 (decimal n) ≤ limit := by rwa [hvalue]
  have hread := readNat_of_isDigit (decimal_ne_nil n) (fun _ hc => isDigit_of_mem_decimal hc)
    hlimit
  rwa [hvalue] at hread

/-! ### Digits of a fixed number -/

/-- The number that a text of decimal digits writes, none for any other text. -/
def readDigits? (cs : List Char) : Option Nat :=
  if cs ≠ [] ∧ cs.all Char.isDigit then some (valueIn 10 0 cs) else none

/-- Zeros in front of a number do not change it. -/
@[simp]
theorem readDigits?_padded (width n : Nat) : readDigits? (padded width n) = some n := by
  have hne : padded width n ≠ [] := List.append_ne_nil_of_right_ne_nil _ (decimal_ne_nil n)
  have hdigits : (padded width n).all Char.isDigit = true :=
    List.all_eq_true.2 fun _ hc => isDigit_of_mem_padded hc
  have hvalue : valueIn 10 0 (padded width n) = n := by
    rw [padded, valueIn_append, valueIn_replicate_zero]
    exact valueIn_toDigits (by omega) (by omega) n
  rw [readDigits?, if_pos ⟨hne, hdigits⟩, hvalue]

@[simp]
theorem readDigits?_decimal (n : Nat) : readDigits? (decimal n) = some n := by
  have hpadded : decimal n = padded 0 n := by simp [padded]
  rw [hpadded, readDigits?_padded]

/-- A number that fits its width is written in just that many digits. -/
theorem length_padded {width n : Nat} (hwidth : 0 < width) (hn : n < 10 ^ width) :
    (padded width n).length = width := by
  have hshort : (decimal n).length ≤ width := (Nat.length_toDigits_le_iff (by omega) hwidth).2 hn
  rw [padded, List.length_append, List.length_replicate]
  omega

/-! ### Hexadecimal digits -/

theorem hexOfNat_ne_nil (n : Nat) : hexOfNat n ≠ [] := Nat.toDigits_ne_nil

theorem hexValue?_isSome_of_mem_hexOfNat {n : Nat} {c : Char} (hc : c ∈ hexOfNat n) :
    (hexValue? c).isSome = true := by
  obtain ⟨d, _, hd⟩ := hexValue?_of_mem_toDigits (by omega) (by omega) hc
  rw [hd]
  rfl

theorem length_hexOfNat_le {n : Nat} (hn : n < 65536) : (hexOfNat n).length ≤ 4 :=
  (Nat.length_toDigits_le_iff (by omega) (by omega)).2 hn

/-- Every digit has a value. -/
theorem mapM_hexValue?_eq_some {cs : List Char}
    (hdigits : ∀ c ∈ cs, (hexValue? c).isSome = true) :
    cs.mapM hexValue? = some (cs.map fun c => (hexValue? c).getD 0) := by
  apply mapM_eq_some_map
  intro c hc
  obtain ⟨d, hd⟩ := Option.isSome_iff_exists.1 (hdigits c hc)
  rw [hd, Option.getD_some]

theorem foldl_hexValue?_hexOfNat (n : Nat) :
    ((hexOfNat n).map fun c => (hexValue? c).getD 0).foldl (fun n v => 16 * n + v) 0 = n := by
  rw [List.foldl_map]
  exact valueIn_toDigits (by omega) (by omega) n

end SignedAccess.Text
