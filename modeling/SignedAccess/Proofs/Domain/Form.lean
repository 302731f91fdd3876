/-
# The form of a label

The form of a label is its ASCII characters, a hyphen where there are any, and digits for
the others. Every digit that is written can be read as one, so a form brings in no other
characters than these.
-/

import SignedAccess.Domain.Label

namespace SignedAccess.Domain.Label

/-- All characters are digits. -/
def AreDigits (cs : List Char) : Prop := ∀ c ∈ cs, (digit? c).isSome = true

theorem digit?_isSome_digit {value : Nat} (hvalue : value < 36) :
    (digit? (digit value)).isSome = true := by
  rw [digit?_digit hvalue]
  rfl

theorem areDigits_stepDigits (bias position step : Nat) :
    AreDigits (stepDigits bias position step) := by
  induction step using Nat.strongRecOn generalizing position with
  | _ step ih =>
      have hlow := one_le_threshold bias position
      have hhigh := threshold_le bias position
      rw [stepDigits]
      split
      · rename_i hlast
        intro c hc
        rw [List.mem_singleton.1 hc]
        exact digit?_isSome_digit (by omega)
      · rename_i hmore
        have hrest := Nat.mod_lt (step - threshold bias position)
          (show 0 < 36 - threshold bias position by omega)
        have hsmaller := Nat.div_le_self (step - threshold bias position)
          (36 - threshold bias position)
        intro c hc
        rcases List.mem_cons.1 hc with rfl | hc
        · exact digit?_isSome_digit (by omega)
        · exact ih _ (by omega) _ c hc

namespace Writing

variable {w : Writing} (hform : AreDigits w.form)

include hform

theorem areDigits_pass (plain code : Nat) (c : Char) : AreDigits (w.pass plain code c).form := by
  unfold pass
  split
  · exact hform
  · split
    · intro d hd
      exact (List.mem_append.1 hd).elim (hform d) (areDigits_stepDigits _ _ _ d)
    · exact hform

theorem areDigits_passAll (plain code : Nat) (label : List Char) :
    AreDigits (label.foldl (pass plain code) w).form := by
  induction label generalizing w with
  | nil => exact hform
  | cons c rest ih => exact ih (areDigits_pass hform plain code c)

theorem areDigits_putIn (plain : Nat) (label : List Char) (codes : List Nat) (next : Nat) :
    AreDigits (w.putIn plain label codes next).form := by
  induction codes generalizing w next with
  | nil => exact hform
  | cons code more ih =>
      let stepped : Writing := { w with step := w.step + (code - next) * (w.told + 1) }
      have hpassed : AreDigits (label.foldl (pass plain code) stepped).form :=
        areDigits_passAll (w := stepped) hform plain code label
      rw [putIn]
      refine @ih _ ?_ (code + 1)
      exact hpassed

end Writing

/-- The ASCII characters of a label. -/
def plainOf (label : List Char) : List Char := label.filter fun c => c.toNat < 0x80

/-- The digits in the form of a label. -/
def digitsOf (label : List Char) : List Char :=
  ((⟨[], 72, (plainOf label).length, 0⟩ : Writing).putIn (plainOf label).length label
    ((label.filter fun c => 0x80 ≤ c.toNat).foldr (insertOnce ·.toNat) []) 0x80).form

theorem encode_eq (label : List Char) :
    encode label =
      plainOf label ++ (if (plainOf label).isEmpty then [] else ['-']) ++ digitsOf label := rfl

theorem areDigits_digitsOf (label : List Char) : AreDigits (digitsOf label) :=
  Writing.areDigits_putIn (fun _ hc => absurd hc List.not_mem_nil) _ _ _ _

end SignedAccess.Domain.Label
