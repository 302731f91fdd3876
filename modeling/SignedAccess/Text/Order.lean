/-
# The order of texts

Texts are in the order of the numbers of their characters, and a text comes
before every longer one that begins with it. The order is total, so two lists
with the same entries are equal once both are in it.
-/

namespace SignedAccess.Text

/-- The first text comes before the second, or they are equal. -/
def comesFirst : List Char → List Char → Bool
  | [], _ => true
  | _ :: _, [] => false
  | a :: as, b :: bs => if a = b then comesFirst as bs else Nat.blt a.toNat b.toNat

theorem comesFirst_total (as bs : List Char) :
    comesFirst as bs = true ∨ comesFirst bs as = true := by
  induction as generalizing bs with
  | nil => simp [comesFirst]
  | cons a as ih =>
      cases bs with
      | nil => simp [comesFirst]
      | cons b bs =>
          by_cases hab : a = b
          · subst hab
            simpa [comesFirst] using ih bs
          · have hne : a.toNat ≠ b.toNat := fun h => hab (Char.toNat_inj.1 h)
            simp only [comesFirst, if_neg hab, if_neg (Ne.symm hab), Nat.blt_eq]
            omega

theorem comesFirst_antisymm {as bs : List Char} (hab : comesFirst as bs = true)
    (hba : comesFirst bs as = true) : as = bs := by
  induction as generalizing bs with
  | nil =>
      cases bs with
      | nil => rfl
      | cons b bs => simp [comesFirst] at hba
  | cons a as ih =>
      cases bs with
      | nil => simp [comesFirst] at hab
      | cons b bs =>
          by_cases h : a = b
          · subst h
            simp only [comesFirst, if_true] at hab hba
            rw [ih hab hba]
          · simp only [comesFirst, if_neg h, if_neg (Ne.symm h), Nat.blt_eq] at hab hba
            omega

theorem comesFirst_trans {as bs cs : List Char} (hab : comesFirst as bs = true)
    (hbc : comesFirst bs cs = true) : comesFirst as cs = true := by
  induction as generalizing bs cs with
  | nil => simp [comesFirst]
  | cons a as ih =>
      cases bs with
      | nil => simp [comesFirst] at hab
      | cons b bs =>
          cases cs with
          | nil => simp [comesFirst] at hbc
          | cons c cs =>
              by_cases h1 : a = b
              · subst h1
                by_cases h2 : a = c
                · subst h2
                  simp only [comesFirst, if_true] at hab hbc ⊢
                  exact ih hab hbc
                · simpa [comesFirst, h2] using hbc
              · by_cases h2 : b = c
                · subst h2
                  simpa [comesFirst, h1] using hab
                · simp only [comesFirst, if_neg h1, if_neg h2, Nat.blt_eq] at hab hbc
                  have h3 : a ≠ c := by
                    intro h
                    subst h
                    omega
                  simp only [comesFirst, if_neg h3, Nat.blt_eq]
                  omega

end SignedAccess.Text
