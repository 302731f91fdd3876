/-
# Fractions in writing

What is written for a binary fraction has the parts of a number: digits that begin with
zero only where there is one digit, then perhaps a point with digits behind it, and
perhaps an exponent with its sign. The layout of the digits needs to know little about
them: those found on a grid are not zero, and zero is laid out in one place only.
-/

import SignedAccess.Decimal.Shortest
import SignedAccess.Proofs.Text.Numerals

namespace SignedAccess.Decimal

open Text

/-! ### Parts of a number -/

/-- There is a character, and all of them are digits. -/
structure IsDigits (cs : List Char) : Prop where
  ne_nil : cs ≠ []
  isDigit : ∀ c ∈ cs, c.isDigit = true

/-- Digits that begin with zero only where there is one digit. -/
structure IsWhole (cs : List Char) : Prop extends IsDigits cs where
  of_zero : cs.head? = some '0' → cs = ['0']

/-- A point with digits behind it, or nothing. -/
inductive IsFraction : List Char → Prop
  | none : IsFraction []
  | point {ds : List Char} (hds : IsDigits ds) : IsFraction ('.' :: ds)

/-- An exponent with its sign, or nothing. -/
inductive IsExponent : List Char → Prop
  | none : IsExponent []
  | signed {sign : Char} {ds : List Char} (hsign : sign = '+' ∨ sign = '-') (hds : IsDigits ds) :
      IsExponent ('e' :: sign :: ds)

/-- A number without a sign of its own. -/
def IsUnsigned (cs : List Char) : Prop :=
  ∃ front fraction exponent, IsWhole front ∧ IsFraction fraction ∧ IsExponent exponent ∧
    cs = front ++ (fraction ++ exponent)

theorem isDigits_decimal (n : Nat) : IsDigits (decimal n) :=
  ⟨decimal_ne_nil n, fun _ => isDigit_of_mem_decimal⟩

theorem isDigits_singleton {c : Char} (hc : c.isDigit = true) : IsDigits [c] :=
  ⟨List.cons_ne_nil _ _, fun _ hd => List.mem_singleton.1 hd ▸ hc⟩

theorem isDigit_of_mem_zeros {k : Nat} {c : Char} (hc : c ∈ List.replicate k '0') :
    c.isDigit = true := by
  rw [List.eq_of_mem_replicate hc]
  decide

theorem IsDigits.append_zeros {cs : List Char} (h : IsDigits cs) (k : Nat) :
    IsDigits (cs ++ List.replicate k '0') :=
  ⟨List.append_ne_nil_of_left_ne_nil h.ne_nil _,
    fun d hd => (List.mem_append.1 hd).elim (h.isDigit d) isDigit_of_mem_zeros⟩

theorem IsDigits.zeros_append {cs : List Char} (h : IsDigits cs) (k : Nat) :
    IsDigits (List.replicate k '0' ++ cs) :=
  ⟨List.append_ne_nil_of_right_ne_nil _ h.ne_nil,
    fun d hd => (List.mem_append.1 hd).elim isDigit_of_mem_zeros (h.isDigit d)⟩

theorem IsDigits.take {cs : List Char} (h : IsDigits cs) (k : Nat) : IsDigits (cs.take (k + 1)) :=
  ⟨fun hnil => by simp [h.ne_nil] at hnil, fun c hc => h.isDigit c (List.mem_of_mem_take hc)⟩

theorem IsDigits.drop {cs : List Char} (h : IsDigits cs) {k : Nat} (hk : k < cs.length) :
    IsDigits (cs.drop k) :=
  ⟨List.ne_nil_of_length_pos (by rw [List.length_drop]; omega),
    fun c hc => h.isDigit c (List.mem_of_mem_drop hc)⟩

theorem isWhole_singleton {c : Char} (hc : c.isDigit = true) : IsWhole [c] :=
  ⟨isDigits_singleton hc, fun h => by rw [List.head?_cons, Option.some.injEq] at h; rw [h]⟩

/-- Digits of a number other than zero are whole, however they go on. -/
theorem isWhole_of_head? {cs : List Char} (h : IsDigits cs) {n : Nat} (hn : n ≠ 0)
    (hhead : cs.head? = (decimal n).head?) : IsWhole cs :=
  ⟨h, fun hzero => absurd (hhead.symm.trans hzero) (head?_decimal hn)⟩

theorem isWhole_decimal (n : Nat) : IsWhole (decimal n) := by
  by_cases hn : n = 0
  · rw [hn]
    exact isWhole_singleton (by decide)
  · exact isWhole_of_head? (isDigits_decimal n) hn rfl

theorem IsWhole.isUnsigned {cs : List Char} (h : IsWhole cs) : IsUnsigned cs :=
  ⟨cs, [], [], h, .none, .none, (List.append_nil cs).symm⟩

theorem IsDigits.isAscii {cs : List Char} (h : IsDigits cs) {c : Char} (hc : c ∈ cs) :
    c.toNat < 0x80 :=
  Nat.lt_of_le_of_lt (toNat_of_isDigit (h.isDigit c hc)).2 (by decide)

theorem IsUnsigned.isAscii {cs : List Char} (h : IsUnsigned cs) {c : Char} (hc : c ∈ cs) :
    c.toNat < 0x80 := by
  obtain ⟨front, fraction, exponent, hfront, hfraction, hexponent, rfl⟩ := h
  rcases List.mem_append.1 hc with hc | hc
  · exact hfront.isAscii hc
  · rcases List.mem_append.1 hc with hc | hc
    · cases hfraction with
      | none => cases hc
      | point hds =>
          rcases List.mem_cons.1 hc with rfl | hc
          · decide
          · exact hds.isAscii hc
    · cases hexponent with
      | none => cases hc
      | signed hsign hds =>
          rcases List.mem_cons.1 hc with rfl | hc
          · decide
          · rcases List.mem_cons.1 hc with rfl | hc
            · rcases hsign with rfl | rfl <;> decide
            · exact hds.isAscii hc

theorem IsUnsigned.exists_cons {cs : List Char} (h : IsUnsigned cs) :
    ∃ first more, cs = first :: more ∧ first.isDigit = true := by
  obtain ⟨front, fraction, exponent, hfront, -, -, rfl⟩ := h
  obtain ⟨first, more, rfl⟩ := List.exists_cons_of_ne_nil hfront.ne_nil
  exact ⟨first, _, rfl, hfront.isDigit first List.mem_cons_self⟩

/-! ### Digits on the grid -/

/-- Of two points one is picked only if it is not zero. -/
theorem ne_zero_of_picked (inside : Nat → Bool) {points : Nat × Nat} {d : Nat}
    (h : (match points with
      | (first, second) =>
          if inside first && first != 0 then some first
          else if inside second && second != 0 then some second
          else none) = some d) : d ≠ 0 := by
  obtain ⟨first, second⟩ := points
  simp only [Bool.and_eq_true, bne_iff_ne] at h
  split at h
  · rename_i hfirst
    cases h
    exact hfirst.2
  · split at h
    · rename_i hsecond
      cases h
      exact hsecond.2
    · cases h

theorem onGrid_ne_zero {num low high den d : Nat} {closed : Bool} {power : Int}
    (h : onGrid num low high den closed power = some d) : d ≠ 0 := by
  unfold onGrid at h
  extract_lets up down floor inside below above downFirst at h
  exact ne_zero_of_picked inside h

theorem dropZeros_ne_zero {fuel n : Nat} (hn : n ≠ 0) : (dropZeros fuel n).1 ≠ 0 := by
  induction fuel generalizing n with
  | zero => exact hn
  | succ fuel ih =>
      rw [dropZeros]
      split
      · rename_i hzero
        exact ih (by omega)
      · exact hn

/-- The digits of a positive number are not zero; those that stand for no digits at all are
zero itself. -/
theorem power_shortest_of_value {x : Binary64} (h : (shortest x).value = 0) :
    (shortest x).power = 0 := by
  rw [shortest] at h ⊢
  dsimp only at h ⊢
  cases hfound : List.findSome? _ (List.range 17) with
  | none => rfl
  | some d =>
      rw [hfound] at h
      exfalso
      obtain ⟨i, -, hattempt⟩ := List.exists_of_findSome?_eq_some hfound
      obtain ⟨point, hpoint, rfl⟩ := Option.map_eq_some_iff.1 hattempt
      exact dropZeros_ne_zero (onGrid_ne_zero hpoint) h

/-! ### Digits laid out -/

/-- Digits are laid out as a number in every style. Only digits of zero have to be at the
last place before the point. -/
theorem Digits.isUnsigned_written {d : Digits} (hd : d.value = 0 → d.power = 0) (style : Layout) :
    IsUnsigned (d.written style) := by
  have hdigits := isDigits_decimal d.value
  rw [written]
  dsimp only
  split
  · split
    -- all digits stand before the point
    · refine ⟨decimal d.value ++ List.replicate d.power.toNat '0', ['.', '0'], [], ?_,
        .point (isDigits_singleton (by decide)), .none, rfl⟩
      by_cases hzero : d.value = 0
      · rw [hd hzero, Int.toNat_zero, List.replicate_zero, List.append_nil]
        exact isWhole_decimal d.value
      · refine isWhole_of_head? (hdigits.append_zeros _) hzero ?_
        obtain ⟨first, more, hcons⟩ := List.exists_cons_of_ne_nil hdigits.ne_nil
        rw [hcons, List.cons_append, List.head?_cons, List.head?_cons]
    · have hzero : d.value ≠ 0 := fun hzero => by
        rename_i hpower
        exact hpower (Int.le_of_eq (hd hzero).symm)
      split
      -- the point stands among the digits, or before them behind a zero
      · let k := (d.power + ((decimal d.value).length : Int) - 1).toNat
        have hk : k + 1 < (decimal d.value).length := by
          simp only [k]
          omega
        exact ⟨(decimal d.value).take (k + 1), '.' :: (decimal d.value).drop (k + 1), [],
          isWhole_of_head? (hdigits.take k) hzero (List.head?_take ..), .point (hdigits.drop hk),
          .none, by rw [List.append_nil]⟩
      · exact ⟨['0'], _, [], isWhole_singleton (by decide), .point (hdigits.zeros_append _), .none,
          by rw [List.append_nil]; rfl⟩
  -- one digit before the point, and an exponent
  · obtain ⟨first, more, hcons⟩ := List.exists_cons_of_ne_nil hdigits.ne_nil
    have hfirst : IsWhole [first] :=
      isWhole_singleton (hdigits.isDigit first (hcons ▸ List.mem_cons_self))
    rw [hcons, List.take_succ_cons, List.take_zero]
    refine ⟨[first], _, _, hfirst, ?_, .signed ?_ (isDigits_decimal _), List.append_assoc _ _ _⟩
    · split
      · exact .none
      · rename_i hmore
        rw [← hcons]
        exact .point (hdigits.drop (by rw [hcons]; omega))
    · split
      · exact Or.inr rfl
      · exact Or.inl rfl

/-- A binary fraction is written as a number, perhaps with a minus sign before it. -/
theorem Binary64.isUnsigned_written (x : Binary64) :
    ∃ cs, IsUnsigned cs ∧ (x.written = cs ∨ x.written = '-' :: cs) := by
  have hzero : IsUnsigned ['0', '.', '0'] :=
    ⟨['0'], ['.', '0'], [], isWhole_singleton (by decide),
      .point (isDigits_singleton (by decide)), .none, rfl⟩
  have hbody : IsUnsigned
      (if x.isZero then ['0', '.', '0'] else (shortest x).written Layout.standard) := by
    split
    · exact hzero
    · exact Digits.isUnsigned_written power_shortest_of_value Layout.standard
  refine ⟨_, hbody, ?_⟩
  rw [written]
  split
  · exact Or.inr rfl
  · exact Or.inl rfl

end SignedAccess.Decimal
