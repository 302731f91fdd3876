/-
# Blanks, texts and numbers read back

However a text is spelled, its characters are read. A whole number is read in full as
long as it has 64 bits and nothing follows that would make it longer or turn it into a
fraction. Blanks before a part do not count.
-/

import SignedAccess.Proofs.Decimal.Layout
import SignedAccess.Proofs.Json.Spelling

namespace SignedAccess.Json

open Text Decimal

/-! ### Blanks -/

theorem skipSpaces_append {blanks : Input} (h : IsBlanks blanks) (rest : Input) :
    skipSpaces (blanks ++ rest) = skipSpaces rest :=
  List.dropWhile_append_of_pos h

theorem skipSpaces_cons {b : UInt8} (h : isSpace b = false) (rest : Input) :
    skipSpaces (b :: rest) = b :: rest :=
  List.dropWhile_cons_of_neg (by simp [h])

theorem skipSpaces_append_cons {blanks : Input} (h : IsBlanks blanks) {b : UInt8}
    (hb : isSpace b = false) (rest : Input) : skipSpaces (blanks ++ b :: rest) = b :: rest := by
  rw [skipSpaces_append h, skipSpaces_cons hb]

/-! ### Texts -/

theorem readHex4_append {bs : Input} {n : Nat} (h : readHex4 bs = .ok (n, []))
    (more : Input) : readHex4 (bs ++ more) = .ok (n, more) := by
  unfold readHex4 at h
  split at h
  · rename_i a b c d tail
    split at h
    · rename_i values hvalues
      cases h
      simp only [List.cons_append, List.nil_append, readHex4, hvalues]
    · cases h
  · cases h

section TextBytes

variable {b : UInt8} {c : Char} {rest after : Input} (read : List UInt8)

theorem textBytes_quote : textBytes read (byteOf '"' :: rest) = .ok (read.reverse, rest) := by
  rw [textBytes, if_pos rfl]

theorem textBytes_plain (hquote : b ≠ byteOf '"') (hslash : b ≠ byteOf '\\')
    (hlow : ¬b < 0x20) : textBytes read (b :: rest) = textBytes (b :: read) rest := by
  rw [textBytes, if_neg hquote, if_neg hslash, if_neg hlow]

theorem textBytes_escape (h : readEscape rest = .ok (c, after)) :
    textBytes read (byteOf '\\' :: rest) =
      textBytes ((String.utf8EncodeChar c).reverse ++ read) after := by
  have hslash : ¬byteOf '\\' = byteOf '"' := by decide
  rw [textBytes, if_neg hslash, if_pos rfl]
  split
  · rename_i fault hfault
    rw [h] at hfault
    cases hfault
  · rename_i found rest' hfound
    rw [h] at hfound
    cases hfound
    rfl

/-- Bytes that stand for themselves are taken one by one. -/
theorem textBytes_append {bs : Input}
    (hplain : ∀ b ∈ bs, b ≠ byteOf '"' ∧ b ≠ byteOf '\\' ∧ ¬b < 0x20) :
    textBytes read (bs ++ rest) = textBytes (bs.reverse ++ read) rest := by
  induction bs generalizing read with
  | nil => rfl
  | cons b more ih =>
      obtain ⟨hquote, hslash, hlow⟩ := hplain b List.mem_cons_self
      rw [List.cons_append, textBytes_plain read hquote hslash hlow,
        ih _ fun d hd => hplain d (List.mem_cons_of_mem _ hd), List.reverse_cons,
        List.append_assoc, List.singleton_append]

end TextBytes

/-- No byte of a character that stands for itself means anything. -/
theorem plain_of_mem_utf8EncodeChar {c : Char} (hlow : 0x20 ≤ c.toNat) (hquote : c ≠ '"')
    (hslash : c ≠ '\\') {b : UInt8} (hb : b ∈ String.utf8EncodeChar c) :
    b ≠ byteOf '"' ∧ b ≠ byteOf '\\' ∧ ¬b < 0x20 := by
  have hsame : ∀ d : Char, c.toNat = d.toNat → c = d := fun d hd => Char.toNat_inj.1 hd
  by_cases hascii : c.toNat < 0x80
  · rw [utf8EncodeChar_of_lt hascii, List.mem_singleton] at hb
    have hnat : b.toNat = c.toNat := by rw [hb, toNat_byte_of_ascii hascii]
    refine ⟨?_, ?_, ?_⟩
    · rintro rfl
      exact hquote (hsame '"' hnat.symm)
    · rintro rfl
      exact hslash (hsame '\\' hnat.symm)
    · rw [UInt8.lt_iff_toNat_lt, hnat]
      exact Nat.not_lt.2 hlow
  · have hhigh := le_toNat_of_mem_utf8EncodeChar (Nat.le_of_not_lt hascii) hb
    refine ⟨?_, ?_, ?_⟩
    · rintro rfl
      exact absurd hhigh (by decide)
    · rintro rfl
      exact absurd hhigh (by decide)
    · rw [UInt8.lt_iff_toNat_lt]
      exact Nat.not_lt.2 (Nat.le_trans (by decide) hhigh)

theorem ne_of_shortEscape? {c : Char} {b : UInt8} (h : shortEscape? b = some c) :
    b ≠ byteOf 'u' := by
  have hnone : shortEscape? (byteOf 'u') = none := by decide
  rintro rfl
  rw [hnone] at h
  cases h

theorem readEscape_letter {c : Char} {b : UInt8} (h : shortEscape? b = some c) (rest : Input) :
    readEscape (b :: rest) = .ok (c, rest) := by
  rw [readEscape, if_neg (ne_of_shortEscape? h), h]

theorem readEscape_unit {n : Nat} {ds : Input} (hds : readHex4 ds = .ok (n, []))
    (hunit : n < 0xd800 ∨ 0xdfff < n) (rest : Input) :
    readEscape (byteOf 'u' :: (ds ++ rest)) = .ok (Char.ofNat n, rest) := by
  rw [readEscape, if_pos rfl, readHex4_append hds]
  exact if_pos hunit

theorem readEscape_pair {high low : Nat} {ds es : Input} (hds : readHex4 ds = .ok (high, []))
    (hes : readHex4 es = .ok (low, [])) (hhigh : 0xd800 ≤ high ∧ high < 0xdc00)
    (hlow : 0xdc00 ≤ low ∧ low ≤ 0xdfff) (rest : Input) :
    readEscape (byteOf 'u' :: (ds ++ byteOf '\\' :: byteOf 'u' :: (es ++ rest))) =
      .ok (Char.ofNat (0x10000 + (high - 0xd800) * 0x400 + (low - 0xdc00)), rest) := by
  have hsurrogate : ¬(high < 0xd800 ∨ 0xdfff < high) := by omega
  rw [readEscape, if_pos rfl, readHex4_append hds]
  simp only [bind, Except.bind, if_neg hsurrogate, if_pos hhigh.2]
  rw [readLowHalf, if_pos ⟨rfl, rfl⟩, readHex4_append hes]
  exact if_pos hlow

/-- One character of a text, however it is spelled. -/
theorem textBytes_spellsChar {c : Char} {bs : Input} (h : SpellsChar c bs) (read : List UInt8)
    (rest : Input) :
    textBytes read (bs ++ rest) = textBytes ((String.utf8EncodeChar c).reverse ++ read) rest := by
  cases h with
  | plain hlow hquote hslash =>
      exact textBytes_append read fun b hb => plain_of_mem_utf8EncodeChar hlow hquote hslash hb
  | letter hletter => exact textBytes_escape read (readEscape_letter hletter rest)
  | unit hds hunit => exact textBytes_escape read (readEscape_unit hds hunit rest)
  | pair hds hes hhigh hlow =>
      rw [List.cons_append, List.cons_append, List.append_assoc]
      exact textBytes_escape read (readEscape_pair hds hes hhigh hlow rest)

theorem textBytes_spellsChars {cs : List Char} {bs : Input} (h : SpellsChars cs bs)
    (read : List UInt8) (rest : Input) :
    textBytes read (bs ++ byteOf '"' :: rest) = .ok (read.reverse ++ encode cs, rest) := by
  induction h generalizing read with
  | nil => rw [List.nil_append, textBytes_quote, encode_nil, List.append_nil]
  | cons hone hmore ih =>
      rw [List.append_assoc, textBytes_spellsChar hone, ih, encode_cons, List.reverse_append,
        List.reverse_reverse, List.append_assoc]

/-- A text is read, however it is spelled. The quote that opens it is taken already. -/
theorem readText_spellsChars {s : String} {bs : Input} (h : SpellsChars s.toList bs)
    (rest : Input) : readText (bs ++ byteOf '"' :: rest) = .ok (s, rest) := by
  rw [readText, textBytes_spellsChars h]
  simp only [bind, Except.bind, List.reverse_nil, List.nil_append, decode?_encode,
    String.ofList_toList]

/-! ### Whole numbers -/

/-- No digit follows. -/
def NoDigit (rest : Input) : Prop := ∀ b ∈ rest.head?, isDigit b = false

/-- Nothing follows that would go on with a number. -/
def EndsNumber (rest : Input) : Prop :=
  ∀ b ∈ rest.head?, isDigit b = false ∧ b ≠ byteOf '.' ∧ isExponentMark b = false

theorem toNat_byteOf {c : Char} (hc : c.toNat < 0x100) : (byteOf c).toNat = c.toNat := by
  rw [byteOf, UInt8.toNat_ofNat', Nat.mod_eq_of_lt hc]

theorem ofNat_toNat_byteOf {c : Char} (hc : c.toNat < 0x100) :
    Char.ofNat (byteOf c).toNat = c := by
  rw [toNat_byteOf hc, Char.ofNat_toNat]

theorem isDigit_byteOf {c : Char} (hc : c.isDigit = true) : isDigit (byteOf c) = true := by
  obtain ⟨hlow, hhigh⟩ := toNat_of_isDigit hc
  simp only [isDigit, Bool.and_eq_true, decide_eq_true_eq, UInt8.le_iff_toNat_le,
    toNat_byteOf (show c.toNat < 0x100 by omega)]
  exact ⟨hlow, hhigh⟩

theorem digitValue_byteOf {c : Char} (hc : c.isDigit = true) :
    digitValue (byteOf c) = (hexValue? c).getD 0 := by
  have hhigh := (toNat_of_isDigit hc).2
  rw [digitValue, toNat_byteOf (by omega), hexValue?_of_isDigit hc, Option.getD_some]

/-- Digits are absorbed in full where their number stays below the limit. -/
theorem absorb_digits {cs : List Char} {n : Nat} (hdigits : ∀ c ∈ cs, c.isDigit = true)
    (hlimit : valueIn 10 n cs < significandLimit) :
    absorb n (cs.map byteOf) = (valueIn 10 n cs, 0) := by
  induction cs generalizing n with
  | nil => rfl
  | cons c rest ih =>
      have hvalue : valueIn 10 n (c :: rest) =
          valueIn 10 (10 * n + (hexValue? c).getD 0) rest := rfl
      rw [hvalue] at hlimit ⊢
      have hnext := Nat.lt_of_le_of_lt (le_valueIn_ten _ rest) hlimit
      rw [List.map_cons, absorb, digitValue_byteOf (hdigits c List.mem_cons_self)]
      simp only [if_pos hnext]
      exact ih (fun d hd => hdigits d (List.mem_cons_of_mem _ hd)) hlimit

theorem EndsNumber.noDigit {rest : Input} (hends : EndsNumber rest) : NoDigit rest :=
  fun b hb => (hends b hb).1

theorem NoDigit.head?_ne {rest : Input} (hnone : NoDigit rest) :
    (rest.head?.map isDigit) ≠ some true := by
  intro hdigit
  obtain ⟨b, hb, hisDigit⟩ := Option.map_eq_some_iff.1 hdigit
  rw [hnone b hb] at hisDigit
  cases hisDigit

theorem digits_append {ds rest : Input} (hdigits : ∀ d ∈ ds, isDigit d = true)
    (hnone : NoDigit rest) : digits (ds ++ rest) = (ds, rest) := by
  have hstop : rest.takeWhile isDigit = [] ∧ rest.dropWhile isDigit = rest := by
    cases rest with
    | nil => exact ⟨rfl, rfl⟩
    | cons b more =>
        have hb := hnone b rfl
        exact ⟨List.takeWhile_cons_of_neg (by simp [hb]), List.dropWhile_cons_of_neg (by simp [hb])⟩
  rw [digits, List.takeWhile_append_of_pos hdigits, List.dropWhile_append_of_pos hdigits, hstop.1,
    hstop.2, List.append_nil]

section Digits

variable {cs : List Char}

theorem isDigit_of_mem_map_byteOf (hcs : ∀ c ∈ cs, c.isDigit = true) {d : UInt8}
    (hd : d ∈ cs.map byteOf) : isDigit d = true := by
  obtain ⟨c, hc, rfl⟩ := List.mem_map.1 hd
  exact isDigit_byteOf (hcs c hc)

theorem exists_map_byteOf (h : IsDigits cs) :
    ∃ first more, cs.map byteOf = first :: more ∧ isDigit first = true := by
  obtain ⟨first, more, rfl⟩ := List.exists_cons_of_ne_nil h.ne_nil
  exact ⟨_, _, rfl, isDigit_byteOf (h.isDigit first List.mem_cons_self)⟩

/-- Whole digits begin with the byte of zero only where there is one digit. -/
theorem eq_nil_of_zero (h : IsWhole cs) {b : UInt8} {more : Input}
    (hcons : cs.map byteOf = b :: more) (hzero : b = byteOf '0') : more = [] := by
  obtain ⟨first, others, rfl⟩ := List.exists_cons_of_ne_nil h.ne_nil
  obtain ⟨hfirst, rfl⟩ := List.cons.inj hcons
  have hdigit := (toNat_of_isDigit (h.isDigit first List.mem_cons_self)).2
  have hnat := congrArg UInt8.toNat (hfirst.trans hzero)
  rw [toNat_byteOf (Nat.lt_of_le_of_lt hdigit (by decide)), toNat_byteOf (by decide)] at hnat
  have hone := h.of_zero (by rw [List.head?_cons, Char.toNat_inj.1 hnat])
  rw [(List.cons.inj hone).2, List.map_nil]

end Digits

/-- The digits of a number are read as this number. -/
theorem readNumber_decimal {n : Nat} {rest : Input} {negative : Bool} {number : Number}
    (hn : n < significandLimit) (hwhole : wholeNumber negative n 0 = .ok number)
    (hends : EndsNumber rest) :
    readNumber negative ((decimal n).map byteOf ++ rest) = .ok (number, rest) := by
  have hvalue : valueIn 10 0 (decimal n) = n := valueIn_toDigits (by omega) (by omega) n
  have habsorb : absorb 0 ((decimal n).map byteOf) = (n, 0) := by
    rw [absorb_digits (fun c hc => isDigit_of_mem_decimal hc) (by rwa [hvalue]), hvalue]
  have hone := isWhole_decimal n
  have hdigits :=
    digits_append (fun d hd => isDigit_of_mem_map_byteOf hone.isDigit hd) hends.noDigit
  obtain ⟨first, more, hcons, hfirst⟩ := exists_map_byteOf hone.toIsDigits
  rw [hcons] at habsorb hdigits ⊢
  have hcut : (if first = byteOf '0' then ([first], more ++ rest)
      else digits (first :: (more ++ rest))) = (first :: more, rest) := by
    split
    · rename_i hsame
      rw [eq_nil_of_zero hone hcons hsame]
      rfl
    · exact hdigits
  have hnext : ¬(first = byteOf '0' ∧ (rest.head?.map isDigit) = some true) :=
    fun h => hends.noDigit.head?_ne h.2
  rw [List.cons_append, readNumber, hfirst]
  simp only [Bool.not_true, Bool.false_eq_true, if_false, hcut, if_neg hnext, habsorb, hwhole]
  cases rest with
  | nil => rfl
  | cons b after =>
      obtain ⟨-, hpoint, hmark⟩ := hends b rfl
      simp only [if_neg hpoint, hmark, Bool.false_eq_true, if_false]
      rfl

/-- A whole number of 64 bits is read, its sign taken already where it has one. -/
theorem wholeNumber_of_nonneg {n : Int} (hn : 0 ≤ n) :
    wholeNumber false n.natAbs 0 = .ok (.whole n) := by
  rw [wholeNumber, if_pos rfl]
  simp only [Bool.not_false, if_true, Int.natAbs_of_nonneg hn]

theorem wholeNumber_of_neg {n : Int} (hn : n < 0) (hlow : -(deepest : Int) ≤ n) :
    wholeNumber true n.natAbs 0 = .ok (.whole n) := by
  have hdeep : 0 < n.natAbs ∧ n.natAbs ≤ deepest := by omega
  have hback : -(n.natAbs : Int) = n := by omega
  rw [wholeNumber, if_pos rfl]
  simp only [Bool.not_true, Bool.false_eq_true, if_false, if_pos hdeep, hback]

end SignedAccess.Json
