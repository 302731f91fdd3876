/-
# Escapes read back

What is written in UTF-8 is read back, and what is written with escapes stands
for the bytes that were written. A text that holds only bytes which stand for
themselves is not changed by escaping, so a text that is escaped once and for
the narrowest set stays as it is in every wider one.
-/

import SignedAccess.Text.Percent

namespace SignedAccess.Text

/-! ### Characters and bytes by number -/

theorem toNat_charOfNat {n : Nat} (hn : n.isValidChar) : (Char.ofNat n).toNat = n := by
  unfold Char.ofNat
  rw [dif_pos hn]
  rfl

/-- The byte of an ASCII character has the number of the character. -/
theorem toNat_byte_of_ascii {c : Char} (hc : c.toNat < 0x80) :
    (UInt8.ofNat c.toNat).toNat = c.toNat := by
  rw [UInt8.toNat_ofNat', Nat.mod_eq_of_lt (by omega)]

/-- A fact about all bytes is a fact about two hundred and fifty-six numbers. -/
theorem forall_byte {p : UInt8 → Prop} (hall : ∀ n < 256, p (UInt8.ofNat n)) (b : UInt8) :
    p b := by
  have hb := hall b.toNat b.toNat_lt
  rwa [UInt8.ofNat_toNat] at hb

/-- A fact about ASCII characters is a fact about a hundred and twenty-eight
numbers. -/
theorem forall_ascii {p : Char → Prop} (hall : ∀ n < 0x80, p (Char.ofNat n)) {c : Char}
    (hc : c.toNat < 0x80) : p c := by
  have hp := hall c.toNat hc
  rwa [Char.ofNat_toNat] at hp

/-- A fact about the characters of a fixed text can be computed from the text. -/
theorem forall_mem_of_all {p : Char → Prop} [DecidablePred p] {cs : List Char}
    (hall : cs.all (fun c => decide (p c)) = true) : ∀ c ∈ cs, p c := by
  intro c hc
  exact of_decide_eq_true (List.all_eq_true.1 hall c hc)

/-! ### UTF-8 -/

theorem tail?_ofNat {n : Nat} (hn : n < 64) : tail? (UInt8.ofNat (n + 128)) = some n := by
  unfold tail?
  rw [UInt8.toNat_ofNat', Nat.mod_eq_of_lt (by omega), if_pos (by omega)]
  simp

theorem utf8EncodeChar_of_lt {c : Char} (hc : c.toNat < 0x80) :
    String.utf8EncodeChar c = [UInt8.ofNat c.toNat] := by
  unfold String.utf8EncodeChar
  exact if_pos (Nat.le_of_lt_succ hc)

/-- Outside ASCII every byte of a character lies outside ASCII. -/
theorem le_toNat_of_mem_utf8EncodeChar {c : Char} {b : UInt8} (hc : 0x80 ≤ c.toNat)
    (hb : b ∈ String.utf8EncodeChar c) : 0x80 ≤ b.toNat := by
  have hval : ¬ c.val.toNat ≤ 127 := Nat.not_le.2 hc
  unfold String.utf8EncodeChar at hb
  simp only [if_neg hval] at hb
  split at hb
  · simp only [List.mem_cons, List.not_mem_nil, or_false] at hb
    rcases hb with rfl | rfl <;> simp only [UInt8.toNat_ofNat'] <;> omega
  · split at hb
    · simp only [List.mem_cons, List.not_mem_nil, or_false] at hb
      rcases hb with rfl | rfl | rfl <;> simp only [UInt8.toNat_ofNat'] <;> omega
    · simp only [List.mem_cons, List.not_mem_nil, or_false] at hb
      rcases hb with rfl | rfl | rfl | rfl <;> simp only [UInt8.toNat_ofNat'] <;> omega

/-- The bytes of one character are read as that character. -/
theorem readChar?_utf8EncodeChar (c : Char) (rest : List UInt8) :
    readChar? (String.utf8EncodeChar c ++ rest) = some (c, rest) := by
  have hback : Char.ofNat c.val.toNat = c := Char.ofNat_toNat c
  have hvalid : c.val.toNat < 0xD800 ∨ 0xDFFF < c.val.toNat ∧ c.val.toNat < 0x110000 := c.valid
  unfold String.utf8EncodeChar
  generalize c.val.toNat = v at hback hvalid
  simp only
  split
  · rename_i hone
    have hbyte : (UInt8.ofNat v).toNat = v := by
      rw [UInt8.toNat_ofNat', Nat.mod_eq_of_lt (by omega)]
    simp only [List.singleton_append, readChar?, hbyte]
    rw [if_pos (by omega), hback]
  · split
    · rename_i hone htwo
      have hbyte : (UInt8.ofNat (v / 64 % 32 + 192)).toNat = v / 64 + 192 := by
        rw [UInt8.toNat_ofNat', Nat.mod_eq_of_lt (by omega), Nat.mod_eq_of_lt (by omega)]
      have hsum : (v / 64 + 192 - 0xC0) * 64 + v % 64 = v := by omega
      simp only [List.cons_append, List.nil_append, readChar?, hbyte]
      rw [if_neg (by omega), if_neg (by omega), if_pos (by omega),
        tail?_ofNat (Nat.mod_lt _ (by omega))]
      simp only [Option.bind_eq_bind, Option.bind_some, hsum, hback]
    · split
      · rename_i hone htwo hthree
        have hbyte : (UInt8.ofNat (v / 4096 % 16 + 224)).toNat = v / 4096 + 224 := by
          rw [UInt8.toNat_ofNat', Nat.mod_eq_of_lt (by omega), Nat.mod_eq_of_lt (by omega)]
        have hsum : ((v / 4096 + 224 - 0xE0) * 64 + v / 64 % 64) * 64 + v % 64 = v := by omega
        simp only [List.cons_append, List.nil_append, readChar?, hbyte]
        rw [if_neg (by omega), if_neg (by omega), if_neg (by omega), if_pos (by omega),
          tail?_ofNat (Nat.mod_lt _ (by omega)), tail?_ofNat (Nat.mod_lt _ (by omega))]
        simp only [Option.bind_eq_bind, Option.bind_some, hsum, hback]
        rw [if_neg (by omega)]
      · rename_i hone htwo hthree
        have hbyte : (UInt8.ofNat (v / 262144 % 8 + 240)).toNat = v / 262144 + 240 := by
          rw [UInt8.toNat_ofNat', Nat.mod_eq_of_lt (by omega), Nat.mod_eq_of_lt (by omega)]
        have hsum : (((v / 262144 + 240 - 0xF0) * 64 + v / 4096 % 64) * 64 + v / 64 % 64) * 64 +
            v % 64 = v := by omega
        simp only [List.cons_append, List.nil_append, readChar?, hbyte]
        rw [if_neg (by omega), if_neg (by omega), if_neg (by omega), if_neg (by omega),
          if_pos (by omega), tail?_ofNat (Nat.mod_lt _ (by omega)),
          tail?_ofNat (Nat.mod_lt _ (by omega)), tail?_ofNat (Nat.mod_lt _ (by omega))]
        simp only [Option.bind_eq_bind, Option.bind_some, hsum, hback]
        rw [if_neg (by omega)]

@[simp]
theorem encode_nil : encode [] = [] := rfl

theorem encode_cons (c : Char) (rest : List Char) :
    encode (c :: rest) = String.utf8EncodeChar c ++ encode rest := rfl

theorem decode?_append_of_readChar? {bs rest : List UInt8} {c : Char}
    (hread : readChar? bs = some (c, rest)) : decode? bs = (decode? rest).map (c :: ·) := by
  cases bs with
  | nil => simp [readChar?] at hread
  | cons b more =>
      rw [decode?]
      split
      · rename_i hnone
        rw [hread] at hnone
        simp at hnone
      · rename_i d others hsome
        rw [hread] at hsome
        simp only [Option.some.injEq, Prod.mk.injEq] at hsome
        rw [hsome.1, hsome.2]

/-- A text written in UTF-8 is read back. -/
@[simp]
theorem decode?_encode (cs : List Char) : decode? (encode cs) = some cs := by
  induction cs with
  | nil => rw [encode_nil, decode?]
  | cons c rest ih =>
      rw [encode_cons, decode?_append_of_readChar? (readChar?_utf8EncodeChar c _), ih]
      rfl

/-- Texts with the same bytes are equal. -/
theorem encode_injective {as bs : List Char} (heq : encode as = encode bs) : as = bs := by
  have hback := decode?_encode as
  rw [heq, decode?_encode] at hback
  exact (Option.some.inj hback).symm

/-! ### What escaped bytes stand for -/

theorem unescape_nil : unescape [] = [] := by rw [unescape]

/-- A character other than a percent sign stands for itself. -/
theorem unescape_cons_of_ne {c : Char} (rest : List Char) (hc : c ≠ '%') :
    unescape (c :: rest) = String.utf8EncodeChar c ++ unescape rest := by
  rw [unescape]
  rintro a b others heq
  exact fun _ => hc heq

/-- A text without percent signs stands for itself. -/
theorem unescape_eq_encode {cs : List Char} (hcs : ∀ c ∈ cs, c ≠ '%') :
    unescape cs = encode cs := by
  induction cs with
  | nil => exact unescape_nil
  | cons c rest ih =>
      rw [unescape_cons_of_ne rest (hcs c List.mem_cons_self), encode_cons,
        ih fun d hd => hcs d (List.mem_cons_of_mem _ hd)]

theorem unescape_escapeByte_append (b : UInt8) (rest : List Char) :
    unescape (escapeByte b ++ rest) = b :: unescape rest := by
  have hb := b.toNat_lt
  have hbyte : UInt8.ofNat (16 * (b.toNat / 16) + b.toNat % 16) = b := by
    rw [Nat.div_add_mod, UInt8.ofNat_toNat]
  unfold escapeByte
  simp only [List.cons_append, List.nil_append]
  rw [unescape, hexValue?_hexDigitUpper (by omega), hexValue?_hexDigitUpper (by omega)]
  simp only [hbyte]

/-- A set of bytes that can be told from escapes: ASCII without the percent
sign. -/
def IsPlainSet (keep : UInt8 → Bool) : Prop :=
  ∀ b, keep b = true → b.toNat < 0x80 ∧ b ≠ 0x25

/-- Escaped bytes stand for the bytes that were written, whatever follows them. -/
theorem unescape_escapeBytes_append {keep : UInt8 → Bool} (hkeep : IsPlainSet keep)
    (bs : List UInt8) (rest : List Char) :
    unescape (escapeBytes keep bs ++ rest) = bs ++ unescape rest := by
  induction bs with
  | nil => rfl
  | cons b more ih =>
      have hcons : escapeBytes keep (b :: more) =
          (if keep b then [Char.ofNat b.toNat] else escapeByte b) ++ escapeBytes keep more := rfl
      rw [hcons, List.append_assoc]
      split
      · rename_i hb
        obtain ⟨hlow, hpercent⟩ := hkeep b hb
        have hchar : (Char.ofNat b.toNat).toNat = b.toNat :=
          toNat_charOfNat (Or.inl (by omega))
        have hne : Char.ofNat b.toNat ≠ '%' := by
          intro heq
          rw [heq] at hchar
          exact hpercent (UInt8.toNat_inj.1 hchar.symm)
        rw [List.singleton_append, unescape_cons_of_ne _ hne,
          utf8EncodeChar_of_lt (by omega), hchar, UInt8.ofNat_toNat, ih]
        rfl
      · rw [unescape_escapeByte_append, ih]
        rfl

theorem isPlainSet_uriEncode (encodeSlash : Bool) :
    IsPlainSet fun b => isUnreserved b || (b == 0x2F && !encodeSlash) := by
  unfold IsPlainSet
  cases encodeSlash <;> exact forall_byte (by decide +kernel)

theorem unescape_uriEncode_append (cs : List Char) (encodeSlash : Bool) (rest : List Char) :
    unescape (uriEncode cs encodeSlash ++ rest) = encode cs ++ unescape rest :=
  unescape_escapeBytes_append (isPlainSet_uriEncode encodeSlash) _ rest

/-- What signing writes with escapes is what it was given. -/
@[simp]
theorem unescape_uriEncode (cs : List Char) (encodeSlash : Bool) :
    unescape (uriEncode cs encodeSlash) = encode cs := by
  have hwhole := unescape_uriEncode_append cs encodeSlash []
  rwa [List.append_nil, unescape_nil, List.append_nil] at hwhole

/-! ### Which characters an escaped text holds -/

/-- A character of a text that signing has escaped, the slash apart. -/
def isUriChar (c : Char) : Bool :=
  c.isAlphanum || c == '-' || c == '_' || c == '.' || c == '~' || c == '%'

theorem isUriChar_of_isUnreserved (b : UInt8) :
    isUnreserved b = true → isUriChar (Char.ofNat b.toNat) = true := by
  revert b
  exact forall_byte (by decide +kernel)

theorem isUriChar_hexDigitUpper {n : Nat} (hn : n < 16) : isUriChar (hexDigitUpper n) = true := by
  have hall : ∀ m ∈ List.range 16, isUriChar (hexDigitUpper m) = true := by decide
  exact hall n (List.mem_range.2 hn)

theorem isUriChar_of_mem_escapeByte {b : UInt8} {c : Char} (hc : c ∈ escapeByte b) :
    isUriChar c = true := by
  have hb := b.toNat_lt
  simp only [escapeByte, List.mem_cons, List.not_mem_nil, or_false] at hc
  rcases hc with rfl | rfl | rfl
  · decide
  · exact isUriChar_hexDigitUpper (by omega)
  · exact isUriChar_hexDigitUpper (by omega)

/-- A slash is the only other character that an escaped text may hold, where it
is kept. -/
theorem isUriChar_of_mem_uriEncode {cs : List Char} {encodeSlash : Bool} {c : Char}
    (hc : c ∈ uriEncode cs encodeSlash) :
    isUriChar c = true ∨ (c = '/' ∧ encodeSlash = false) := by
  unfold uriEncode escape escapeBytes at hc
  obtain ⟨b, _, hb⟩ := List.mem_flatMap.1 hc
  split at hb
  · rename_i hkeep
    rw [List.mem_singleton.1 hb]
    simp only [Bool.or_eq_true, Bool.and_eq_true, beq_iff_eq, Bool.not_eq_true'] at hkeep
    rcases hkeep with hunreserved | ⟨rfl, hslash⟩
    · exact Or.inl (isUriChar_of_isUnreserved b hunreserved)
    · exact Or.inr ⟨rfl, hslash⟩
  · exact Or.inl (isUriChar_of_mem_escapeByte hb)

/-- An ASCII character whose byte is kept stands for itself. -/
theorem escapeBytes_utf8EncodeChar {keep : UInt8 → Bool} {c : Char} (hlow : c.toNat < 0x80)
    (hkeep : keep (UInt8.ofNat c.toNat) = true) :
    escapeBytes keep (String.utf8EncodeChar c) = [c] := by
  rw [utf8EncodeChar_of_lt hlow, escapeBytes, List.flatMap_singleton, if_pos hkeep,
    toNat_byte_of_ascii hlow, Char.ofNat_toNat]

/-- A text of ASCII characters that all stand for themselves is not changed by
escaping. -/
theorem escape_eq_self {keep : UInt8 → Bool} {cs : List Char}
    (hcs : ∀ c ∈ cs, c.toNat < 0x80 ∧ keep (UInt8.ofNat c.toNat) = true) :
    escape keep cs = cs := by
  induction cs with
  | nil => rfl
  | cons c rest ih =>
      obtain ⟨hlow, hkeep⟩ := hcs c List.mem_cons_self
      have hrest := ih fun d hd => hcs d (List.mem_cons_of_mem _ hd)
      unfold escape at hrest ⊢
      rw [encode_cons, escapeBytes_append, hrest, escapeBytes_utf8EncodeChar hlow hkeep,
        List.singleton_append]

/-- Escaping makes no text shorter. -/
theorem length_le_escape (keep : UInt8 → Bool) (cs : List Char) :
    cs.length ≤ (escape keep cs).length := by
  have hbytes : ∀ bs : List UInt8, bs.length ≤ (escapeBytes keep bs).length := by
    intro bs
    induction bs with
    | nil => exact Nat.le_refl 0
    | cons b rest ih =>
        have hone : 1 ≤ (escapeBytes keep [b]).length := by
          rw [escapeBytes, List.flatMap_singleton]
          split <;> simp [escapeByte]
        rw [← List.singleton_append, escapeBytes_append, List.length_append,
          List.length_append, List.length_singleton]
        omega
  have hchars : cs.length ≤ (encode cs).length := by
    induction cs with
    | nil => exact Nat.le_refl 0
    | cons c rest ih =>
        have hone : 1 ≤ (String.utf8EncodeChar c).length := by
          rw [String.length_utf8EncodeChar]
          exact c.utf8Size_pos
        rw [encode_cons, List.length_append, List.length_cons]
        omega
  exact Nat.le_trans hchars (hbytes _)

end SignedAccess.Text
