/-
# Values that are passed over

A value that is passed over is left behind in full, however it is spelled. The reader
for this keeps a list of open brackets and a budget of rounds; a value takes no more
rounds than it has bytes, so the budget is never used up.
-/

import SignedAccess.Proofs.Json.Reread

namespace SignedAccess.Json

open Text Decimal

/-! ### Texts -/

section SkipText

variable {b : UInt8} {rest : Input}

theorem skipText_quote : skipText (byteOf '"' :: rest) = .ok rest := by
  rw [skipText.eq_def]
  exact if_pos rfl

theorem skipText_plain (hquote : b ≠ byteOf '"') (hslash : b ≠ byteOf '\\') (hlow : ¬b < 0x20) :
    skipText (b :: rest) = skipText rest := by
  rw [skipText.eq_def]
  simp only [if_neg hquote, if_neg hslash, if_neg hlow]

theorem skipText_append {bs : Input}
    (hplain : ∀ b ∈ bs, b ≠ byteOf '"' ∧ b ≠ byteOf '\\' ∧ ¬b < 0x20) :
    skipText (bs ++ rest) = skipText rest := by
  induction bs with
  | nil => rfl
  | cons b more ih =>
      obtain ⟨hquote, hslash, hlow⟩ := hplain b List.mem_cons_self
      rw [List.cons_append, skipText_plain hquote hslash hlow,
        ih fun d hd => hplain d (List.mem_cons_of_mem _ hd)]

theorem skipText_letter {c : Char} (h : shortEscape? b = some c) :
    skipText (byteOf '\\' :: b :: rest) = skipText rest := by
  have hslash : ¬byteOf '\\' = byteOf '"' := by decide
  have hletter : (shortEscape? b).isSome = true := by rw [h]; rfl
  rw [skipText, if_neg hslash, if_pos rfl]
  simp only [if_neg (ne_of_shortEscape? h), hletter, if_true]

theorem skipText_unit {n : Nat} {ds : Input} (hds : readHex4 ds = .ok (n, [])) :
    skipText (byteOf '\\' :: byteOf 'u' :: (ds ++ rest)) = skipText rest := by
  have hslash : ¬byteOf '\\' = byteOf '"' := by decide
  have hlength : (ds ++ rest).drop 4 = rest := by
    unfold readHex4 at hds
    split at hds
    · split at hds
      · cases hds
        rfl
      · cases hds
    · cases hds
  rw [skipText, if_neg hslash, if_pos rfl]
  simp only [if_true, readHex4_append hds, hlength]

end SkipText

theorem skipText_spellsChars {cs : List Char} {bs : Input} (h : SpellsChars cs bs) (rest : Input) :
    skipText (bs ++ byteOf '"' :: rest) = .ok rest := by
  induction h with
  | nil => exact skipText_quote
  | cons hone hmore ih =>
      rw [List.append_assoc]
      cases hone with
      | plain hlow hquote hslash =>
          rw [skipText_append fun b hb => plain_of_mem_utf8EncodeChar hlow hquote hslash hb, ih]
      | letter hletter => exact (skipText_letter hletter).trans ih
      | unit hds hunit => exact (skipText_unit hds).trans ih
      | pair hds hes hhigh hlow =>
          rw [List.cons_append, List.cons_append, List.append_assoc, skipText_unit hds]
          exact (skipText_unit hes).trans ih

/-! ### Numbers -/

section SkipNumber

variable {cs ds : List Char} {rest : Input}

theorem skipDigits_append (h : IsDigits cs) (hnone : NoDigit rest) :
    skipDigits (cs.map byteOf ++ rest) = .ok rest := by
  have hdigits := digits_append (fun d hd => isDigit_of_mem_map_byteOf h.isDigit hd) hnone
  obtain ⟨first, more, hcons, -⟩ := exists_map_byteOf h
  rw [skipDigits, hdigits, hcons]

theorem noDigit_exponent (h : IsExponent cs) (hends : EndsNumber rest) :
    NoDigit (cs.map byteOf ++ rest) := by
  cases h with
  | none => exact hends.noDigit
  | signed hsign hds =>
      intro b hb
      cases hb
      decide

theorem skipExponent_append (h : IsExponent cs) (hends : EndsNumber rest) :
    skipExponent (cs.map byteOf ++ rest) = .ok rest := by
  cases h with
  | none =>
      cases rest with
      | nil => rfl
      | cons b more =>
          have hmark := (hends b rfl).2.2
          rw [List.map_nil, List.nil_append, skipExponent.eq_def]
          simp only [hmark, Bool.false_eq_true, if_false]
  | @signed sign ds hsign hds =>
      have hmark : isExponentMark (byteOf 'e') = true := by decide
      have hplus : byteOf sign = byteOf '+' ∨ byteOf sign = byteOf '-' :=
        hsign.imp (congrArg byteOf) (congrArg byteOf)
      rw [List.map_cons, List.map_cons, List.cons_append, List.cons_append, skipExponent.eq_def]
      simp only [hmark, if_true, if_pos hplus]
      exact skipDigits_append hds hends.noDigit

/-- The input after what may follow the digits before the point. -/
def skipTail (rest : Input) : Except Fault Input :=
  match rest with
  | b :: more => if b = byteOf '.' then do skipExponent (← skipDigits more) else skipExponent rest
  | [] => .ok []

theorem skipTail_of_exponent (h : IsExponent cs) (hends : EndsNumber rest) :
    skipTail (cs.map byteOf ++ rest) = .ok rest := by
  have hskip := skipExponent_append h hends
  have hpoint : ∀ b ∈ (cs.map byteOf ++ rest).head?, b ≠ byteOf '.' := by
    cases h with
    | none => exact fun b hb => (hends b hb).2.1
    | signed hsign hds =>
        intro b hb
        cases hb
        decide
  cases hinput : cs.map byteOf ++ rest with
  | nil =>
      rw [hinput] at hskip
      exact hskip
  | cons b more =>
      rw [hinput] at hskip hpoint
      exact (if_neg (hpoint b rfl)).trans hskip

theorem skipTail_append (h : IsFraction cs) (hexponent : IsExponent ds) (hends : EndsNumber rest) :
    skipTail (cs.map byteOf ++ (ds.map byteOf ++ rest)) = .ok rest := by
  cases h with
  | none => exact skipTail_of_exponent hexponent hends
  | point hds =>
      rw [List.map_cons, List.cons_append, skipTail, if_pos rfl,
        skipDigits_append hds (noDigit_exponent hexponent hends)]
      exact skipExponent_append hexponent hends

/-- Past the digits before the point only the tail of a number is left. -/
theorem skipNumber_whole (h : IsWhole cs) (hnone : NoDigit rest) :
    skipNumber (cs.map byteOf ++ rest) = skipTail rest := by
  have hdigits := skipDigits_append h.toIsDigits hnone
  obtain ⟨first, more, hcons, -⟩ := exists_map_byteOf h.toIsDigits
  rw [hcons] at hdigits ⊢
  rw [List.cons_append] at hdigits ⊢
  rw [skipNumber]
  dsimp only
  split
  · rename_i hzero
    rw [eq_nil_of_zero h hcons hzero, List.nil_append, if_neg hnone.head?_ne]
    rfl
  · rw [hdigits]
    rfl

/-- A number without a sign is passed over in full. -/
theorem skipNumber_unsigned (h : IsUnsigned cs) (hends : EndsNumber rest) :
    skipNumber (cs.map byteOf ++ rest) = .ok rest := by
  obtain ⟨front, fraction, exponent, hfront, hfraction, hexponent, rfl⟩ := h
  have hnone : NoDigit (fraction.map byteOf ++ (exponent.map byteOf ++ rest)) := by
    cases hfraction with
    | none =>
        rw [List.map_nil, List.nil_append]
        exact noDigit_exponent hexponent hends
    | point hds =>
        intro b hb
        cases hb
        decide
  rw [List.map_append, List.map_append, List.append_assoc, List.append_assoc,
    skipNumber_whole hfront hnone, skipTail_append hfraction hexponent hends]

end SkipNumber

/-! ### Scalars -/

section SkipScalar

variable {rest : Input}

/-- The input after a scalar whose first byte is taken. A bracket begins none. -/
def skipScalar (b : UInt8) (rest : Input) : Except Fault Input :=
  match Char.ofNat b.toNat with
  | 'n' => afterWord ['u', 'l', 'l'] rest
  | 't' => afterWord ['r', 'u', 'e'] rest
  | 'f' => afterWord ['a', 'l', 's', 'e'] rest
  | '"' => skipText rest
  | '-' => skipNumber rest
  | '[' => .error .malformed
  | '\x7b' => .error .malformed
  | _ => if isDigit b then skipNumber (b :: rest) else .error .malformed

theorem skipScalar_text {inner : Input} {s : String} (h : SpellsChars s.toList inner) :
    skipScalar (byteOf '"') (inner ++ byteOf '"' :: rest) = .ok rest := by
  have hback : Char.ofNat (byteOf '"').toNat = '"' := ofNat_toNat_byteOf (by decide)
  simp only [skipScalar, hback, skipText_spellsChars h]

theorem skipScalar_digit {c : Char} (hc : c.isDigit = true) {bs : Input}
    (hskip : skipNumber (byteOf c :: bs) = .ok rest) : skipScalar (byteOf c) bs = .ok rest := by
  have hdigit := isDigit_byteOf hc
  have hback := ofNat_toNat_byteOf (Nat.lt_of_le_of_lt (toNat_of_isDigit hc).2 (by decide))
  rw [skipScalar, hback]
  split
  case h_8 => rw [if_pos hdigit, hskip]
  all_goals exact absurd hc (by decide)

theorem skipScalar_minus {bs : Input} (hskip : skipNumber bs = .ok rest) :
    skipScalar (byteOf '-') bs = .ok rest := by
  have hback : Char.ofNat (byteOf '-').toNat = '-' := ofNat_toNat_byteOf (by decide)
  simp only [skipScalar, hback, hskip]

/-- A word is passed over as it is read. -/
theorem skipScalar_word {first : Char} (word : List Char)
    (hword : ∀ rest, skipScalar (byteOf first) rest = afterWord word rest) :
    skipScalar (byteOf first) (word.map byteOf ++ rest) = .ok rest := by
  rw [hword, afterWord_append]

/-- A value without brackets is spelled by a byte that begins a scalar and what the scalar
has after it. -/
theorem exists_skipScalar {v : Value} {one : Input} (hspells : v.Spells one)
    (hscalar : v.met.scalar?.isSome = true) :
    ∃ b more, one = b :: more ∧ isSpace b = false ∧
      ∀ rest, EndsNumber rest → skipScalar b (more ++ rest) = .ok rest := by
  cases v with
  | null =>
      exact ⟨_, _, hspells, by decide,
        fun _ _ => skipScalar_word ['u', 'l', 'l'] fun _ => rfl⟩
  | boolean b =>
      cases b with
      | true =>
          exact ⟨_, _, hspells, by decide,
            fun _ _ => skipScalar_word ['r', 'u', 'e'] fun _ => rfl⟩
      | false =>
          exact ⟨_, _, hspells, by decide,
            fun _ _ => skipScalar_word ['a', 'l', 's', 'e'] fun _ => rfl⟩
  | number n =>
      obtain ⟨cs, hcs, hwritten⟩ := n.isUnsigned_written
      have hbytes := encode_of_ascii fun c hc => hcs.isAscii hc
      rcases hwritten with hwritten | hwritten
      · obtain ⟨first, more, rfl, hfirst⟩ := hcs.exists_cons
        refine ⟨byteOf first, more.map byteOf, ?_, isSpace_of_isDigit (isDigit_byteOf hfirst),
          fun rest hends => skipScalar_digit hfirst (skipNumber_unsigned hcs hends)⟩
        rw [hspells, hwritten, hbytes, List.map_cons]
      · refine ⟨byteOf '-', cs.map byteOf, ?_, by decide,
          fun rest hends => skipScalar_minus (skipNumber_unsigned hcs hends)⟩
        rw [hspells, hwritten, ← hbytes]
        rfl
  | text s =>
      obtain ⟨inner, hinner, rfl⟩ := hspells
      refine ⟨_, _, rfl, by decide, fun rest _ => ?_⟩
      rw [List.append_assoc, List.singleton_append]
      exact skipScalar_text hinner
  | array items => cases hscalar
  | object members => cases hscalar

end SkipScalar

/-! ### Rounds -/

/-- The mark that opens an object or a sequence. -/
def openingMark (isObject : Bool) : UInt8 := byteOf (if isObject then '\x7b' else '[')

/-- The mark that closes an object or a sequence. -/
def closingMark (isObject : Bool) : UInt8 := byteOf (if isObject then '\x7d' else ']')

/-- What is expected between brackets. -/
def expectedIn (isObject : Bool) : Expecting := if isObject then .name else .value

section SkipFrom

variable {budget : Nat} {opened : List Bool} {blanks rest : Input}

theorem skipFrom_value_append (h : IsBlanks blanks) (rest : Input) :
    skipFrom (budget + 1) .value opened (blanks ++ rest) =
      skipFrom (budget + 1) .value opened rest := by
  rw [skipFrom, skipFrom, skipSpaces_append h]

/-- A scalar takes one round. -/
theorem skipFrom_value_scalar {b : UInt8} {after : Input} (hspace : isSpace b = false)
    (hscalar : skipScalar b rest = .ok after) :
    skipFrom (budget + 1) .value opened (b :: rest) = skipFrom budget .next opened after := by
  rw [skipFrom, skipSpaces_cons hspace]
  dsimp only
  unfold skipScalar at hscalar
  -- both sides look at the same character, and at a bracket no scalar begins
  generalize Char.ofNat b.toNat = c at hscalar ⊢
  split at hscalar
  case h_6 | h_7 => cases hscalar
  case h_8 =>
    have hdigit : isDigit b = true := by
      by_contra hnot
      rw [if_neg hnot] at hscalar
      cases hscalar
    rw [if_pos hdigit] at hscalar
    simp only [hdigit, if_true, hscalar]
  all_goals simp only [hscalar]

variable {isObject : Bool}

/-- What follows a bracket that is opened decides how it goes on. -/
theorem skipFrom_value_bracket (isObject : Bool) (rest : Input) :
    skipFrom (budget + 1) .value opened (openingMark isObject :: rest) =
      match skipSpaces rest with
      | [] => .error .cutShort
      | c :: more =>
          if c = closingMark isObject then skipFrom budget .next opened more
          else skipFrom budget (expectedIn isObject) (isObject :: opened) (c :: more) := by
  cases isObject <;> rfl

theorem skipFrom_next (bs : Input) :
    skipFrom (budget + 1) .next (isObject :: opened) bs =
      match skipSpaces bs with
      | [] => .error .cutShort
      | b :: rest =>
          if b = byteOf ',' then skipFrom budget (expectedIn isObject) (isObject :: opened) rest
          else if b = closingMark isObject then skipFrom budget .next opened rest
          else .error .malformed :=
  rfl

/-- Brackets with nothing between them take one round. -/
theorem skipFrom_empty (h : IsBlanks blanks) :
    skipFrom (budget + 1) .value opened
      (openingMark isObject :: (blanks ++ closingMark isObject :: rest)) =
        skipFrom budget .next opened rest := by
  have hspace : isSpace (closingMark isObject) = false := by cases isObject <;> decide
  rw [skipFrom_value_bracket, skipSpaces_append_cons h hspace]
  exact if_pos rfl

theorem skipFrom_open (h : IsBlanks blanks) {b : UInt8} (hspace : isSpace b = false)
    (hclose : b ≠ closingMark isObject) :
    skipFrom (budget + 1) .value opened (openingMark isObject :: (blanks ++ b :: rest)) =
      skipFrom budget (expectedIn isObject) (isObject :: opened) (b :: rest) := by
  rw [skipFrom_value_bracket, skipSpaces_append_cons h hspace]
  exact if_neg hclose

theorem skipFrom_close (h : IsBlanks blanks) :
    skipFrom (budget + 1) .next (isObject :: opened) (blanks ++ closingMark isObject :: rest) =
      skipFrom budget .next opened rest := by
  have hspace : isSpace (closingMark isObject) = false := by cases isObject <;> decide
  have hcomma : closingMark isObject ≠ byteOf ',' := by cases isObject <;> decide
  rw [skipFrom_next, skipSpaces_append_cons h hspace]
  exact (if_neg hcomma).trans (if_pos rfl)

theorem skipFrom_comma {lead : Input} (h : Leads false lead) (rest : Input) :
    ∃ after, IsBlanks after ∧ ∀ budget opened,
      skipFrom (budget + 1) .next (isObject :: opened) (lead ++ rest) =
        skipFrom budget (expectedIn isObject) (isObject :: opened) (after ++ rest) := by
  obtain ⟨after, hafter, hskip⟩ := skipSpaces_isMarked h (by decide) rest
  refine ⟨after, hafter, fun budget opened => ?_⟩
  rw [skipFrom_next, hskip]
  exact if_pos rfl

theorem skipFrom_name {name : String} {named colon : Input} (h : IsBlanks blanks)
    (hnamed : SpellsText name named) (hcolon : IsMarked (byteOf ':') colon) (rest : Input) :
    ∃ after, IsBlanks after ∧ ∀ budget opened,
      skipFrom (budget + 1) .name opened (blanks ++ (named ++ (colon ++ rest))) =
        skipFrom budget .value opened (after ++ rest) := by
  obtain ⟨inner, hinner, rfl⟩ := hnamed
  obtain ⟨after, hafter, hskip⟩ := afterColon_append hcolon rest
  refine ⟨after, hafter, fun budget opened => ?_⟩
  rw [List.cons_append, List.append_assoc, List.singleton_append, skipFrom,
    skipSpaces_append_cons h (by decide)]
  simp only [if_true, skipText_spellsChars hinner, bind, Except.bind, hskip]

end SkipFrom

/-! ### Values -/

/-- The bytes of a value are passed over, in no more rounds than there are bytes. -/
def PassedOver (one : Input) : Prop :=
  ∃ k < one.length, ∀ budget opened rest, EndsNumber rest →
    skipFrom (budget + (k + 1)) .value opened (one ++ rest) = skipFrom budget .next opened rest

theorem PassedOver.of_scalar {v : Value} {one : Input} (hspells : v.Spells one)
    (hscalar : v.met.scalar?.isSome = true) : PassedOver one := by
  obtain ⟨b, more, rfl, hspace, hskip⟩ := exists_skipScalar hspells hscalar
  exact ⟨0, Nat.zero_lt_succ _, fun budget opened rest hends =>
    skipFrom_value_scalar hspace (hskip rest hends)⟩

section Between

variable {isObject : Bool} {lead bs : Input}

/-- What stands before a closing bracket, after a value, is passed over with the bracket. -/
def PassedToClose (isObject : Bool) (bs : Input) : Prop :=
  ∃ k ≤ bs.length, ∀ budget opened rest,
    skipFrom (budget + (k + 1)) .next (isObject :: opened) (bs ++ closingMark isObject :: rest) =
      skipFrom budget .next opened rest

/-- The same for what begins with a value. -/
def PassedFromValue (isObject : Bool) (bs : Input) : Prop :=
  ∃ k ≤ bs.length, ∀ budget opened blanks rest, IsBlanks blanks →
    skipFrom (budget + (k + 1)) .value (isObject :: opened)
      (blanks ++ (bs ++ closingMark isObject :: rest)) = skipFrom budget .next opened rest

theorem passedToClose_of_isBlanks (h : IsBlanks bs) : PassedToClose isObject bs :=
  ⟨0, Nat.zero_le _, fun _ _ _ => skipFrom_close h⟩

theorem PassedOver.append {one more : Input} (hone : PassedOver one)
    (hmore : PassedToClose isObject more)
    (hends : ∀ rest, EndsNumber (more ++ closingMark isObject :: rest)) :
    PassedFromValue isObject (one ++ more) := by
  obtain ⟨k, hk, hvalue⟩ := hone
  obtain ⟨l, hl, hclose⟩ := hmore
  refine ⟨k + l + 1, by rw [List.length_append]; omega, fun budget opened blanks rest hblanks => ?_⟩
  -- the value takes its rounds from a budget that holds those of the rest as well
  have hbudget : budget + (k + l + 1 + 1) = budget + (l + 1) + (k + 1) := by omega
  rw [hbudget, List.append_assoc, ← Nat.add_assoc _ k, skipFrom_value_append hblanks,
    Nat.add_assoc _ k, hvalue _ _ _ (hends rest), hclose]

theorem PassedFromValue.item (h : PassedFromValue false bs) (hlead : Leads false lead) :
    PassedToClose false (lead ++ bs) := by
  obtain ⟨k, hk, hvalue⟩ := h
  have hlength : 0 < lead.length := by
    obtain ⟨before, after, -, -, rfl⟩ := hlead
    simp
  refine ⟨k + 1, by rw [List.length_append]; omega, fun budget opened rest => ?_⟩
  obtain ⟨after, hafter, hcomma⟩ := skipFrom_comma hlead (bs ++ closingMark false :: rest)
  rw [List.append_assoc, ← Nat.add_assoc, hcomma]
  exact hvalue _ _ _ _ hafter

theorem PassedFromValue.member {name : String} {named colon : Input}
    (h : PassedFromValue true bs) (hlead : Leads false lead) (hnamed : SpellsText name named)
    (hcolon : IsMarked (byteOf ':') colon) :
    PassedToClose true (lead ++ (named ++ (colon ++ bs))) := by
  obtain ⟨k, hk, hvalue⟩ := h
  have hlength : 0 < lead.length ∧ 0 < colon.length := by
    obtain ⟨before, after, -, -, rfl⟩ := hlead
    obtain ⟨before, after, -, -, rfl⟩ := hcolon
    simp
  refine ⟨k + 2, by simp only [List.length_append]; omega, fun budget opened rest => ?_⟩
  obtain ⟨blanks, hblanks, hcomma⟩ :=
    skipFrom_comma hlead (named ++ (colon ++ (bs ++ closingMark true :: rest)))
  obtain ⟨after, hafter, hname⟩ :=
    skipFrom_name hblanks hnamed hcolon (bs ++ closingMark true :: rest)
  simp only [List.append_assoc]
  rw [← Nat.add_assoc, hcomma]
  exact (hname _ _).trans (hvalue _ _ _ _ hafter)

/-- Brackets with something between them. -/
theorem passedOver_of_inside (isObject : Bool) {b : UInt8} {k : Nat} (hlead : IsBlanks lead)
    (hcons : bs.head? = some b) (hspace : isSpace b = false) (hclose : b ≠ closingMark isObject)
    (hk : k ≤ bs.length)
    (hinside : ∀ budget opened rest,
      skipFrom (budget + (k + 1)) (expectedIn isObject) (isObject :: opened)
        (bs ++ closingMark isObject :: rest) = skipFrom budget .next opened rest) :
    PassedOver (openingMark isObject :: (lead ++ bs ++ [closingMark isObject])) := by
  obtain ⟨more, rfl⟩ := List.head?_eq_some_iff.1 hcons
  refine ⟨k + 1, by simp only [List.length_cons, List.length_append] at hk ⊢; omega,
    fun budget opened rest _ => ?_⟩
  have hinput : openingMark isObject :: (lead ++ b :: more ++ [closingMark isObject]) ++ rest =
      openingMark isObject :: (lead ++ b :: (more ++ closingMark isObject :: rest)) := by
    simp only [List.cons_append, List.append_assoc, List.nil_append]
  rw [hinput, ← Nat.add_assoc, skipFrom_open hlead hspace hclose]
  exact hinside budget opened rest

theorem passedOver_of_isBlanks (isObject : Bool) (h : IsBlanks bs) :
    PassedOver (openingMark isObject :: (bs ++ [closingMark isObject])) :=
  ⟨0, Nat.zero_lt_succ _, fun budget opened rest _ => by
    rw [List.cons_append, List.append_assoc, List.singleton_append, skipFrom_empty h]⟩

theorem PassedFromValue.array {v : Value} {one more : Input}
    (h : PassedFromValue false (one ++ more)) (hlead : IsBlanks lead) (hone : v.Spells one) :
    PassedOver (openingMark false :: (lead ++ (one ++ more) ++ [closingMark false])) := by
  obtain ⟨k, hk, hvalue⟩ := h
  obtain ⟨b, tail, rfl, hbegins⟩ := exists_cons_of_spells hone
  exact passedOver_of_inside false hlead rfl hbegins.no_space hbegins.no_close hk
    fun budget opened rest => hvalue budget opened [] rest isBlanks_nil

theorem PassedFromValue.object {name : String} {named colon : Input}
    (h : PassedFromValue true bs) (hlead : IsBlanks lead) (hnamed : SpellsText name named)
    (hcolon : IsMarked (byteOf ':') colon) :
    PassedOver (openingMark true :: (lead ++ (named ++ (colon ++ bs)) ++ [closingMark true])) := by
  obtain ⟨k, hk, hvalue⟩ := h
  have hquote : (named ++ (colon ++ bs)).head? = some (byteOf '"') := by
    obtain ⟨inner, -, rfl⟩ := hnamed
    rfl
  have hlength : 0 < colon.length := by
    obtain ⟨before, after, -, -, rfl⟩ := hcolon
    simp
  refine passedOver_of_inside true (k := k + 1) hlead hquote (by decide) (by decide)
    (by simp only [List.length_append]; omega) fun budget opened rest => ?_
  obtain ⟨after, hafter, hname⟩ :=
    skipFrom_name isBlanks_nil hnamed hcolon (bs ++ closingMark true :: rest)
  simp only [List.append_assoc]
  rw [← Nat.add_assoc]
  exact (hname _ _).trans (hvalue _ _ _ _ hafter)

end Between

mutual

/-- A value is passed over, however it is spelled. -/
theorem Value.passedOver_spells : ∀ (v : Value) {one : Input}, v.Spells one → PassedOver one
  | .null, _, hspells => .of_scalar hspells rfl
  | .boolean _, _, hspells => .of_scalar hspells rfl
  | .number _, _, hspells => .of_scalar hspells rfl
  | .text _, _, hspells => .of_scalar hspells rfl
  | .array [], _, ⟨_, hblanks, hone⟩ => hone ▸ passedOver_of_isBlanks false hblanks
  | .array (v :: items), _, ⟨_, ⟨_, _, _, hlead, hone, hmore, hsame⟩, hall⟩ => by
      subst hsame hall
      exact (v.passedOver_spells hone |>.append (passedToClose_items items hmore)
        (endsNumber_of_itemsSpell hmore)).array hlead hone
  | .object [], _, ⟨_, hblanks, hone⟩ => hone ▸ passedOver_of_isBlanks true hblanks
  | .object ((_, v) :: members), _,
      ⟨_, ⟨_, _, _, _, _, hlead, hnamed, hcolon, hone, hmore, hsame⟩, hall⟩ => by
      subst hsame hall
      exact (v.passedOver_spells hone |>.append (passedToClose_members members hmore)
        (endsNumber_of_membersSpell hmore)).object hlead hnamed hcolon

theorem passedToClose_items : ∀ (items : List Value) {bs : Input},
    ItemsSpell false items bs → PassedToClose false bs
  | [], _, hspells => passedToClose_of_isBlanks hspells
  | v :: items, _, ⟨_, _, _, hlead, hone, hmore, hsame⟩ => by
      subst hsame
      exact (v.passedOver_spells hone |>.append (passedToClose_items items hmore)
        (endsNumber_of_itemsSpell hmore)).item hlead

theorem passedToClose_members : ∀ (members : List (String × Value)) {bs : Input},
    MembersSpell false members bs → PassedToClose true bs
  | [], _, hspells => passedToClose_of_isBlanks hspells
  | (_, v) :: members, _, ⟨_, _, _, _, _, hlead, hnamed, hcolon, hone, hmore, hsame⟩ => by
      subst hsame
      exact (v.passedOver_spells hone |>.append (passedToClose_members members hmore)
        (endsNumber_of_membersSpell hmore)).member hlead hnamed hcolon

end

/-- However a value is spelled, it is passed over in full, whatever its numbers are and
however deep its brackets are nested. -/
theorem skipValue_spells {v : Value} {blanks one rest : Input} (hblanks : IsBlanks blanks)
    (hspells : v.Spells one) (hends : EndsNumber rest) :
    skipValue (blanks ++ (one ++ rest)) = .ok rest := by
  obtain ⟨k, hk, hskip⟩ := v.passedOver_spells hspells
  -- the budget is twice the input, so what the value leaves of it is enough for the last round
  obtain ⟨spare, hspare⟩ : ∃ spare, 2 * (blanks ++ (one ++ rest)).length + 2 =
      spare + 1 + (k + 1) := by
    refine ⟨2 * (blanks ++ (one ++ rest)).length - k, ?_⟩
    simp only [List.length_append]
    omega
  rw [skipValue, hspare, ← Nat.add_assoc, skipFrom_value_append hblanks, Nat.add_assoc,
    hskip _ _ _ hends]
  rfl

end SignedAccess.Json
