/-
# Ways to write a value

A value can be written in many ways: blanks may stand around every part, a character
may stand for itself or be escaped, by a letter or by one or two code units, and an
object may have its members in any order and a name more than once. `Value.Spells` is
the relation between a value, with the members of its objects as they are written, and
all its texts. The compact form is one of them.
-/

import SignedAccess.Json.Reader
import SignedAccess.Proofs.Text.Escapes
import SignedAccess.Proofs.Text.Numerals

namespace SignedAccess.Json

open Text

/-- There are only blanks. -/
def IsBlanks (bs : Input) : Prop := ∀ b ∈ bs, isSpace b = true

/-- What stands around a mark between two parts: blanks, the mark, and blanks. -/
def IsMarked (mark : UInt8) (bs : Input) : Prop :=
  ∃ before after, IsBlanks before ∧ IsBlanks after ∧ bs = before ++ mark :: after

/-- What stands before a part: blanks before the first one, and a comma before each
other. -/
def Leads (isFirst : Bool) (bs : Input) : Prop :=
  if isFirst then IsBlanks bs else IsMarked (byteOf ',') bs

/-- The ways to write one character of a text. -/
inductive SpellsChar : Char → Input → Prop
  /-- The character itself, unless it is a control character or means something. -/
  | plain {c : Char} (hlow : 0x20 ≤ c.toNat) (hquote : c ≠ '"') (hslash : c ≠ '\\') :
      SpellsChar c (String.utf8EncodeChar c)
  /-- An escape of one letter. -/
  | letter {c : Char} {b : UInt8} (hletter : shortEscape? b = some c) :
      SpellsChar c [byteOf '\\', b]
  /-- One code unit, in four digits. -/
  | unit {n : Nat} {ds : Input} (hds : readHex4 ds = .ok (n, []))
      (hunit : n < 0xd800 ∨ 0xdfff < n) :
      SpellsChar (Char.ofNat n) (byteOf '\\' :: byteOf 'u' :: ds)
  /-- Two code units that belong together. -/
  | pair {high low : Nat} {ds es : Input} (hds : readHex4 ds = .ok (high, []))
      (hes : readHex4 es = .ok (low, [])) (hhigh : 0xd800 ≤ high ∧ high < 0xdc00)
      (hlow : 0xdc00 ≤ low ∧ low ≤ 0xdfff) :
      SpellsChar (Char.ofNat (0x10000 + (high - 0xd800) * 0x400 + (low - 0xdc00)))
        (byteOf '\\' :: byteOf 'u' :: (ds ++ byteOf '\\' :: byteOf 'u' :: es))

/-- The ways to write the characters of a text. -/
inductive SpellsChars : List Char → Input → Prop
  | nil : SpellsChars [] []
  | cons {c : Char} {cs : List Char} {one more : Input} (hone : SpellsChar c one)
      (hmore : SpellsChars cs more) : SpellsChars (c :: cs) (one ++ more)

/-- The ways to write a text. -/
def SpellsText (s : String) (bs : Input) : Prop :=
  ∃ inner, SpellsChars s.toList inner ∧ bs = byteOf '"' :: (inner ++ [byteOf '"'])

mutual

/-- The ways to write a value. Words and numbers have only one. -/
def Value.Spells : Value → Input → Prop
  | .null, bs => bs = encode Value.null.written
  | .boolean b, bs => bs = encode (Value.boolean b).written
  | .number n, bs => bs = encode n.written
  | .text s, bs => SpellsText s bs
  | .array items, bs =>
      ∃ inner, ItemsSpell true items inner ∧ bs = byteOf '[' :: (inner ++ [byteOf ']'])
  | .object members, bs =>
      ∃ inner, MembersSpell true members inner ∧
        bs = byteOf '\x7b' :: (inner ++ [byteOf '\x7d'])

/-- The ways to write items, up to the closing bracket. -/
def ItemsSpell : Bool → List Value → Input → Prop
  | _, [], bs => IsBlanks bs
  | isFirst, v :: rest, bs =>
      ∃ lead one more, Leads isFirst lead ∧ Value.Spells v one ∧ ItemsSpell false rest more ∧
        bs = lead ++ (one ++ more)

/-- The ways to write members, up to the closing bracket. -/
def MembersSpell : Bool → List (String × Value) → Input → Prop
  | _, [], bs => IsBlanks bs
  | isFirst, (name, v) :: rest, bs =>
      ∃ lead named colon one more, Leads isFirst lead ∧ SpellsText name named ∧
        IsMarked (byteOf ':') colon ∧ Value.Spells v one ∧ MembersSpell false rest more ∧
        bs = lead ++ (named ++ (colon ++ (one ++ more)))

end

/-- The value can be kept without loss: its numbers are whole and of 64 bits, and its
brackets are nested at most so deep. -/
inductive Value.Fits : Nat → Value → Prop
  | null {depth : Nat} : Fits depth .null
  | boolean {depth : Nat} (b : Bool) : Fits depth (.boolean b)
  | number {depth : Nat} {n : Int} (hlow : -(deepest : Int) ≤ n) (hhigh : n < significandLimit) :
      Fits depth (.number (.whole n))
  | text {depth : Nat} (s : String) : Fits depth (.text s)
  | array {depth : Nat} {items : List Value} (hitems : ∀ v ∈ items, Fits depth v) :
      Fits (depth + 1) (.array items)
  | object {depth : Nat} {members : List (String × Value)}
      (hmembers : ∀ m ∈ members, Fits depth m.2) : Fits (depth + 1) (.object members)

/-- A number of 64 bits fits at every depth. -/
theorem Value.fits_ofNat {depth n : Nat} (hn : n < significandLimit) :
    (Value.ofNat n).Fits depth := by
  refine .number ?_ (Int.ofNat_lt.2 hn)
  unfold deepest
  omega

theorem Value.fits_object_iff {depth : Nat} {members : List (String × Value)} :
    (Value.object members).Fits (depth + 1) ↔ ∀ m ∈ members, m.2.Fits depth := by
  constructor
  · rintro ⟨⟩
    assumption
  · exact .object

/-! ### Bytes of ASCII texts -/

theorem encode_of_ascii {cs : List Char} (hcs : ∀ c ∈ cs, c.toNat < 0x80) :
    encode cs = cs.map byteOf := by
  induction cs with
  | nil => rfl
  | cons c rest ih =>
      rw [encode_cons, utf8EncodeChar_of_lt (hcs c List.mem_cons_self),
        ih fun d hd => hcs d (List.mem_cons_of_mem _ hd)]
      rfl

theorem encode_append (as bs : List Char) : encode (as ++ bs) = encode as ++ encode bs :=
  List.flatMap_append

/-! ### The compact form -/

theorem isBlanks_nil : IsBlanks [] := List.forall_mem_nil _

theorem isMarked_self (mark : UInt8) : IsMarked mark [mark] :=
  ⟨[], [], isBlanks_nil, isBlanks_nil, rfl⟩

/-- A control character without a letter of its own is written as a code unit. -/
theorem spellsChar_control {c : Char} (hc : c.toNat < 0x20) :
    SpellsChar c
      (encode ['\\', 'u', '0', '0', hexDigit (c.toNat / 16), hexDigit (c.toNat % 16)]) := by
  have hall : ∀ n < 0x20, ∃ ds, encode ['\\', 'u', '0', '0', hexDigit (n / 16), hexDigit (n % 16)] =
      byteOf '\\' :: byteOf 'u' :: ds ∧ readHex4 ds = .ok (n, []) := by
    intro n hn
    refine ⟨encode ['0', '0', hexDigit (n / 16), hexDigit (n % 16)], rfl, ?_⟩
    revert n
    decide
  obtain ⟨ds, hwritten, hds⟩ := hall c.toNat hc
  have hspells := SpellsChar.unit hds (Or.inl (by omega))
  rwa [Char.ofNat_toNat, ← hwritten] at hspells

/-- Each character is spelled by its own writing. -/
theorem spellsChar_charWritten (c : Char) : SpellsChar c (encode (charWritten c)) := by
  unfold charWritten
  split
  · exact .letter (by decide)
  · exact .letter (by decide)
  · exact .letter (by decide)
  · exact .letter (by decide)
  · exact .letter (by decide)
  · exact .letter (by decide)
  · exact .letter (by decide)
  · split
    · rename_i hlow
      exact spellsChar_control hlow
    · rename_i hquote hslash _ _ _ _ _ hhigh
      have hspells := SpellsChar.plain (Nat.le_of_not_lt hhigh) hquote hslash
      rwa [encode_cons, encode_nil, List.append_nil]

theorem spellsChars_flatMap (cs : List Char) :
    SpellsChars cs (encode (cs.flatMap charWritten)) := by
  induction cs with
  | nil => exact .nil
  | cons c rest ih =>
      rw [List.flatMap_cons, encode_append]
      exact .cons (spellsChar_charWritten c) ih

theorem spellsText_textWritten (s : String) : SpellsText s (encode (textWritten s)) := by
  refine ⟨_, spellsChars_flatMap s.toList, ?_⟩
  rw [textWritten, List.cons_append, encode_cons, encode_append]
  rfl

/-- What the compact form has before a part, unless there is no part. -/
def compactLead (isFirst isNone : Bool) : Input := if isFirst || isNone then [] else [byteOf ',']

theorem leads_compactLead (isFirst : Bool) : Leads isFirst (compactLead isFirst false) := by
  cases isFirst with
  | true => exact isBlanks_nil
  | false => exact isMarked_self _

mutual

/-- The compact form spells the value. -/
theorem Value.spells_written : ∀ v : Value, v.Spells (encode v.written)
  | .null => rfl
  | .boolean _ => rfl
  | .number _ => rfl
  | .text s => spellsText_textWritten s
  | .array items => by
      refine ⟨_, itemsSpell_written items true, ?_⟩
      rw [Value.written, List.cons_append, encode_cons, encode_append]
      rfl
  | .object members => by
      refine ⟨_, membersSpell_written members true, ?_⟩
      rw [Value.written, List.cons_append, encode_cons, encode_append]
      rfl

theorem itemsSpell_written : ∀ (items : List Value) (isFirst : Bool),
    ItemsSpell isFirst items (compactLead isFirst items.isEmpty ++ encode (itemsWritten items))
  | [], isFirst => by
      rw [compactLead, List.isEmpty_nil, Bool.or_true]
      exact isBlanks_nil
  | [v], isFirst =>
      ⟨_, _, [], leads_compactLead isFirst, v.spells_written, isBlanks_nil, by
        rw [itemsWritten, List.append_nil]
        rfl⟩
  | v :: next :: rest, isFirst =>
      ⟨_, _, _, leads_compactLead isFirst, v.spells_written,
        itemsSpell_written (next :: rest) false, by
          rw [itemsWritten, encode_append, encode_cons]
          rfl⟩

theorem membersSpell_written : ∀ (members : List (String × Value)) (isFirst : Bool),
    MembersSpell isFirst members
      (compactLead isFirst members.isEmpty ++ encode (membersWritten members))
  | [], isFirst => by
      rw [compactLead, List.isEmpty_nil, Bool.or_true]
      exact isBlanks_nil
  | [(name, v)], isFirst =>
      ⟨_, _, _, _, [], leads_compactLead isFirst, spellsText_textWritten name, isMarked_self _,
        v.spells_written, isBlanks_nil, by
          rw [membersWritten, encode_append, encode_cons, List.append_nil]
          rfl⟩
  | (name, v) :: next :: rest, isFirst =>
      ⟨_, _, _, _, _, leads_compactLead isFirst, spellsText_textWritten name, isMarked_self _,
        v.spells_written, membersSpell_written (next :: rest) false, by
          rw [membersWritten, encode_append, encode_cons, encode_append, encode_cons]
          rfl⟩

end

end SignedAccess.Json
