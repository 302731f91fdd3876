/-
# Escapes and paths lose nothing

An escaped text is told here by what it may hold and not by how it is written: unreserved
characters, slashes where they are kept, and every other byte as a percent sign with two
upper-case digits. Of the texts of this form just one stands for given bytes, and escaping
writes that one. No escaped bucket holds a slash, so the first slash after a bucket is
where its key begins, and a path has one bucket and one key or none.
-/

import SignedAccess.Proofs.Upload.ObjectPath

namespace SignedAccess

open Text

namespace Text

/-! ### The form of an escaped text -/

/-- A character that stands for itself in every escaped text. -/
def isUnreservedChar (c : Char) : Bool :=
  c.isAlphanum || c == '-' || c == '_' || c == '.' || c == '~'

/-- The digits of an escape in the order of their values. -/
def escapeDigits : Vector Char 16 :=
  #v['0', '1', '2', '3', '4', '5', '6', '7', '8', '9', 'A', 'B', 'C', 'D', 'E', 'F']

/-- The byte of two digits. -/
def digitsByte (high low : Fin 16) : UInt8 := UInt8.ofNat (16 * high.val + low.val)

/-- An escaped text, where slashes are escaped or kept. What could stand for itself is
not escaped, so no byte has two spellings. -/
inductive IsUriText (encodeSlash : Bool) : List Char → Prop
  | nil : IsUriText encodeSlash []
  | unreserved {c : Char} {rest : List Char} (hc : isUnreservedChar c = true)
      (hrest : IsUriText encodeSlash rest) : IsUriText encodeSlash (c :: rest)
  | slash {rest : List Char} (hkept : encodeSlash = false)
      (hrest : IsUriText encodeSlash rest) : IsUriText encodeSlash ('/' :: rest)
  | escaped {high low : Fin 16} {rest : List Char}
      (hbyte : isUnreservedChar (Char.ofNat (digitsByte high low).toNat) = false)
      (hslash : digitsByte high low = 0x2F → encodeSlash = true)
      (hrest : IsUriText encodeSlash rest) :
      IsUriText encodeSlash ('%' :: escapeDigits[high] :: escapeDigits[low] :: rest)

/-- The unreserved bytes are those of the unreserved characters. -/
theorem isUnreserved_eq (b : UInt8) : isUnreserved b = isUnreservedChar (Char.ofNat b.toNat) := by
  revert b
  exact forall_byte (by decide +kernel)

theorem toNat_lt_of_isUnreservedChar {c : Char} (hc : isUnreservedChar c = true) :
    c.toNat < 0x80 := by
  apply toNat_lt_of_isUriChar
  simp only [isUnreservedChar] at hc
  rw [isUriChar, hc, Bool.true_or]

/-- The digits of a byte are those that escaping writes. -/
theorem escapeByte_digitsByte (high low : Fin 16) :
    escapeByte (digitsByte high low) = ['%', escapeDigits[high], escapeDigits[low]] := by
  revert high low
  decide +kernel

theorem exists_digitsByte (b : UInt8) : ∃ high low, b = digitsByte high low := by
  have hb : b.toNat < 256 := b.toNat_lt
  refine ⟨⟨b.toNat / 16, by omega⟩, ⟨b.toNat % 16, by omega⟩, ?_⟩
  rw [digitsByte, Nat.div_add_mod, UInt8.ofNat_toNat]

/-! ### Escaping writes the form -/

/-- Whether escaping leaves a byte as it is. -/
def isKeptByte (encodeSlash : Bool) (b : UInt8) : Bool :=
  isUnreserved b || (b == 0x2F && !encodeSlash)

theorem isUriText_escapeBytes (encodeSlash : Bool) (bs : List UInt8) :
    IsUriText encodeSlash (escapeBytes (isKeptByte encodeSlash) bs) := by
  induction bs with
  | nil => exact .nil
  | cons b rest ih =>
      have hcons : escapeBytes (isKeptByte encodeSlash) (b :: rest) =
          (if isKeptByte encodeSlash b then [Char.ofNat b.toNat] else escapeByte b) ++
            escapeBytes (isKeptByte encodeSlash) rest := rfl
      rw [hcons]
      cases hkept : isKeptByte encodeSlash b with
      | true =>
          simp only [isKeptByte, Bool.or_eq_true, Bool.and_eq_true, beq_iff_eq,
            Bool.not_eq_true'] at hkept
          rcases hkept with hunreserved | ⟨rfl, hslash⟩
          · exact .unreserved (isUnreserved_eq b ▸ hunreserved) ih
          · exact .slash hslash ih
      | false =>
          obtain ⟨high, low, rfl⟩ := exists_digitsByte b
          simp only [isKeptByte, Bool.or_eq_false_iff, Bool.and_eq_false_iff,
            Bool.not_eq_false'] at hkept
          obtain ⟨hunreserved, hslash⟩ := hkept
          rw [if_neg Bool.false_ne_true, escapeByte_digitsByte]
          refine .escaped (isUnreserved_eq _ ▸ hunreserved) (fun heq => ?_) ih
          exact hslash.resolve_left (by simp [heq])

/-- A text of the form is how the bytes are escaped that it stands for. -/
theorem IsUriText.eq_escapeBytes {encodeSlash : Bool} {text : List Char}
    (htext : IsUriText encodeSlash text) :
    text = escapeBytes (isKeptByte encodeSlash) (unescape text) := by
  -- what stands for itself is one kept byte
  have hself : ∀ {c : Char} {rest : List Char}, c.toNat < 0x80 → c ≠ '%' →
      isKeptByte encodeSlash (UInt8.ofNat c.toNat) = true →
      rest = escapeBytes (isKeptByte encodeSlash) (unescape rest) →
      c :: rest = escapeBytes (isKeptByte encodeSlash) (unescape (c :: rest)) := by
    intro c rest hlow hpercent hkept hrest
    rw [unescape_cons_of_ne rest hpercent, escapeBytes_append, ← hrest,
      escapeBytes_utf8EncodeChar hlow hkept, List.singleton_append]
  induction htext with
  | nil => rw [unescape_nil]; rfl
  | @unreserved c rest hc hrest ih =>
      have hlow := toNat_lt_of_isUnreservedChar hc
      refine hself hlow ?_ ?_ ih
      · rintro rfl
        exact absurd hc (by decide)
      · rw [isKeptByte, isUnreserved_eq, toNat_byte_of_ascii hlow, Char.ofNat_toNat, hc,
          Bool.true_or]
  | slash hkept hrest ih =>
      refine hself (by decide) (by decide) ?_ ih
      rw [isKeptByte, hkept]
      rfl
  | @escaped high low rest hbyte hslash hrest ih =>
      have hkept : isKeptByte encodeSlash (digitsByte high low) = false := by
        rw [isKeptByte, isUnreserved_eq, hbyte, Bool.false_or]
        cases hmark : digitsByte high low == 0x2F with
        | false => rfl
        | true => rw [hslash (eq_of_beq hmark)]; rfl
      have htext : '%' :: escapeDigits[high] :: escapeDigits[low] :: rest =
          escapeByte (digitsByte high low) ++ rest := by
        rw [escapeByte_digitsByte]
        rfl
      rw [htext, unescape_escapeByte_append, ← List.singleton_append, escapeBytes_append, ← ih]
      simp only [escapeBytes, List.flatMap_singleton, hkept, Bool.false_eq_true, if_false]

/-- Escaping writes the one text of the form that stands for the bytes of a text. -/
theorem eq_uriEncode_iff {text cs : List Char} {encodeSlash : Bool} :
    text = uriEncode cs encodeSlash ↔ IsUriText encodeSlash text ∧ unescape text = encode cs := by
  constructor
  · rintro rfl
    exact ⟨isUriText_escapeBytes encodeSlash (encode cs), unescape_uriEncode cs encodeSlash⟩
  · rintro ⟨htext, hbytes⟩
    rw [htext.eq_escapeBytes, hbytes]
    rfl

theorem uriEncode_injective {as bs : List Char} {encodeSlash : Bool}
    (heq : uriEncode as encodeSlash = uriEncode bs encodeSlash) : as = bs := by
  apply encode_injective
  rw [← unescape_uriEncode as encodeSlash, heq, unescape_uriEncode]

end Text

/-! ### Paths -/

/-- What follows the bucket in a path. -/
def keyPart (key : Option String) : List Char :=
  match key with
  | some key => '/' :: uriEncode key.toList false
  | none => []

/-- The first slash after the bucket is where the key begins. -/
theorem takeWhile_objectPath (bucket : String) (key : Option String) :
    (uriEncode bucket.toList true ++ keyPart key).takeWhile (· != '/') =
      uriEncode bucket.toList true := by
  have hbucket : ∀ c ∈ uriEncode bucket.toList true, (c != '/') = true := by
    intro c hc
    have hchar := of_isUriChar (isUriChar_of_mem_uriEncode_true hc)
    exact bne_iff_ne.2 hchar.2.2.2.2.2.2
  cases key with
  | none => rw [keyPart, List.append_nil, List.takeWhile_eq_self_iff.2 hbucket]
  | some key => exact takeWhile_append_stop hbucket rfl

theorem keyPart_injective {key other : Option String} (heq : keyPart key = keyPart other) :
    key = other := by
  cases key with
  | none =>
      cases other with
      | none => rfl
      | some other => cases heq
  | some key =>
      cases other with
      | none => cases heq
      | some other =>
          have hkey := uriEncode_injective (List.cons.inj heq).2
          rw [String.toList_inj.1 hkey]

/-- One path is that of one bucket and one key. The path of a bucket is the path of none of
its objects, not even of the one with the empty key. -/
theorem objectPath_eq_iff {bucket other : String} {key otherKey : Option String} :
    objectPath bucket key = objectPath other otherKey ↔ bucket = other ∧ key = otherKey := by
  constructor
  · intro heq
    have hrest : uriEncode bucket.toList true ++ keyPart key =
        uriEncode other.toList true ++ keyPart otherKey := (List.cons.inj heq).2
    have hbucket := congrArg (List.takeWhile (· != '/')) hrest
    rw [takeWhile_objectPath, takeWhile_objectPath] at hbucket
    rw [hbucket] at hrest
    exact ⟨String.toList_inj.1 (uriEncode_injective hbucket),
      keyPart_injective (List.append_cancel_left hrest)⟩
  · rintro ⟨rfl, rfl⟩
    rfl

/-- An escaped text is read back as what was escaped, whether slashes are escaped or kept,
and it is the one text of its form that stands for these bytes. A path tells its bucket
and its key, and whether it has one. -/
theorem escapes_and_paths_lose_nothing :
    (∀ (cs : List Char) (encodeSlash : Bool),
      decode? (unescape (uriEncode cs encodeSlash)) = some cs ∧
      ∀ text, text = uriEncode cs encodeSlash ↔
        IsUriText encodeSlash text ∧ unescape text = encode cs) ∧
    ∀ (bucket other : String) (key otherKey : Option String),
      objectPath bucket key = objectPath other otherKey ↔ bucket = other ∧ key = otherKey := by
  refine ⟨fun cs encodeSlash => ⟨?_, fun text => eq_uriEncode_iff⟩,
    fun bucket other key otherKey => objectPath_eq_iff⟩
  rw [unescape_uriEncode, decode?_encode]

/-- Slashes, percent signs and letters outside ASCII stay apart in bucket and key. -/
example : objectPath "a/b" (some "50%/é") = "/a%2Fb/50%25/%C3%A9".toList := by decide +kernel

end SignedAccess
