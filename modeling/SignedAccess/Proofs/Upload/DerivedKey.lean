/-
# Keys that are made from file names

Behind its front a derived key holds nothing but letters, digits, points, hyphens and
underscores, and more of them than a dot segment has. So it is as safe as its front is, in
which the last segment is still open. The identifier has one length for all random bytes and
loses only the six bits that it fixes, so two keys of one front tell their bytes apart, and
then their names.
-/

import SignedAccess.Upload.ObjectKey
import SignedAccess.Proofs.Upload.ObjectPath

namespace SignedAccess

open Text

/-! ### The identifier -/

/-- The bytes without the six bits that an identifier fixes. -/
def freeBits (bytes : List UInt8) : List UInt8 :=
  bytes.mapIdx fun i b => if i = 6 then b &&& 0x0f else if i = 8 then b &&& 0x3f else b

/-- A random identifier in writing: 36 characters in groups of 8, 4, 4, 4 and 12 small
hexadecimal digits, the version at the start of the third group and the variant at that of the
fourth. -/
structure IsIdentifier (text : List Char) : Prop where
  length : text.length = 36
  groups : (fields (· == '-') text).map List.length = [8, 4, 4, 4, 12]
  digits : ∀ c ∈ text, c = '-' ∨ c ∈ "0123456789abcdef".toList
  version : text[14]? = some '4'
  variant : ∃ c ∈ ['8', '9', 'a', 'b'], text[19]? = some c

namespace RandomBytes

variable (random : RandomBytes)

@[simp]
theorem length_marked : random.marked.length = 16 := by
  rw [marked, List.length_mapIdx, random.length_eq]

theorem marked_eq : random.marked = (freeBits random.bytes).mapIdx fun i b =>
    if i = 6 then b ||| 0x40 else if i = 8 then b ||| 0x80 else b := by
  rw [freeBits, List.mapIdx_mapIdx, marked]
  refine congrArg (List.mapIdx · random.bytes) (funext fun i => funext fun b => ?_)
  simp only [Function.comp_apply]
  split
  · rfl
  · split <;> rfl

/-- The marks stand where the cleared bits were. -/
theorem freeBits_marked : freeBits random.marked = freeBits random.bytes := by
  have hversion : ∀ b : UInt8, ((b &&& 0x0f) ||| 0x40) &&& 0x0f = b &&& 0x0f :=
    forall_byte (by decide +kernel)
  have hvariant : ∀ b : UInt8, ((b &&& 0x3f) ||| 0x80) &&& 0x3f = b &&& 0x3f :=
    forall_byte (by decide +kernel)
  rw [freeBits, marked, List.mapIdx_mapIdx, freeBits]
  refine congrArg (List.mapIdx · random.bytes) (funext fun i => funext fun b => ?_)
  simp only [Function.comp_apply]
  split
  · exact hversion b
  · split
    · exact hvariant b
    · rfl

/-- The digits of the marked bytes. -/
def digits : List Char := toHex random.marked

theorem length_digits : random.digits.length = 32 := by
  rw [digits, length_toHex, length_marked]

theorem ne_hyphen_of_mem_digits : ∀ c ∈ random.digits, (c == '-') = false :=
  forall_mem_toHex (by decide)

/-- The digits between the hyphens. -/
def groups : List (List Char) :=
  [random.digits.take 8, (random.digits.drop 8).take 4, (random.digits.drop 12).take 4,
    (random.digits.drop 16).take 4, random.digits.drop 20]

theorem identifier_eq : random.identifier = ['-'].intercalate random.groups := by
  have hlast : (random.digits.drop 20).take 12 = random.digits.drop 20 :=
    List.take_of_length_le (by rw [List.length_drop, length_digits])
  rw [groups, ← hlast]
  rfl

/-- Without its hyphens an identifier is its digits. -/
theorem flatten_groups : random.groups.flatten = random.digits := by
  have hjoin : ∀ n k : Nat, (random.digits.drop n).take k ++ random.digits.drop (n + k) =
      random.digits.drop n := by
    intro n k
    rw [← List.drop_drop, List.take_append_drop]
  simp only [groups, List.flatten_cons, List.flatten_nil, List.append_nil, hjoin 16 4, hjoin 12 4,
    hjoin 8 4, List.take_append_drop]

theorem fields_identifier : fields (· == '-') random.identifier = random.groups := by
  rw [identifier_eq]
  refine fields_intercalate (List.cons_ne_nil _ _) rfl fun group hgroup c hc => ?_
  exact random.ne_hyphen_of_mem_digits c
    (random.flatten_groups ▸ List.mem_flatten_of_mem hgroup hc)

theorem mem_identifier {c : Char} (hc : c ∈ random.identifier) :
    c = '-' ∨ c ∈ random.digits := by
  rw [identifier_eq] at hc
  rcases mem_intercalate hc with rfl | ⟨group, hgroup, hin⟩
  · exact Or.inl rfl
  · exact Or.inr (random.flatten_groups ▸ List.mem_flatten_of_mem hgroup hin)

theorem identifier_eq_append : random.identifier = random.digits.take 8 ++
    '-' :: ((random.digits.drop 8).take 4 ++ '-' :: ((random.digits.drop 12).take 4 ++
      '-' :: ((random.digits.drop 16).take 4 ++ '-' :: random.digits.drop 20))) := by
  rw [identifier_eq]
  simp only [groups, List.intercalate_cons_cons, List.intercalate_singleton, List.append_assoc,
    List.singleton_append]

/-- The high digit of the seventh byte is the version. -/
theorem version_identifier : random.identifier[14]? = some '4' := by
  have hsix : 6 < random.bytes.length := by rw [random.length_eq]; decide
  have hbyte : random.marked[6]? = some ((random.bytes[6] &&& 0x0f) ||| 0x40) := by
    simp [marked, hsix]
  have hfour : ∀ b : UInt8, hexDigit (((b &&& 0x0f) ||| 0x40).toNat / 16) = '4' :=
    forall_byte (by decide +kernel)
  have hdigit : random.digits[12]? = some '4' := (getElem?_toHex hbyte).trans (by rw [hfour])
  rw [identifier_eq_append, ← hdigit]
  simp [random.length_digits]

/-- The high digit of the ninth byte is the variant. -/
theorem variant_identifier : ∃ c ∈ ['8', '9', 'a', 'b'], random.identifier[19]? = some c := by
  have height : 8 < random.bytes.length := by rw [random.length_eq]; decide
  have hbyte : random.marked[8]? = some ((random.bytes[8] &&& 0x3f) ||| 0x80) := by
    simp [marked, height]
  have hvariant : ∀ b : UInt8, hexDigit (((b &&& 0x3f) ||| 0x80).toNat / 16) ∈
      ['8', '9', 'a', 'b'] := forall_byte (by decide +kernel)
  refine ⟨_, hvariant random.bytes[8], ?_⟩
  have hdigit := getElem?_toHex hbyte
  rw [← digits] at hdigit
  rw [identifier_eq_append, ← hdigit]
  simp [random.length_digits]

theorem isIdentifier : IsIdentifier random.identifier where
  length := by
    rw [identifier_eq_append]
    simp [random.length_digits]
  groups := by
    rw [fields_identifier]
    simp [groups, random.length_digits]
  digits := fun c hc => (random.mem_identifier hc).imp_right (forall_mem_toHex (by decide) c)
  version := random.version_identifier
  variant := random.variant_identifier

/-- The marked bytes are read back from an identifier. -/
theorem ofHex?_identifier :
    ofHex? (fields (· == '-') random.identifier).flatten = some random.marked := by
  rw [fields_identifier, flatten_groups, digits, ofHex?_toHex]

/-- Two identifiers are equal exactly when the bytes are that they were made of, the fixed bits
apart. -/
theorem identifier_eq_iff {other : RandomBytes} :
    random.identifier = other.identifier ↔ freeBits random.bytes = freeBits other.bytes := by
  constructor
  · intro hsame
    have hmarked := random.ofHex?_identifier
    rw [hsame, other.ofHex?_identifier] at hmarked
    rw [← freeBits_marked, ← Option.some.inj hmarked, freeBits_marked]
  · intro hfree
    have hmarked : random.marked = other.marked := by rw [marked_eq, hfree, ← marked_eq]
    rw [identifier, hmarked, ← identifier]

end RandomBytes

/-! ### The name -/

/-- A file name that a key can end with: letters, digits, points, hyphens and underscores, and
no point at the start. -/
structure IsKeyName (name : List Char) : Prop where
  some_char : name ≠ []
  chars : ∀ c ∈ name, isKeyChar c = true
  no_dot : name.head? ≠ some '.'

theorem of_isKeyChar {c : Char} (hc : isKeyChar c = true) :
    c ≠ '/' ∧ c ≠ '\\' ∧ isControl c = false ∧ isBlank c = false := by
  have hchar : isUriChar c = true := by
    simp only [isKeyChar, Bool.or_eq_true] at hc
    simp only [isUriChar, Bool.or_eq_true]
    tauto
  refine forall_ascii (p := fun d => isKeyChar d = true →
    d ≠ '/' ∧ d ≠ '\\' ∧ isControl d = false ∧ isBlank d = false) ?_
    (toNat_lt_of_isUriChar hchar) hc
  decide

/-- Only what follows the last slash or backslash counts. -/
theorem safeName_append {mark : Char} (hmark : mark = '/' ∨ mark = '\\')
    (dir base : List Char) : safeName (dir ++ mark :: base) = safeName base := by
  have hbase : baseName (dir ++ mark :: base) = baseName base := by
    have hstop : (mark :: dir.reverse).takeWhile (fun c => c != '/' && c != '\\') = [] := by
      rcases hmark with rfl | rfl <;> rfl
    rw [baseName, List.reverse_append, List.reverse_cons, List.append_assoc, List.singleton_append,
      List.takeWhile_append, hstop, List.append_nil]
    split
    · rename_i hlength
      rw [← (List.takeWhile_prefix _).eq_of_length hlength]
      rfl
    · rfl
  rw [safeName, hbase, ← safeName]

/-- What is left of a file name is a name that a key can end with. -/
theorem isKeyName_safeName {filename : List Char} (hne : safeName filename ≠ []) :
    IsKeyName (safeName filename) where
  some_char := hne
  chars := by
    intro c hc
    obtain ⟨d, -, rfl⟩ := List.mem_map.1 ((List.dropWhile_sublist _).subset hc)
    cases hd : isKeyChar d with
    | true => rw [if_pos rfl, hd]
    | false =>
        rw [if_neg Bool.false_ne_true]
        decide
  no_dot := by
    intro hdot
    have hhead := List.head?_dropWhile_not (· == '.')
      ((trim (baseName filename)).map fun c => if isKeyChar c then c else '_')
    rw [← safeName, hdot] at hhead
    cases hhead

/-- Nothing is taken from a name that a key can end with. -/
theorem safeName_eq_self {name : List Char} (hname : IsKeyName name) : safeName name = name := by
  have hchars := fun c hc => of_isKeyChar (hname.chars c hc)
  have hbase : baseName name = name := by
    rw [baseName, List.takeWhile_eq_self_iff.2, List.reverse_reverse]
    intro c hc
    obtain ⟨hslash, hback, -⟩ := hchars c (List.mem_reverse.1 hc)
    simp [hslash, hback]
  have htrim : trim name = name := dropEnds_eq_self fun c hc => (hchars c hc).2.2.2
  have hkept : name.map (fun c => if isKeyChar c then c else '_') = name :=
    (List.map_congr_left fun c hc => if_pos (hname.chars c hc)).trans (List.map_id' name)
  obtain ⟨first, more, rfl⟩ := List.exists_cons_of_ne_nil hname.some_char
  rw [safeName, hbase, htrim, hkept, List.dropWhile_cons_of_neg]
  simpa using hname.no_dot

/-! ### The key -/

/-- What follows the identifier in a key: a hyphen and the name, or nothing. -/
def nameTail (filename : List Char) : List Char :=
  if (safeName filename).isEmpty then [] else '-' :: safeName filename

theorem nameTail_eq (filename : List Char) :
    nameTail filename = [] ∨ ∃ name, nameTail filename = '-' :: name ∧ IsKeyName name := by
  unfold nameTail
  cases hempty : (safeName filename).isEmpty with
  | true => exact Or.inl rfl
  | false => exact Or.inr ⟨_, rfl, isKeyName_safeName (List.isEmpty_eq_false_iff.1 hempty)⟩

theorem nameTail_of_isKeyName {name : List Char} (hname : IsKeyName name) :
    nameTail name = '-' :: name := by
  rw [nameTail, safeName_eq_self hname, List.isEmpty_eq_false_iff.2 hname.some_char]
  rfl

theorem nameTail_append {mark : Char} (hmark : mark = '/' ∨ mark = '\\') (dir base : List Char) :
    nameTail (dir ++ mark :: base) = nameTail base := by
  rw [nameTail, safeName_append hmark, ← nameTail]

theorem toList_deriveKey (front filename : String) (random : RandomBytes) :
    (deriveKey front filename random).toList =
      front.toList ++ (random.identifier ++ nameTail filename.toList) := by
  rw [deriveKey, String.toList_ofList, List.append_assoc]
  rfl

/-- Behind its front a derived key holds nothing that a check of keys looks for. -/
theorem isKeyChar_of_mem_body {random : RandomBytes} {filename : List Char} {c : Char}
    (hc : c ∈ random.identifier ++ nameTail filename) : isKeyChar c = true := by
  have hdigits : ∀ d ∈ random.digits, isKeyChar d = true := forall_mem_toHex (by decide)
  rcases List.mem_append.1 hc with hin | hin
  · rcases random.mem_identifier hin with rfl | hdigit
    · decide
    · exact hdigits c hdigit
  · rcases nameTail_eq filename with hnone | ⟨name, htail, hname⟩
    · rw [hnone] at hin
      cases hin
    · rw [htail] at hin
      rcases List.mem_cons.1 hin with rfl | hin
      · decide
      · exact hname.chars c hin

/-- A front that is safe with one more character stays safe with more of them, as long as they
open no segment and are too many for a dot segment. -/
theorem isUnsafe_append {front body : List Char} {letter : Char}
    (hfront : isUnsafe (front ++ [letter]) = false) (hbody : ∀ c ∈ body, isKeyChar c = true)
    (hlong : 2 < body.length) : isUnsafe (front ++ body) = false := by
  obtain ⟨hhead, hparts, hchars⟩ := isUnsafe_eq_false_iff.1 hfront
  refine isUnsafe_eq_false_iff.2 ⟨?_, ?_, ?_⟩
  · cases front with
    | nil =>
        intro hslash
        exact (of_isKeyChar (hbody '/' (List.mem_of_mem_head? hslash))).1 rfl
    | cons first more => exact hhead
  · have hne := fields_ne_nil (· == '/') front
    have hopen : ∀ c ∈ (fields (· == '/') front).getLast hne ++ body, (c == '/') = false := by
      intro c hc
      rcases List.mem_append.1 hc with hin | hin
      · have hclosed := isMark_eq_false_of_mem_fields (List.getLast_mem hne) hin
        exact hclosed
      · exact beq_false_of_ne (of_isKeyChar (hbody c hin)).1
    rw [fields_append] at hparts
    rw [fields_append, fields_of_none hopen]
    intro part hpart
    rcases List.mem_append.1 hpart with hclosed | hlast
    · exact hparts part (List.mem_append_left _ hclosed)
    · -- the last segment of the front is the only one that goes on
      rw [List.mem_singleton.1 hlast]
      constructor <;>
        · intro hdots
          have hlength := congrArg List.length hdots
          simp only [List.length_append, List.length_cons, List.length_nil] at hlength
          omega
  · intro c hc
    rcases List.mem_append.1 hc with hin | hin
    · exact hchars c (List.mem_append_left _ hin)
    · obtain ⟨-, hback, hcontrol, -⟩ := of_isKeyChar (hbody c hin)
      exact ⟨hcontrol, hback⟩

/-- A safe key can only be too long. -/
theorem checkKey_of_not_isUnsafe {key : String} (hne : key.toList ≠ [])
    (hsafe : isUnsafe key.toList = false) :
    checkKey key = if longestKey < (bytes key).length then .error .keyTooLong else .ok () := by
  have hempty : key.isEmpty = false := by
    rw [Bool.eq_false_iff]
    intro hempty
    exact hne (by rw [String.isEmpty_iff.1 hempty]; rfl)
  rw [checkKey, hempty, hsafe]
  simp only [Bool.false_eq_true, if_false]

/-- A derived key is as safe as its front, in which a segment may be open. -/
theorem checkKey_deriveKey {front : String} {letter : Char}
    (hfront : checkKey (front.push letter) = .ok ()) (filename : String) (random : RandomBytes) :
    let key := deriveKey front filename random
    checkKey key = if longestKey < (bytes key).length then .error .keyTooLong else .ok () := by
  intro key
  have hkey : key.toList = front.toList ++ (random.identifier ++ nameTail filename.toList) :=
    toList_deriveKey front filename random
  have hsafe := isUnsafe_of_checkKey hfront
  rw [String.toList_push] at hsafe
  have hlong : 2 < (random.identifier ++ nameTail filename.toList).length := by
    rw [List.length_append, random.isIdentifier.length]
    omega
  have hbody := isUnsafe_append hsafe (fun c hc => isKeyChar_of_mem_body hc) hlong
  rw [← hkey] at hbody
  refine checkKey_of_not_isUnsafe (fun hnil => ?_) hbody
  rw [hkey, List.append_eq_nil_iff] at hnil
  rw [hnil.2] at hlong
  exact absurd hlong (by decide)

/-- Keys with one front are told apart by their bytes, and by their names where the bytes are
the same. -/
theorem deriveKey_eq_iff {front filename other : String} {random another : RandomBytes} :
    deriveKey front filename random = deriveKey front other another ↔
      freeBits random.bytes = freeBits another.bytes ∧
        nameTail filename.toList = nameTail other.toList := by
  have hlength : random.identifier.length = another.identifier.length :=
    random.isIdentifier.length.trans another.isIdentifier.length.symm
  rw [← String.toList_inj, toList_deriveKey, toList_deriveKey, List.append_cancel_left_eq,
    ← random.identifier_eq_iff]
  constructor
  · exact fun hsame => List.append_inj hsame hlength
  · rintro ⟨hidentifier, htail⟩
    rw [hidentifier, htail]

/-- Derived keys are safe, unique and faithful. A key is its front, a random identifier that
holds all bits of the random bytes but the six it fixes, and a tail: nothing, or a hyphen and a
name that a key can end with. Such a name is kept as it is, and of any other file name only what
follows the last slash or backslash counts. If the front is safe with one more character, the
key passes the check unless it is too long. Two keys with one front are equal exactly when
their bytes are, the fixed bits apart, and their tails. -/
theorem derived_key_is_safe_and_unique (front filename : String) (random : RandomBytes) :
    let key := deriveKey front filename random
    let tail := nameTail filename.toList
    key.toList = front.toList ++ (random.identifier ++ tail) ∧
    IsIdentifier random.identifier ∧
    (∃ bs, ofHex? (fields (· == '-') random.identifier).flatten = some bs ∧
      freeBits bs = freeBits random.bytes) ∧
    (tail = [] ∨ ∃ name, tail = '-' :: name ∧ IsKeyName name) ∧
    (IsKeyName filename.toList → tail = '-' :: filename.toList) ∧
    (∀ dir base mark, mark = '/' ∨ mark = '\\' → filename.toList = dir ++ mark :: base →
      tail = nameTail base) ∧
    (∀ letter, checkKey (front.push letter) = .ok () → checkKey key =
      if longestKey < (bytes key).length then .error .keyTooLong else .ok ()) ∧
    ∀ (other : String) (another : RandomBytes),
      key = deriveKey front other another ↔
        freeBits random.bytes = freeBits another.bytes ∧ tail = nameTail other.toList := by
  intro key tail
  refine ⟨toList_deriveKey front filename random, random.isIdentifier,
    ⟨_, random.ofHex?_identifier, random.freeBits_marked⟩, nameTail_eq _, nameTail_of_isKeyName,
    ?_, fun letter hletter => checkKey_deriveKey hletter filename random,
    fun other another => deriveKey_eq_iff⟩
  intro dir base mark hmark hfilename
  have htail : tail = nameTail filename.toList := rfl
  rw [htail, hfilename, nameTail_append hmark]

/-- The point at the end of the front and those of the file name make no dot segment, and the
blanks and brackets of the name are replaced. -/
theorem derived_key_is_safe_and_unique_behind_point :
    let random : RandomBytes := ⟨List.replicate 16 0xff, List.length_replicate⟩
    let other : RandomBytes := ⟨List.replicate 16 0xfe, List.length_replicate⟩
    let key := deriveKey "uploads/." "C:\\docs\\..Crane spec (v2).pdf" random
    key = "uploads/.ffffffff-ffff-4fff-bfff-ffffffffffff-Crane_spec__v2_.pdf" ∧
      checkKey key = .ok () ∧
      ∀ name, key ≠ deriveKey "uploads/." name other := by
  intro random other key
  have hfront : checkKey ("uploads/.".push 'a') = .ok () := by decide +kernel
  have hshort : (bytes key).length ≤ longestKey := by decide +kernel
  have hbits : freeBits random.bytes ≠ freeBits other.bytes := by decide +kernel
  obtain ⟨-, -, -, -, -, -, hcheck, hunique⟩ :=
    derived_key_is_safe_and_unique "uploads/." "C:\\docs\\..Crane spec (v2).pdf" random
  refine ⟨by decide +kernel, (hcheck 'a' hfront).trans (if_neg (Nat.not_lt.2 hshort)), ?_⟩
  intro name hsame
  exact hbits ((hunique name other).1 hsame).1

end SignedAccess
