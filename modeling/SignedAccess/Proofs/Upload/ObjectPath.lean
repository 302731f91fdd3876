/-
# The path of an object

The escaped path of a bucket and a key is a list of segments, one for the bucket
and one for every part of the key between slashes. Escaping hides no dot segment
and makes none, so a segment that the policy lets through is one that reading an
address leaves alone.
-/

import SignedAccess.Upload.Policy
import SignedAccess.Upload.Signature
import SignedAccess.Proofs.Address.Reread

namespace SignedAccess

open Text

/-! ### Escaped characters inside an address -/

theorem toNat_lt_of_isUriChar {c : Char} (hc : isUriChar c = true) : c.toNat < 0x80 := by
  simp only [isUriChar, Bool.or_eq_true, beq_iff_eq] at hc
  rcases hc with ((((halnum | rfl) | rfl) | rfl) | rfl) | rfl
  · -- Letters and digits are told by their bounds.
    have hbounds : ((c.isUpper || c.isLower) || c.isDigit) = true := halnum
    simp only [Bool.or_eq_true] at hbounds
    rcases hbounds with (hupper | hlower) | hdigit
    · have hhigh : c.val ≤ 'Z'.val := (of_decide_eq_true hupper).2
      exact Nat.lt_of_le_of_lt (UInt32.le_iff_toNat_le.1 hhigh) (by decide)
    · have hhigh : c.val ≤ 'z'.val := of_decide_eq_true (Bool.and_eq_true_iff.1 hlower).2
      exact Nat.lt_of_le_of_lt (UInt32.le_iff_toNat_le.1 hhigh) (by decide)
    · have hdigits := toNat_of_isDigit hdigit
      omega
  all_goals decide

/-- An escaped character stays as it is in a path and in a query and separates
nothing there. -/
theorem of_isUriChar {c : Char} (hc : isUriChar c = true) :
    Address.inPath (UInt8.ofNat c.toNat) = true ∧ Address.isSlash true c = false ∧
      Address.inSpecialQuery (UInt8.ofNat c.toNat) = true ∧ c ≠ '#' ∧ c ≠ '&' ∧ c ≠ '=' ∧
      c ≠ '/' := by
  refine forall_ascii (p := fun d => isUriChar d = true →
    Address.inPath (UInt8.ofNat d.toNat) = true ∧ Address.isSlash true d = false ∧
      Address.inSpecialQuery (UInt8.ofNat d.toNat) = true ∧ d ≠ '#' ∧ d ≠ '&' ∧ d ≠ '=' ∧
      d ≠ '/') ?_ (toNat_lt_of_isUriChar hc) hc
  decide

theorem isUriChar_of_mem_uriEncode_true {cs : List Char} {c : Char}
    (hc : c ∈ uriEncode cs true) : isUriChar c = true := by
  rcases isUriChar_of_mem_uriEncode hc with hchar | ⟨_, hslash⟩
  · exact hchar
  · cases hslash

/-! ### Dot segments -/

theorem toNat_lt_of_toLower {c : Char} (hc : c.toLower.toNat < 0x80) : c.toNat < 0x80 := by
  by_contra hhigh
  rw [Domain.toLower_of_isSmall (Domain.isSmall_of_outside (Nat.le_of_not_lt hhigh))] at hc
  exact hhigh hc

/-- The marks of an escaped dot have no capital letters but `E`. -/
theorem eq_of_toLower {c : Char} :
    (c.toLower = '.' → c = '.') ∧ (c.toLower = '%' → c = '%') ∧ (c.toLower = '2' → c = '2') ∧
      (c.toLower = 'e' → hexValue? c = some 14) := by
  by_cases hascii : c.toNat < 0x80
  · refine forall_ascii (p := fun d => (d.toLower = '.' → d = '.') ∧ (d.toLower = '%' → d = '%') ∧
      (d.toLower = '2' → d = '2') ∧ (d.toLower = 'e' → hexValue? d = some 14)) ?_ hascii
    decide
  · have hnot : ∀ d : Char, d.toNat < 0x80 → c.toLower ≠ d := by
      rintro d hd rfl
      exact hascii (toNat_lt_of_toLower hd)
    exact ⟨fun h => absurd h (hnot '.' (by decide)), fun h => absurd h (hnot '%' (by decide)),
      fun h => absurd h (hnot '2' (by decide)), fun h => absurd h (hnot 'e' (by decide))⟩

/-- What is read as a dot stands for a dot. -/
theorem unescape_dot_append {dot : List Char} (hdot : Address.isSingleDot dot = true)
    (rest : List Char) : unescape (dot ++ rest) = 0x2E :: unescape rest := by
  simp only [Address.isSingleDot, Bool.or_eq_true, beq_iff_eq] at hdot
  rcases hdot with hplain | hescaped
  · obtain ⟨c, tail, rfl, hc, htail⟩ := List.map_eq_cons_iff.1 hplain
    obtain rfl := List.map_eq_nil_iff.1 htail
    obtain rfl := eq_of_toLower.1 hc
    rw [List.singleton_append, unescape_cons_of_ne rest (by decide)]
    rfl
  · obtain ⟨a, tail, rfl, ha, htail⟩ := List.map_eq_cons_iff.1 hescaped
    obtain ⟨b, tail, rfl, hb, htail⟩ := List.map_eq_cons_iff.1 htail
    obtain ⟨c, tail, rfl, hc, htail⟩ := List.map_eq_cons_iff.1 htail
    obtain rfl := List.map_eq_nil_iff.1 htail
    obtain rfl := eq_of_toLower.2.1 ha
    obtain rfl := eq_of_toLower.2.2.1 hb
    have htwo : hexValue? '2' = some 2 := by decide
    simp only [List.cons_append, List.nil_append]
    rw [unescape, htwo, eq_of_toLower.2.2.2 hc]
    rfl

theorem unescape_of_isSingleDot {segment : List Char} (h : Address.isSingleDot segment = true) :
    unescape segment = encode ['.'] := by
  have hdot := unescape_dot_append h []
  rw [List.append_nil, unescape_nil] at hdot
  exact hdot

/-- What is read as two dots stands for two dots. -/
theorem unescape_of_isDoubleDot {segment : List Char} (h : Address.isDoubleDot segment = true) :
    unescape segment = encode ['.', '.'] := by
  have hsplit : ∃ first second, lower segment = first ++ second ∧
      (first = ['.'] ∨ first = ['%', '2', 'e']) ∧ (second = ['.'] ∨ second = ['%', '2', 'e']) := by
    simp only [Address.isDoubleDot, Bool.or_eq_true, beq_iff_eq] at h
    rcases h with ((h | h) | h) | h
    · exact ⟨['.'], ['.'], h, Or.inl rfl, Or.inl rfl⟩
    · exact ⟨['.'], ['%', '2', 'e'], h, Or.inl rfl, Or.inr rfl⟩
    · exact ⟨['%', '2', 'e'], ['.'], h, Or.inr rfl, Or.inl rfl⟩
    · exact ⟨['%', '2', 'e'], ['%', '2', 'e'], h, Or.inr rfl, Or.inr rfl⟩
  obtain ⟨first, second, hlower, hfirst, hsecond⟩ := hsplit
  obtain ⟨front, back, rfl, hfront, hback⟩ := List.map_eq_append_iff.1 hlower
  have hdot : ∀ {piece dots : List Char}, piece.map Char.toLower = dots →
      (dots = ['.'] ∨ dots = ['%', '2', 'e']) → Address.isSingleDot piece = true := by
    intro piece dots hpiece hdots
    simp only [Address.isSingleDot, Bool.or_eq_true, beq_iff_eq]
    rw [← hpiece] at hdots
    exact hdots
  have hrest := unescape_of_isSingleDot (hdot hback hsecond)
  rw [unescape_dot_append (hdot hfront hfirst), hrest]
  rfl

/-- An escaped text is a plain segment unless the text is one or two dots. -/
theorem keepsSegment_uriEncode {cs : List Char} (hone : cs ≠ ['.']) (htwo : cs ≠ ['.', '.']) :
    Address.KeepsSegment (uriEncode cs true) where
  chars := by
    intro c hc
    have hchar := isUriChar_of_mem_uriEncode_true hc
    exact ⟨toNat_lt_of_isUriChar hchar, (of_isUriChar hchar).1, (of_isUriChar hchar).2.1⟩
  single := by
    cases hdot : Address.isSingleDot (uriEncode cs true) with
    | false => rfl
    | true =>
        have hbytes := unescape_of_isSingleDot hdot
        rw [unescape_uriEncode] at hbytes
        exact absurd (encode_injective hbytes) hone
  double := by
    cases hdot : Address.isDoubleDot (uriEncode cs true) with
    | false => rfl
    | true =>
        have hbytes := unescape_of_isDoubleDot hdot
        rw [unescape_uriEncode] at hbytes
        exact absurd (encode_injective hbytes) htwo

/-! ### Segments -/

/-- The escaped segments of a key. -/
def keySegments (key : String) : List (List Char) :=
  (fields (· == '/') key.toList).map fun part => uriEncode part true

/-- The escaped segments of an object, or of its bucket when there is no key. -/
def objectSegments (bucket : String) (key : Option String) : List (List Char) :=
  uriEncode bucket.toList true :: (key.map keySegments).getD []

/-- A part without slashes is escaped in the same way whether slashes are kept or
not. -/
theorem uriEncode_of_no_slash {part : List Char} (hpart : ∀ c ∈ part, c ≠ '/') :
    uriEncode part false = uriEncode part true := by
  have hbytes : ∀ b ∈ encode part, b ≠ 0x2F := by
    intro b hb
    obtain ⟨c, hc, hin⟩ := List.mem_flatMap.1 hb
    by_cases hascii : c.toNat < 0x80
    · rw [utf8EncodeChar_of_lt hascii, List.mem_singleton] at hin
      rintro rfl
      have hslash : c.toNat = 0x2F := by
        have hnat := congrArg UInt8.toNat hin
        rw [toNat_byte_of_ascii hascii] at hnat
        exact hnat.symm
      exact hpart c hc (Char.toNat_inj.1 hslash)
    · have hhigh := le_toNat_of_mem_utf8EncodeChar (Nat.le_of_not_lt hascii) hin
      rintro rfl
      exact absurd hhigh (by decide)
  unfold uriEncode escape escapeBytes
  apply List.flatMap_congr
  intro b hb
  simp [hbytes b hb]

theorem uriEncode_intercalate (parts : List (List Char))
    (hparts : ∀ part ∈ parts, ∀ c ∈ part, c ≠ '/') :
    uriEncode (['/'].intercalate parts) false =
      ['/'].intercalate (parts.map fun part => uriEncode part true) := by
  induction parts with
  | nil => rfl
  | cons first more ih =>
      have hfirst := uriEncode_of_no_slash (hparts first List.mem_cons_self)
      have hmore := ih fun part hpart => hparts part (List.mem_cons_of_mem first hpart)
      cases more with
      | nil => simpa using hfirst
      | cons second others =>
          have hslash : uriEncode ['/'] false = ['/'] := rfl
          rw [List.intercalate_cons_cons, uriEncode_append, uriEncode_append, hfirst, hslash,
            hmore, List.map_cons, List.map_cons, List.map_cons, List.intercalate_cons_cons]

/-- The path of an object is its segments with a slash before each. -/
theorem objectPath_eq (bucket : String) (key : Option String) :
    objectPath bucket key = Address.pathText (objectSegments bucket key) := by
  cases key with
  | none => simp [objectPath, objectSegments, Address.pathText]
  | some key =>
      have hparts : ∀ part ∈ fields (· == '/') key.toList, ∀ c ∈ part, c ≠ '/' := by
        intro part hpart c hc
        simpa using isMark_eq_false_of_mem_fields hpart hc
      have hkey : '/' :: uriEncode key.toList false = Address.pathText (keySegments key) := by
        have hne : keySegments key ≠ [] := by
          simpa [keySegments] using fields_ne_nil (· == '/') key.toList
        rw [Address.pathText_eq hne]
        unfold keySegments
        rw [← uriEncode_intercalate _ hparts, intercalate_fields]
      have hcons : Address.pathText (objectSegments bucket (some key)) =
          '/' :: uriEncode bucket.toList true ++ Address.pathText (keySegments key) := rfl
      rw [hcons, ← hkey]
      rfl

theorem mem_objectPath {bucket : String} {key : Option String} {c : Char}
    (hc : c ∈ objectPath bucket key) : c = '/' ∨ isUriChar c = true := by
  rw [objectPath_eq] at hc
  obtain ⟨segment, hsegment, hin⟩ := List.mem_flatMap.1 hc
  rcases List.mem_cons.1 hin with hslash | hin
  · exact Or.inl hslash
  · have hescaped : ∃ cs, segment = uriEncode cs true := by
      rcases List.mem_cons.1 hsegment with rfl | hkey
      · exact ⟨_, rfl⟩
      · cases key with
        | none => cases hkey
        | some key =>
            obtain ⟨part, -, rfl⟩ := List.mem_map.1 hkey
            exact ⟨part, rfl⟩
    obtain ⟨cs, rfl⟩ := hescaped
    exact Or.inr (isUriChar_of_mem_uriEncode_true hin)

/-! ### What the policy lets through -/

namespace GrantPolicy

/-- A request passes exactly when every part of it passes. -/
theorem check_eq_ok_iff {policy : GrantPolicy} {request : UploadRequest} :
    policy.check request = .ok () ↔
      checkBucket request.bucket = .ok () ∧ policy.checkKeyAllowed request.key = .ok () ∧
        checkContentType request.contentType = .ok () ∧
        policy.checkExpiry request.expires = .ok () := by
  simp only [check, unit_bind_eq_ok]

/-- A key is given away exactly when it passes by itself and begins with no reserved
front. -/
theorem checkKeyAllowed_eq_ok_iff {policy : GrantPolicy} {key : String} :
    policy.checkKeyAllowed key = .ok () ↔
      checkKey key = .ok () ∧ policy.reservedFront? key = none := by
  cases hfront : policy.reservedFront? key <;>
    simp [checkKeyAllowed, unit_bind_eq_ok, hfront]

end GrantPolicy

theorem checkBucket_eq_ok_iff {name : String} :
    checkBucket name = .ok () ↔ brokenRule? name.toList = none := by
  unfold checkBucket
  cases brokenRule? name.toList <;> simp

theorem isUnsafe_of_checkKey {key : String} (hkey : checkKey key = .ok ()) :
    isUnsafe key.toList = false := by
  unfold checkKey at hkey
  split at hkey
  · cases hkey
  · split at hkey
    · cases hkey
    · split at hkey
      · cases hkey
      · rename_i hsafe
        simpa using hsafe

/-- A request that passes has a bucket that breaks no rule and a safe key. -/
theorem of_check {policy : GrantPolicy} {request : UploadRequest}
    (hcheck : policy.check request = .ok ()) :
    brokenRule? request.bucket.toList = none ∧ isUnsafe request.key.toList = false := by
  obtain ⟨hbucket, hallowed, -, -⟩ := GrantPolicy.check_eq_ok_iff.1 hcheck
  obtain ⟨hkey, -⟩ := GrantPolicy.checkKeyAllowed_eq_ok_iff.1 hallowed
  exact ⟨checkBucket_eq_ok_iff.1 hbucket, isUnsafe_of_checkKey hkey⟩

/-- A permitted request holds for at least one second and for no longer than the policy
allows. -/
theorem expires_of_check {policy : GrantPolicy} {request : UploadRequest}
    (hcheck : policy.check request = .ok ()) :
    1 ≤ request.expires ∧ request.expires ≤ policy.longest := by
  obtain ⟨-, -, -, hexpiry⟩ := GrantPolicy.check_eq_ok_iff.1 hcheck
  unfold GrantPolicy.checkExpiry at hexpiry
  split at hexpiry
  · cases hexpiry
  · omega

/-- The name of a bucket is longer than a dot segment. -/
theorem three_le_of_brokenRule? {name : List Char} (hname : brokenRule? name = none) :
    3 ≤ (encode name).length := by
  unfold brokenRule? at hname
  simp only at hname
  split at hname
  · cases hname
  · omega

/-- A safe key begins with no slash, has no dot segments and shows all its characters. -/
theorem isUnsafe_eq_false_iff {key : List Char} :
    isUnsafe key = false ↔ key.head? ≠ some '/' ∧
      (∀ part ∈ fields (· == '/') key, part ≠ ['.'] ∧ part ≠ ['.', '.']) ∧
      ∀ c ∈ key, isControl c = false ∧ c ≠ '\\' := by
  simp only [isUnsafe, Bool.or_eq_false_iff, beq_eq_false_iff_ne, List.any_eq_false,
    Bool.or_eq_true, beq_iff_eq, not_or, Bool.not_eq_true, and_assoc, ne_eq]
  constructor
  · rintro ⟨hhead, hparts, hchars⟩
    exact ⟨hhead, fun part hpart => (hparts part hpart).symm, hchars⟩
  · rintro ⟨hhead, hparts, hchars⟩
    exact ⟨hhead, fun part hpart => (hparts part hpart).symm, hchars⟩

theorem keepsSegment_bucket {name : List Char} (hname : brokenRule? name = none) :
    Address.KeepsSegment (uriEncode name true) := by
  have hlong := three_le_of_brokenRule? hname
  refine keepsSegment_uriEncode ?_ ?_ <;>
    · rintro rfl
      exact absurd hlong (by decide)

/-- Reading an address leaves the path of an accepted object alone. -/
theorem keepsSegment_of_check {policy : GrantPolicy} {request : UploadRequest}
    (hcheck : policy.check request = .ok ()) {segment : List Char}
    (hsegment : segment ∈ objectSegments request.bucket (some request.key)) :
    Address.KeepsSegment segment := by
  obtain ⟨hbucket, hkey⟩ := of_check hcheck
  rcases List.mem_cons.1 hsegment with rfl | hin
  · exact keepsSegment_bucket hbucket
  · obtain ⟨part, hpart, rfl⟩ := List.mem_map.1 hin
    obtain ⟨hone, htwo⟩ := (isUnsafe_eq_false_iff.1 hkey).2.1 part hpart
    exact keepsSegment_uriEncode hone htwo

theorem toNat_lt_of_isBucketChar {c : Char} (hc : isBucketChar c = true) : c.toNat < 0x80 := by
  simp only [isBucketChar, isLowerOrDigit, Bool.or_eq_true, Bool.and_eq_true, decide_eq_true_eq,
    beq_iff_eq] at hc
  rcases hc with ((⟨-, hhigh⟩ | hdigit) | rfl) | rfl
  · exact Nat.lt_of_le_of_lt (UInt32.le_iff_toNat_le.1 hhigh) (by decide)
  · have hbounds := toNat_of_isDigit hdigit
    omega
  · decide
  · decide

theorem isBucketChar_of_brokenRule? {name : List Char} (hname : brokenRule? name = none) :
    ∀ c ∈ name, isBucketChar c = true := by
  unfold brokenRule? at hname
  simp only at hname
  split at hname
  · cases hname
  · split at hname
    · cases hname
    · rename_i hall
      simpa using hall

/-- Escaping leaves the name of a bucket alone. -/
theorem uriEncode_of_brokenRule? {name : List Char} (hname : brokenRule? name = none)
    (encodeSlash : Bool) : uriEncode name encodeSlash = name := by
  refine escape_eq_self fun c hc => ?_
  have hchar := isBucketChar_of_brokenRule? hname c hc
  have hlow := toNat_lt_of_isBucketChar hchar
  have hkept : isUnreserved (UInt8.ofNat c.toNat) = true := by
    refine forall_ascii (p := fun d => isBucketChar d = true →
      isUnreserved (UInt8.ofNat d.toNat) = true) ?_ hlow hchar
    decide
  exact ⟨hlow, by rw [hkept, Bool.true_or]⟩

/-- The name of a bucket stands in a path as it is. -/
theorem objectPath_of_brokenRule? {bucket : String} (hbucket : brokenRule? bucket.toList = none) :
    objectPath bucket none = '/' :: bucket.toList := by
  rw [objectPath, uriEncode_of_brokenRule? hbucket, List.append_nil]

end SignedAccess
