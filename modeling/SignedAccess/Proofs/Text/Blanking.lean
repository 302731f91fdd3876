/-
# Blanked signatures

A signature stands in a text as sixty-four digits after its name. Blanking a text puts a
filler for each such digit, wherever a name is followed by a signature, and leaves all
else as it is. Two texts that differ in one signature alone are the same once blanked:
a name begins with a sign that neither a name nor a signature goes on with, so nothing
that is blanked before the signature reaches into it.

Texts and bytes are blanked in the same way, and texts that are alike are written alike.
-/

import SignedAccess.Json.Printer
import SignedAccess.Proofs.Text.Cuts
import SignedAccess.Proofs.Text.Escapes

namespace SignedAccess

namespace Text

/-- How signatures are found in a row of signs: a name, and then digits. The name begins
with a sign of its own. -/
structure Marking (α : Type) where
  first : α
  more : List α
  isDigit : α → Bool
  filler : α
  first_not_mem : first ∉ more
  isDigit_first : isDigit first = false

/-- How many digits a signature has. -/
def signatureLength : Nat := 64

namespace Marking

variable {α β : Type}

/-- The name that stands before a signature. -/
def name (m : Marking α) : List α := m.first :: m.more

/-- How many signs a name and its signature take. -/
def width (m : Marking α) : Nat := m.name.length + signatureLength

/-- A row of digits as long as a signature. -/
structure IsSignature (m : Marking α) (signature : List α) : Prop where
  length : signature.length = signatureLength
  digits : ∀ c ∈ signature, m.isDigit c = true

section

variable [DecidableEq α]

/-- A name and a signature begin the text. -/
def begins (m : Marking α) (text : List α) : Bool :=
  let digits := (text.drop m.name.length).take signatureLength
  text.take m.name.length == m.name && digits.length == signatureLength && digits.all m.isDigit

/-- The text with every signature blanked, where so many signs at its start belong to a
name and a signature that began before it. -/
def blankFrom (m : Marking α) : Nat → List α → List α
  | _, [] => []
  | 0, c :: rest => c :: m.blankFrom (if m.begins (c :: rest) then m.width - 1 else 0) rest
  | left + 1, c :: rest => (if left < signatureLength then m.filler else c) :: m.blankFrom left rest

/-- The text with every signature blanked. -/
def blank (m : Marking α) (text : List α) : List α := m.blankFrom 0 text

end

/-- The texts are the same, or differ in one signature. -/
def Alike (m : Marking α) (text other : List α) : Prop :=
  text = other ∨ ∃ front back one two, m.IsSignature one ∧ m.IsSignature two ∧
    text = front ++ (m.name ++ (one ++ back)) ∧ other = front ++ (m.name ++ (two ++ back))

variable {m : Marking α} {text other : List α}

/-! ### Texts that are alike -/

theorem Alike.refl (m : Marking α) (text : List α) : m.Alike text text := Or.inl rfl

theorem Alike.of_signatures {one two : List α} (front : List α) (hone : m.IsSignature one)
    (htwo : m.IsSignature two) : m.Alike (front ++ (m.name ++ one)) (front ++ (m.name ++ two)) :=
  Or.inr ⟨front, [], one, two, hone, htwo, by rw [List.append_nil], by rw [List.append_nil]⟩

theorem Alike.append_left (h : m.Alike text other) (front : List α) :
    m.Alike (front ++ text) (front ++ other) := by
  obtain rfl | ⟨middle, back, one, two, hone, htwo, rfl, rfl⟩ := h
  · exact Alike.refl m _
  · exact Or.inr ⟨front ++ middle, back, one, two, hone, htwo, (List.append_assoc ..).symm,
      (List.append_assoc ..).symm⟩

theorem Alike.append_right (h : m.Alike text other) (back : List α) :
    m.Alike (text ++ back) (other ++ back) := by
  obtain rfl | ⟨front, middle, one, two, hone, htwo, rfl, rfl⟩ := h
  · exact Alike.refl m _
  · exact Or.inr ⟨front, middle ++ back, one, two, hone, htwo, by simp, by simp⟩

/-- Digits that are written as one digit each are written as as many digits. -/
theorem isDigit_flatMap {n : Marking β} {write : α → List β}
    (hdigit : ∀ c, m.isDigit c = true → ∃ d, write c = [d] ∧ n.isDigit d = true)
    {digits : List α} (hdigits : ∀ c ∈ digits, m.isDigit c = true) :
    (digits.flatMap write).length = digits.length ∧
      ∀ d ∈ digits.flatMap write, n.isDigit d = true := by
  induction digits with
  | nil => exact ⟨rfl, nofun⟩
  | cons c digits ih =>
      obtain ⟨d, hd, hisDigit⟩ := hdigit c (hdigits c List.mem_cons_self)
      obtain ⟨hlength, hmore⟩ := ih fun e he => hdigits e (List.mem_cons_of_mem c he)
      rw [List.flatMap_cons, hd]
      exact ⟨congrArg Nat.succ hlength, List.forall_mem_cons.2 ⟨hisDigit, hmore⟩⟩

/-- What is alike stays alike in any writing that keeps the name and the digits. -/
theorem Alike.flatMap {n : Marking β} {write : α → List β} (h : m.Alike text other)
    (hname : m.name.flatMap write = n.name)
    (hdigit : ∀ c, m.isDigit c = true → ∃ d, write c = [d] ∧ n.isDigit d = true) :
    n.Alike (text.flatMap write) (other.flatMap write) := by
  have hwritten : ∀ {signature : List α}, m.IsSignature signature →
      n.IsSignature (signature.flatMap write) := by
    intro signature hsignature
    obtain ⟨digits, hdigits⟩ := isDigit_flatMap hdigit hsignature.digits
    exact ⟨digits.trans hsignature.length, hdigits⟩
  obtain rfl | ⟨front, back, one, two, hone, htwo, rfl, rfl⟩ := h
  · exact Alike.refl n _
  · refine Or.inr ⟨front.flatMap write, back.flatMap write, _, _, hwritten hone, hwritten htwo,
      ?_, ?_⟩ <;> simp only [List.flatMap_append, hname]

/-! ### What blanking does -/

variable [DecidableEq α]

theorem begins_eq_true_iff : m.begins text = true ↔
    ∃ signature back, m.IsSignature signature ∧ text = m.name ++ (signature ++ back) := by
  constructor
  · intro h
    simp only [begins, Bool.and_eq_true, beq_iff_eq, List.all_eq_true] at h
    obtain ⟨⟨hname, hlength⟩, hdigits⟩ := h
    refine ⟨_, (text.drop m.name.length).drop signatureLength, ⟨hlength, hdigits⟩, ?_⟩
    rw [List.take_append_drop]
    conv_lhs => rw [← List.take_append_drop m.name.length text, hname]
  · rintro ⟨signature, back, hsignature, rfl⟩
    simp only [begins, Bool.and_eq_true, beq_iff_eq, List.all_eq_true, List.take_left,
      List.drop_left, ← hsignature.length]
    exact ⟨⟨trivial, trivial⟩, hsignature.digits⟩

/-- A signature that begins before a name ends before it. -/
theorem width_le_of_begins {front rest : List α} (hne : front ≠ [])
    (hbegins : m.begins (front ++ m.first :: rest) = true) : m.width ≤ front.length := by
  obtain ⟨signature, back, hsignature, htext⟩ := begins_eq_true_iff.1 hbegins
  by_contra hshort
  have hlength : (m.name ++ signature).length = m.width := by
    rw [List.length_append, hsignature.length, width]
  have hlt : front.length < (m.name ++ signature).length := by omega
  rw [← List.append_assoc] at htext
  have hat : (m.name ++ signature)[front.length] = m.first := by
    have hfirst : (front ++ m.first :: rest)[front.length]? = (m.first :: rest)[0]? := by
      rw [List.getElem?_append_right (Nat.le_refl front.length), Nat.sub_self]
    rw [htext, List.getElem?_append_left hlt, List.getElem?_cons_zero,
      List.getElem?_eq_getElem hlt] at hfirst
    exact Option.some.inj hfirst
  have hlate : m.first ∈ m.more ++ signature := by
    obtain ⟨n, hn⟩ := Nat.exists_eq_succ_of_ne_zero (mt List.length_eq_zero_iff.1 hne)
    simp only [hn, name, List.cons_append, List.getElem_cons_succ] at hat
    exact hat ▸ List.getElem_mem _
  rcases List.mem_append.1 hlate with hmore | hdigit
  · exact m.first_not_mem hmore
  · exact Bool.false_ne_true (m.isDigit_first ▸ hsignature.digits _ hdigit)

/-- Whether a signature begins before a name has nothing to do with what follows the name. -/
theorem begins_append_eq {front one two : List α} (hne : front ≠ []) :
    m.begins (front ++ m.first :: one) = m.begins (front ++ m.first :: two) := by
  have himp : ∀ one two, m.begins (front ++ m.first :: one) = true →
      m.begins (front ++ m.first :: two) = true := by
    intro one two hbegins
    have hwidth := width_le_of_begins hne hbegins
    have hname : m.name.length ≤ front.length := Nat.le_trans (Nat.le_add_right _ _) hwidth
    have hdigits : signatureLength ≤ (front.drop m.name.length).length := by
      rw [List.length_drop]
      unfold width at hwidth
      omega
    rw [begins, List.take_append_of_le_length hname, List.drop_append_of_le_length hname,
      List.take_append_of_le_length hdigits] at hbegins ⊢
    exact hbegins
  exact Bool.eq_iff_iff.2 ⟨himp one two, himp two one⟩

theorem blankFrom_signature {signature : List α} (hlength : signature.length ≤ signatureLength)
    (back : List α) : m.blankFrom signature.length (signature ++ back) =
      List.replicate signature.length m.filler ++ m.blank back := by
  induction signature with
  | nil => rfl
  | cons c signature ih =>
      have hshort : signature.length < signatureLength := hlength
      rw [List.length_cons, List.cons_append, blankFrom, if_pos hshort, ih hshort.le]
      rfl

/-- The rest of a name stays as it is, and the signature after it is blanked. -/
theorem blankFrom_name {signature : List α} (hlength : signature.length = signatureLength)
    (name back : List α) :
    m.blankFrom (name.length + signatureLength) (name ++ (signature ++ back)) =
      name ++ (List.replicate signatureLength m.filler ++ m.blank back) := by
  induction name with
  | nil =>
      rw [List.length_nil, Nat.zero_add, ← hlength]
      exact blankFrom_signature hlength.le back
  | cons c name ih =>
      have hinside : ¬name.length + signatureLength < signatureLength := by omega
      rw [List.length_cons, Nat.add_right_comm, List.cons_append, blankFrom, if_neg hinside, ih]
      rfl

/-- A signature is blanked after its name, and what follows is blanked by itself. -/
theorem blank_signature {signature : List α} (hsignature : m.IsSignature signature)
    (back : List α) : m.blank (m.name ++ (signature ++ back)) =
      m.name ++ (List.replicate signatureLength m.filler ++ m.blank back) := by
  have hbegins : m.begins (m.first :: (m.more ++ (signature ++ back))) = true :=
    begins_eq_true_iff.2 ⟨signature, back, hsignature, rfl⟩
  have hwidth : m.width - 1 = m.more.length + signatureLength := by
    rw [width, name, List.length_cons]
    omega
  rw [name, List.cons_append, blank, blankFrom, hbegins, if_pos rfl, hwidth,
    blankFrom_name hsignature.length]
  rfl

theorem blankFrom_eq_of_signatures {front back one two : List α} (hone : m.IsSignature one)
    (htwo : m.IsSignature two) {left : Nat} (hleft : left ≤ front.length) :
    m.blankFrom left (front ++ (m.name ++ (one ++ back))) =
      m.blankFrom left (front ++ (m.name ++ (two ++ back))) := by
  induction front generalizing left with
  | nil =>
      obtain rfl := Nat.le_zero.1 hleft
      exact (blank_signature hone back).trans (blank_signature htwo back).symm
  | cons c front ih =>
      cases left with
      | zero =>
          have hsame : m.begins (c :: front ++ m.first :: (m.more ++ (one ++ back))) =
              m.begins (c :: front ++ m.first :: (m.more ++ (two ++ back))) :=
            begins_append_eq (List.cons_ne_nil c front)
          have hreach : (if m.begins (c :: front ++ m.first :: (m.more ++ (two ++ back)))
              then m.width - 1 else 0) ≤ front.length := by
            split
            · rename_i hbegins
              have hwidth := width_le_of_begins (List.cons_ne_nil c front) hbegins
              rw [List.length_cons] at hwidth
              omega
            · exact Nat.zero_le _
          simp only [name, List.cons_append] at hsame hreach ih ⊢
          rw [blankFrom, blankFrom, hsame, ih hreach]
      | succ left =>
          rw [List.cons_append, List.cons_append, blankFrom, blankFrom,
            ih (Nat.le_of_succ_le_succ hleft)]

/-- Texts that differ in one signature at most are the same once blanked. -/
theorem Alike.blank_eq (h : m.Alike text other) : m.blank text = m.blank other := by
  obtain rfl | ⟨front, back, one, two, hone, htwo, rfl, rfl⟩ := h
  · rfl
  · exact blankFrom_eq_of_signatures hone htwo (Nat.zero_le _)

end Marking

/-! ### Signatures of addresses -/

/-- The signature of an address stands after its name in the query. -/
def addressSignature : Marking Char where
  first := 'X'
  more := "-Amz-Signature=".toList
  isDigit c := (hexValue? c).isSome
  filler := '_'
  first_not_mem := by decide
  isDigit_first := by decide

/-- The signature of an address in bytes. -/
def addressSignatureBytes : Marking UInt8 where
  first := 0x58
  more := encode "-Amz-Signature=".toList
  isDigit b := (hexValue? (Char.ofNat b.toNat)).isSome
  filler := 0x5F
  first_not_mem := by decide
  isDigit_first := by decide

/-- The text with every signature of an address blanked. -/
def blankSignatures (s : String) : String := String.ofList (addressSignature.blank s.toList)

/-- The texts are the same, or differ in the signature of one address. -/
def AlikeTexts (s t : String) : Prop := addressSignature.Alike s.toList t.toList

theorem AlikeTexts.refl (s : String) : AlikeTexts s s := Marking.Alike.refl _ _

theorem AlikeTexts.append {s t : String} (h : AlikeTexts s t) (front back : String) :
    AlikeTexts (front ++ s ++ back) (front ++ t ++ back) := by
  unfold AlikeTexts
  simp only [String.toList_append]
  exact (Marking.Alike.append_left h _).append_right _

theorem AlikeTexts.blank_eq {s t : String} (h : AlikeTexts s t) :
    blankSignatures s = blankSignatures t :=
  congrArg String.ofList (Marking.Alike.blank_eq h)

/-- Sixty-four digits after the name are blanked, and fewer are left. -/
example :
    let named (count : Nat) (digit : Char) : String :=
      "?X-Amz-Signature=" ++ String.ofList (List.replicate count digit)
    blankSignatures (named 64 'a') = named 64 '_' ∧
      blankSignatures (named 63 'a') = named 63 'a' := by
  decide

theorem lt_of_hexValue? {c : Char} (hc : (hexValue? c).isSome = true) : c.toNat < 0x80 := by
  by_contra hhigh
  unfold hexValue? at hc
  simp only at hc
  rw [if_neg (by omega), if_neg (by omega), if_neg (by omega)] at hc
  cases hc

/-- Texts that are alike are alike as bytes. -/
theorem alike_encode {text other : List Char} (h : addressSignature.Alike text other) :
    addressSignatureBytes.Alike (encode text) (encode other) := by
  refine h.flatMap (by decide) fun c hc => ?_
  have hlow := lt_of_hexValue? hc
  refine ⟨UInt8.ofNat c.toNat, utf8EncodeChar_of_lt hlow, ?_⟩
  simp only [addressSignatureBytes, toNat_byte_of_ascii hlow, Char.ofNat_toNat]
  exact hc

end Text

namespace Json

open Text

/-- Texts that are alike are alike between quotes. -/
theorem alike_textWritten {s t : String} (h : AlikeTexts s t) :
    addressSignature.Alike (textWritten s) (textWritten t) := by
  have hchars : addressSignature.Alike (s.toList.flatMap charWritten)
      (t.toList.flatMap charWritten) := by
    refine h.flatMap (by decide) fun c hc => ⟨c, ?_, hc⟩
    refine forall_ascii (p := fun d => (hexValue? d).isSome = true → charWritten d = [d]) ?_
      (lt_of_hexValue? hc) hc
    decide
  exact (hchars.append_left ['"']).append_right ['"']

end Json

end SignedAccess
