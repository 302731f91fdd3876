/-
# Percent encoding

A byte is written as a percent sign and two upper-case digits unless a set of
bytes says that it may stand for itself. Signing uses the unreserved set;
addresses use the wider sets in `SignedAccess.Address`. `unescape` reads any
such text back and leaves a percent sign without two digits alone, which is
what addresses ask for.
-/

import SignedAccess.Text.Hex
import SignedAccess.Text.Utf8

namespace SignedAccess.Text

/-- A byte as a percent sign and two upper-case hexadecimal digits. -/
def escapeByte (b : UInt8) : List Char :=
  ['%', hexDigitUpper (b.toNat / 16), hexDigitUpper (b.toNat % 16)]

/-- Bytes written one after the other, those in the set as themselves. -/
def escapeBytes (keep : UInt8 → Bool) (bs : List UInt8) : List Char :=
  bs.flatMap fun b => if keep b then [Char.ofNat b.toNat] else escapeByte b

/-- A text written with the bytes outside the set escaped. -/
def escape (keep : UInt8 → Bool) (cs : List Char) : List Char := escapeBytes keep (encode cs)

/-- A letter or a digit. -/
def isAlnumByte (b : UInt8) : Bool :=
  let n := b.toNat
  (0x30 ≤ n && n ≤ 0x39) || (0x41 ≤ n && n ≤ 0x5A) || (0x61 ≤ n && n ≤ 0x7A)

/-- The unreserved bytes: letters, digits, `-`, `_`, `.` and `~`. -/
def isUnreserved (b : UInt8) : Bool :=
  isAlnumByte b || b == 0x2D || b == 0x5F || b == 0x2E || b == 0x7E

/-- A text with everything but unreserved bytes escaped, the slash too unless
it is to be kept. -/
def uriEncode (cs : List Char) (encodeSlash : Bool) : List Char :=
  escape (fun b => isUnreserved b || (b == 0x2F && !encodeSlash)) cs

/-- The bytes that a text stands for once its escapes are read. A percent sign
that two hexadecimal digits do not follow stands for itself. -/
def unescape : List Char → List UInt8
  | [] => []
  | '%' :: a :: b :: rest =>
      match hexValue? a, hexValue? b with
      | some high, some low => UInt8.ofNat (16 * high + low) :: unescape rest
      | _, _ => 0x25 :: unescape (a :: b :: rest)
  | c :: rest => String.utf8EncodeChar c ++ unescape rest
termination_by cs => cs.length

theorem escapeBytes_append (keep : UInt8 → Bool) (as bs : List UInt8) :
    escapeBytes keep (as ++ bs) = escapeBytes keep as ++ escapeBytes keep bs := by
  simp [escapeBytes]

theorem uriEncode_append (as bs : List Char) (encodeSlash : Bool) :
    uriEncode (as ++ bs) encodeSlash = uriEncode as encodeSlash ++ uriEncode bs encodeSlash := by
  simp [uriEncode, escape, encode, escapeBytes]

end SignedAccess.Text
