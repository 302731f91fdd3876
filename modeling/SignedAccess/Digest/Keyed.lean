/-
# Keyed digests

A message is digested under a key by two nested digests over the padded key.
A key of more than one block is replaced by its own digest first.
-/

import SignedAccess.Digest.Sha256
import SignedAccess.Text.Hex

namespace SignedAccess.Digest

/-- The key filled up with zeros to one block of sixty-four bytes. -/
def blockKey (key : List UInt8) : List UInt8 :=
  let short := if 64 < key.length then digest key else key
  short ++ List.replicate (64 - short.length) 0

/-- The digest of a message under a key. -/
def keyed (key message : List UInt8) : List UInt8 :=
  let block := blockKey key
  digest (block.map (· ^^^ 0x5C) ++ digest (block.map (· ^^^ 0x36) ++ message))

@[simp]
theorem length_keyed (key message : List UInt8) : (keyed key message).length = 32 := by
  simp [keyed]

/-- A digest in hexadecimal digits. -/
def hexDigest (message : List UInt8) : List Char := Text.toHex (digest message)

/-- A digest under a key in hexadecimal digits. -/
def hexKeyed (key message : List UInt8) : List Char := Text.toHex (keyed key message)

@[simp]
theorem length_hexKeyed (key message : List UInt8) : (hexKeyed key message).length = 64 := by
  simp [hexKeyed]

end SignedAccess.Digest
