/-
# SHA-256

The digest of a list of bytes. A block of sixteen words is kept as a window
that moves one word per round: the first word is used, and the word sixteen
places later is put at the end. `length_digest` says that a digest has
thirty-two bytes whatever the message.
-/

namespace SignedAccess.Digest

/-- The eight chaining words. -/
structure Registers where
  a : UInt32
  b : UInt32
  c : UInt32
  d : UInt32
  e : UInt32
  f : UInt32
  g : UInt32
  h : UInt32
  deriving DecidableEq, Repr

namespace Registers

/-- The chaining words before the first block. -/
def initial : Registers :=
  ⟨0x6a09e667, 0xbb67ae85, 0x3c6ef372, 0xa54ff53a, 0x510e527f, 0x9b05688c, 0x1f83d9ab,
    0x5be0cd19⟩

/-- The words of two registers added place by place. -/
def add (x y : Registers) : Registers :=
  ⟨x.a + y.a, x.b + y.b, x.c + y.c, x.d + y.d, x.e + y.e, x.f + y.f, x.g + y.g, x.h + y.h⟩

/-- The eight words in order. -/
def toList (x : Registers) : List UInt32 := [x.a, x.b, x.c, x.d, x.e, x.f, x.g, x.h]

end Registers

/-- The constants of the sixty-four rounds. -/
def roundConstants : List UInt32 := [
  0x428a2f98, 0x71374491, 0xb5c0fbcf, 0xe9b5dba5, 0x3956c25b, 0x59f111f1, 0x923f82a4, 0xab1c5ed5,
  0xd807aa98, 0x12835b01, 0x243185be, 0x550c7dc3, 0x72be5d74, 0x80deb1fe, 0x9bdc06a7, 0xc19bf174,
  0xe49b69c1, 0xefbe4786, 0x0fc19dc6, 0x240ca1cc, 0x2de92c6f, 0x4a7484aa, 0x5cb0a9dc, 0x76f988da,
  0x983e5152, 0xa831c66d, 0xb00327c8, 0xbf597fc7, 0xc6e00bf3, 0xd5a79147, 0x06ca6351, 0x14292967,
  0x27b70a85, 0x2e1b2138, 0x4d2c6dfc, 0x53380d13, 0x650a7354, 0x766a0abb, 0x81c2c92e, 0x92722c85,
  0xa2bfe8a1, 0xa81a664b, 0xc24b8b70, 0xc76c51a3, 0xd192e819, 0xd6990624, 0xf40e3585, 0x106aa070,
  0x19a4c116, 0x1e376c08, 0x2748774c, 0x34b0bcb5, 0x391c0cb3, 0x4ed8aa4a, 0x5b9cca4f, 0x682e6ff3,
  0x748f82ee, 0x78a5636f, 0x84c87814, 0x8cc70208, 0x90befffa, 0xa4506ceb, 0xbef9a3f7, 0xc67178f2]

/-- A word turned right by `n` places. -/
def rotateRight (x n : UInt32) : UInt32 := (x >>> n) ||| (x <<< (32 - n))

/-- The word that enters the window when its first word leaves. -/
def nextWord (window : List UInt32) : UInt32 :=
  let x := window.getD 1 0
  let y := window.getD 14 0
  let small0 := rotateRight x 7 ^^^ rotateRight x 18 ^^^ (x >>> 3)
  let small1 := rotateRight y 17 ^^^ rotateRight y 19 ^^^ (y >>> 10)
  window.getD 0 0 + small0 + window.getD 9 0 + small1

/-- One round on the registers with the word and the constant of the round. -/
def mix (r : Registers) (word constant : UInt32) : Registers :=
  let big1 := rotateRight r.e 6 ^^^ rotateRight r.e 11 ^^^ rotateRight r.e 25
  let choice := (r.e &&& r.f) ^^^ (~~~r.e &&& r.g)
  let first := r.h + big1 + choice + constant + word
  let big0 := rotateRight r.a 2 ^^^ rotateRight r.a 13 ^^^ rotateRight r.a 22
  let majority := (r.a &&& r.b) ^^^ (r.a &&& r.c) ^^^ (r.b &&& r.c)
  ⟨first + (big0 + majority), r.a, r.b, r.c, r.d + first, r.e, r.f, r.g⟩

/-- One round on the registers and the window. -/
def round (state : Registers × List UInt32) (constant : UInt32) : Registers × List UInt32 :=
  (mix state.1 (state.2.getD 0 0) constant, state.2.tail ++ [nextWord state.2])

/-- The registers after one block of sixteen words. -/
def compress (r : Registers) (block : List UInt32) : Registers :=
  r.add (roundConstants.foldl round (r, block)).1

/-- Groups of four bytes as words, most significant byte first. -/
def wordsOfBytes : List UInt8 → List UInt32
  | a :: b :: c :: d :: rest =>
      ((a.toUInt32 <<< 24) ||| (b.toUInt32 <<< 16) ||| (c.toUInt32 <<< 8) ||| d.toUInt32)
        :: wordsOfBytes rest
  | _ => []

/-- A word as four bytes, most significant byte first. -/
def bytesOfWord (w : UInt32) : List UInt8 :=
  [(w >>> 24).toUInt8, (w >>> 16).toUInt8, (w >>> 8).toUInt8, w.toUInt8]

/-- A length in bits as eight bytes, most significant byte first. -/
def lengthBytes (bits : Nat) : List UInt8 :=
  bytesOfWord (UInt32.ofNat (bits / 4294967296)) ++ bytesOfWord (UInt32.ofNat bits)

/-- The message with the marker, the zeros and the length that fill the last
block. -/
def pad (message : List UInt8) : List UInt8 :=
  let zeros := (64 - (message.length + 9) % 64) % 64
  message ++ 0x80 :: (List.replicate zeros 0 ++ lengthBytes (8 * message.length))

/-- The registers after all whole blocks of the words. -/
def absorb (r : Registers) (words : List UInt32) : Registers :=
  if words.length < 16 then r else absorb (compress r (words.take 16)) (words.drop 16)
termination_by words.length
decreasing_by
  simp only [List.length_drop]
  omega

/-- The digest of a message. -/
def digest (message : List UInt8) : List UInt8 :=
  (absorb Registers.initial (wordsOfBytes (pad message))).toList.flatMap bytesOfWord

@[simp]
theorem length_digest (message : List UInt8) : (digest message).length = 32 := by
  simp [digest, Registers.toList, bytesOfWord]

end SignedAccess.Digest
