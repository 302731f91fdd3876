/-
# Reading blanks, words, numbers and texts

Input is a list of bytes. A reader answers with what it read and the bytes
after it. Where the input ends too early the fault is `cutShort`; every other
departure from the grammar is `malformed`.

A number keeps as many digits as fit into 64 bits and counts the others, so a
number with a fraction or an exponent is the rounded significand times or over
one rounded power of ten.
-/

import SignedAccess.Json.Fault

namespace SignedAccess.Json

open Text Decimal

/-- The bytes still to be read. -/
abbrev Input := List UInt8

/-- The byte of an ASCII character. -/
def byteOf (c : Char) : UInt8 := UInt8.ofNat c.toNat

/-- A space, a tab, a line feed or a carriage return. -/
def isSpace (b : UInt8) : Bool := b == 0x20 || b == 0x09 || b == 0x0a || b == 0x0d

/-- The input from its first byte that is no blank. -/
def skipSpaces (bs : Input) : Input := bs.dropWhile isSpace

/-- The fault of an input that should have gone on otherwise. -/
def unexpected : Input → Fault
  | [] => .cutShort
  | _ :: _ => .malformed

/-- The input after a word that it must begin with. -/
def afterWord : List Char → Input → Except Fault Input
  | [], bs => .ok bs
  | _ :: _, [] => .error .cutShort
  | c :: more, b :: rest => if b = byteOf c then afterWord more rest else .error .malformed

/-- A decimal digit. -/
def isDigit (b : UInt8) : Bool := 0x30 ≤ b && b ≤ 0x39

/-- The value of a decimal digit. -/
def digitValue (b : UInt8) : Nat := b.toNat - 0x30

/-- The digits at the head of the input and the bytes after them. -/
def digits (bs : Input) : List UInt8 × Input := (bs.takeWhile isDigit, bs.dropWhile isDigit)

/-- The first number that does not fit into 64 bits. -/
def significandLimit : Nat := 18446744073709551616

/-- Digits taken onto a significand as long as it stays below the limit, and how
many were left. -/
def absorb (significand : Nat) : List UInt8 → Nat × Nat
  | [] => (significand, 0)
  | d :: rest =>
      let next := 10 * significand + digitValue d
      if next < significandLimit then absorb next rest else (significand, rest.length + 1)

/-- A significand times a power of ten, rounded. A number that is too large is
malformed. -/
def fraction (negative : Bool) (significand : Nat) (exponent : Int) : Except Fault Number :=
  match Binary64.ofNat significand >>= (·.scale exponent) with
  | none => .error .malformed
  | some x => .ok (.real (if negative then x.neg else x))

/-- An exponent past this limit makes a number zero or too large. -/
def greatestExponent : Nat := 2147483647

/-- The number whose exponent begins the input, the mark `e` already taken. -/
def readExponent (negative : Bool) (significand : Nat) (start : Int) (bs : Input) :
    Except Fault (Number × Input) :=
  let (down, bs) :=
    match bs with
    | b :: rest =>
        if b = byteOf '+' then (false, rest)
        else if b = byteOf '-' then (true, rest)
        else (false, bs)
    | [] => (false, [])
  match digits bs with
  | ([], rest) => .error (unexpected rest)
  | (ds, rest) =>
      let size := ds.foldl (fun n d => 10 * n + digitValue d) 0
      if greatestExponent < size ∧ significand ≠ 0 ∧ ¬down then .error .malformed
      else do
        let significand := if greatestExponent < size then 0 else significand
        let n ← fraction negative significand (if down then start - size else start + size)
        .ok (n, rest)

/-- A byte that marks an exponent. -/
def isExponentMark (b : UInt8) : Bool := b == byteOf 'e' || b == byteOf 'E'

/-- The number whose digits after the point begin the input. -/
def readFraction (negative : Bool) (significand dropped : Nat) (bs : Input) :
    Except Fault (Number × Input) :=
  match digits bs with
  | ([], rest) => .error (unexpected rest)
  | (ds, rest) =>
      let (significand', left) := absorb significand ds
      let exponent : Int := (dropped : Int) - ((ds.length - left : Nat) : Int)
      match rest with
      | b :: more =>
          if isExponentMark b then readExponent negative significand' exponent more
          else do .ok (← fraction negative significand' exponent, rest)
      | [] => do .ok (← fraction negative significand' exponent, [])

/-- How far a whole number may lie below zero. -/
def deepest : Nat := 9223372036854775808

/-- A number without fraction and exponent. It is whole when its digits fit and
it does not lie too deep; zero with a minus sign is a fraction. -/
def wholeNumber (negative : Bool) (significand dropped : Nat) : Except Fault Number :=
  if dropped = 0 then
    if !negative then .ok (.whole significand)
    else if 0 < significand ∧ significand ≤ deepest then .ok (.whole (-significand))
    else fraction negative significand 0
  else fraction negative significand dropped

/-- A number, its minus sign already taken. -/
def readNumber (negative : Bool) (bs : Input) : Except Fault (Number × Input) :=
  match bs with
  | [] => .error .cutShort
  | first :: rest =>
      if !isDigit first then .error .malformed
      else
        let (ds, after) := if first = byteOf '0' then ([first], rest) else digits bs
        if first = byteOf '0' ∧ (after.head?.map isDigit) = some true then .error .malformed
        else
          let (significand, dropped) := absorb 0 ds
          match after with
          | b :: more =>
              if b = byteOf '.' then readFraction negative significand dropped more
              else if isExponentMark b then readExponent negative significand dropped more
              else do .ok (← wholeNumber negative significand dropped, after)
          | [] => do .ok (← wholeNumber negative significand dropped, [])

/-- Four hexadecimal digits. -/
def readHex4 : Input → Except Fault (Nat × Input)
  | a :: b :: c :: d :: rest =>
      match [a, b, c, d].mapM fun x => hexValue? (Char.ofNat x.toNat) with
      | some values => .ok (values.foldl (fun n v => 16 * n + v) 0, rest)
      | none => .error .malformed
  | _ => .error .cutShort

/-- The characters that an escape of one letter stands for. -/
def shortEscape? (b : UInt8) : Option Char :=
  match Char.ofNat b.toNat with
  | '"' => some '"'
  | '\\' => some '\\'
  | '/' => some '/'
  | 'b' => some '\x08'
  | 'f' => some '\x0c'
  | 'n' => some '\n'
  | 'r' => some '\r'
  | 't' => some '\t'
  | _ => none

/-- The second half of a pair of escapes that together name one character. -/
def readLowHalf (high : Nat) : Input → Except Fault (Char × Input)
  | [] => .error .cutShort
  | [b] => if b = byteOf '\\' then .error .cutShort else .error .malformed
  | b :: u :: rest =>
      if b = byteOf '\\' ∧ u = byteOf 'u' then do
        let (low, rest) ← readHex4 rest
        if 0xdc00 ≤ low ∧ low ≤ 0xdfff then
          .ok (Char.ofNat (0x10000 + (high - 0xd800) * 0x400 + (low - 0xdc00)), rest)
        else .error .malformed
      else .error .malformed

/-- The character that an escape stands for, its backslash already taken. -/
def readEscape : Input → Except Fault (Char × Input)
  | [] => .error .cutShort
  | b :: rest =>
      if b = byteOf 'u' then do
        let (n, rest) ← readHex4 rest
        if n < 0xd800 ∨ 0xdfff < n then .ok (Char.ofNat n, rest)
        else if n < 0xdc00 then readLowHalf n rest
        else .error .malformed
      else
        match shortEscape? b with
        | some c => .ok (c, rest)
        | none => .error .malformed

theorem length_le_of_readHex4 {bs rest : Input} {n : Nat} (hread : readHex4 bs = .ok (n, rest)) :
    rest.length ≤ bs.length := by
  unfold readHex4 at hread
  split at hread
  · split at hread
    · cases hread
      simp only [List.length_cons]
      omega
    · simp at hread
  · simp at hread

theorem length_le_of_readLowHalf {high : Nat} {bs rest : Input} {c : Char}
    (hread : readLowHalf high bs = .ok (c, rest)) : rest.length ≤ bs.length := by
  unfold readLowHalf at hread
  split at hread
  · simp at hread
  · split at hread <;> simp at hread
  · rename_i b u more
    split at hread
    · cases hhex : readHex4 more with
      | error e => simp [hhex, bind, Except.bind] at hread
      | ok pair =>
          obtain ⟨low, after⟩ := pair
          have hle := length_le_of_readHex4 hhex
          simp only [hhex, bind, Except.bind] at hread
          split at hread
          · simp only [Except.ok.injEq, Prod.mk.injEq] at hread
            obtain ⟨_, rfl⟩ := hread
            simp only [List.length_cons]
            omega
          · simp at hread
    · simp at hread

/-- An escape takes at least one byte. -/
theorem length_lt_of_readEscape {bs rest : Input} {c : Char}
    (hread : readEscape bs = .ok (c, rest)) : rest.length < bs.length := by
  unfold readEscape at hread
  split at hread
  · simp at hread
  · rename_i b more
    split at hread
    · cases hhex : readHex4 more with
      | error e => simp [hhex, bind, Except.bind] at hread
      | ok pair =>
          obtain ⟨n, after⟩ := pair
          have hle := length_le_of_readHex4 hhex
          simp only [hhex, bind, Except.bind] at hread
          split at hread
          · simp only [Except.ok.injEq, Prod.mk.injEq] at hread
            obtain ⟨_, rfl⟩ := hread
            simp only [List.length_cons]
            omega
          · split at hread
            · have hlow := length_le_of_readLowHalf hread
              simp only [List.length_cons]
              omega
            · simp at hread
    · split at hread
      · cases hread
        simp
      · simp at hread

/-- The bytes of a text up to its closing quote, put in front of those read
before in reverse. -/
def textBytes (read : List UInt8) (bs : Input) : Except Fault (List UInt8 × Input) :=
  match bs with
  | [] => .error .cutShort
  | b :: rest =>
      if b = byteOf '"' then .ok (read.reverse, rest)
      else if b = byteOf '\\' then
        match _hread : readEscape rest with
        | .error fault => .error fault
        | .ok (c, after) => textBytes ((String.utf8EncodeChar c).reverse ++ read) after
      else if b < 0x20 then .error .malformed
      else textBytes (b :: read) rest
termination_by bs.length
decreasing_by
  · have := length_lt_of_readEscape _hread
    simp only [List.length_cons]
    omega
  · simp

/-- A text, its opening quote already taken. Bytes that write no text are
malformed. -/
def readText (bs : Input) : Except Fault (String × Input) := do
  let (written, rest) ← textBytes [] bs
  match decode? written with
  | some cs => .ok (String.ofList cs, rest)
  | none => .error .malformed

end SignedAccess.Json
