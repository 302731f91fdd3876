/-
# Text as bytes

Characters are written in UTF-8. Reading is strict in `decode?`, which refuses
bytes that are no text, and forgiving in `decodeLossy`, which puts one
replacement character for each longest broken piece, so that bytes that are
text are read back by both in the same way.
-/

namespace SignedAccess.Text

/-- The bytes of a text in UTF-8. -/
def encode (cs : List Char) : List UInt8 := cs.flatMap String.utf8EncodeChar

/-- The bytes of a string in UTF-8. -/
def bytes (s : String) : List UInt8 := encode s.toList

/-- The payload of a continuation byte. -/
def tail? (b : UInt8) : Option Nat :=
  if 0x80 ≤ b.toNat ∧ b.toNat ≤ 0xBF then some (b.toNat - 0x80) else none

/-- The character written at the head of the bytes and the bytes after it.
Forms that are longer than needed, surrogates and numbers past the last code
point are refused. -/
def readChar? : List UInt8 → Option (Char × List UInt8)
  | [] => none
  | a :: rest =>
      let n := a.toNat
      if n < 0x80 then some (Char.ofNat n, rest)
      else if n < 0xC2 then none
      else if n < 0xE0 then
        match rest with
        | b :: rest => do
            let y ← tail? b
            some (Char.ofNat ((n - 0xC0) * 64 + y), rest)
        | _ => none
      else if n < 0xF0 then
        match rest with
        | b :: c :: rest => do
            let y ← tail? b
            let z ← tail? c
            let v := ((n - 0xE0) * 64 + y) * 64 + z
            if v < 0x800 ∨ (0xD800 ≤ v ∧ v < 0xE000) then none
            else some (Char.ofNat v, rest)
        | _ => none
      else if n < 0xF5 then
        match rest with
        | b :: c :: d :: rest => do
            let y ← tail? b
            let z ← tail? c
            let w ← tail? d
            let v := (((n - 0xF0) * 64 + y) * 64 + z) * 64 + w
            if v < 0x10000 ∨ 0x110000 ≤ v then none else some (Char.ofNat v, rest)
        | _ => none
      else none

theorem length_lt_of_readChar? {bs rest : List UInt8} {c : Char}
    (hread : readChar? bs = some (c, rest)) : rest.length < bs.length := by
  unfold readChar? at hread
  split at hread
  · simp at hread
  · simp only at hread
    split at hread
    · simp_all
    · split at hread
      · simp at hread
      · split at hread
        · split at hread
          · simp only [Option.bind_eq_bind, Option.bind_eq_some_iff, Option.some.injEq,
              Prod.mk.injEq] at hread
            obtain ⟨_, _, _, rfl⟩ := hread
            simp only [List.length_cons]
            omega
          · simp at hread
        · split at hread
          · split at hread
            · simp only [Option.bind_eq_bind, Option.bind_eq_some_iff] at hread
              obtain ⟨_, _, _, _, hread⟩ := hread
              split at hread
              · simp at hread
              · simp only [Option.some.injEq, Prod.mk.injEq] at hread
                obtain ⟨_, rfl⟩ := hread
                simp only [List.length_cons]
                omega
            · simp at hread
          · split at hread
            · split at hread
              · simp only [Option.bind_eq_bind, Option.bind_eq_some_iff] at hread
                obtain ⟨_, _, _, _, _, _, hread⟩ := hread
                split at hread
                · simp at hread
                · simp only [Option.some.injEq, Prod.mk.injEq] at hread
                  obtain ⟨_, rfl⟩ := hread
                  simp only [List.length_cons]
                  omega
              · simp at hread
            · simp at hread

/-- The text that the bytes write, none when they write no text. -/
def decode? (bs : List UInt8) : Option (List Char) :=
  match bs with
  | [] => some []
  | b :: more =>
      match _hread : readChar? (b :: more) with
      | none => none
      | some (c, rest) => (decode? rest).map (c :: ·)
termination_by bs.length
decreasing_by exact length_lt_of_readChar? _hread

/-- How many bytes at the head are the start of a character that then breaks
off; at least one, as a byte that starts no character is broken by itself. -/
def brokenLength : List UInt8 → Nat
  | [] => 0
  | [_] => 1
  | a :: b :: rest =>
      let n := a.toNat
      let m := b.toNat
      let inRange (low high : Nat) : Bool := low ≤ m && m ≤ high
      let more (needed : Nat) : Nat :=
        2 + ((rest.take needed).takeWhile (fun d => (tail? d).isSome)).length
      if n == 0xE0 then if inRange 0xA0 0xBF then more 0 else 1
      else if n == 0xED then if inRange 0x80 0x9F then more 0 else 1
      else if 0xE1 ≤ n && n ≤ 0xEF then if inRange 0x80 0xBF then more 0 else 1
      else if n == 0xF0 then if inRange 0x90 0xBF then more 1 else 1
      else if 0xF1 ≤ n && n ≤ 0xF3 then if inRange 0x80 0xBF then more 1 else 1
      else if n == 0xF4 then if inRange 0x80 0x8F then more 1 else 1
      else 1

/-- The text that the bytes write, with U+FFFD for each broken piece. -/
def decodeLossy (bs : List UInt8) : List Char :=
  match bs with
  | [] => []
  | b :: more =>
      match _hread : readChar? (b :: more) with
      | some (c, rest) => c :: decodeLossy rest
      | none => '\uFFFD' :: decodeLossy (more.drop (brokenLength (b :: more) - 1))
termination_by bs.length
decreasing_by
  · exact length_lt_of_readChar? _hread
  · simp only [List.length_drop, List.length_cons]
    omega

/-- The pieces of the bytes that are text and the broken bytes between them:
each entry is either one character or one byte that belongs to none. -/
def chunks (bs : List UInt8) : List (Char ⊕ UInt8) :=
  match bs with
  | [] => []
  | b :: more =>
      match _hread : readChar? (b :: more) with
      | some (c, rest) => .inl c :: chunks rest
      | none => .inr b :: chunks more
termination_by bs.length
decreasing_by
  · exact length_lt_of_readChar? _hread
  · simp

end SignedAccess.Text
