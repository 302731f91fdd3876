/-
# Reading values

Brackets may be nested 127 deep in a value that is kept. A value that is passed
over may be nested to any depth; its texts need not be Unicode and a number
that breaks off in it is malformed. Loops have a budget that no input can use
up, because each round takes at least one byte.
-/

import SignedAccess.Json.Scalar

namespace SignedAccess.Json

/-- How deep brackets may be nested. -/
def greatestDepth : Nat := 127

/-- A scalar, or the mark that a bracket begins here, which is left in place. -/
def readMet (bs : Input) : Except Fault (Met × Input) :=
  match skipSpaces bs with
  | [] => .error .cutShort
  | b :: rest =>
      match Char.ofNat b.toNat with
      | 'n' => do .ok (.null, ← afterWord ['u', 'l', 'l'] rest)
      | 't' => do .ok (.boolean true, ← afterWord ['r', 'u', 'e'] rest)
      | 'f' => do .ok (.boolean false, ← afterWord ['a', 'l', 's', 'e'] rest)
      | '"' => do
          let (s, rest) ← readText rest
          .ok (.text s, rest)
      | '[' => .ok (.sequence, b :: rest)
      | '\x7b' => .ok (.map, b :: rest)
      | '-' => do
          let (n, rest) ← readNumber true rest
          .ok (.number n, rest)
      | _ =>
          if isDigit b then do
            let (n, rest) ← readNumber false (b :: rest)
            .ok (.number n, rest)
          else .error .malformed

/-- The input at the next item of a sequence, none at its closing bracket. -/
def nextItem (isFirst : Bool) (bs : Input) : Except Fault (Option Input) :=
  match skipSpaces bs with
  | [] => .error .cutShort
  | b :: rest =>
      if b = byteOf ']' then .ok none
      else if isFirst then .ok (some (b :: rest))
      else if b = byteOf ',' then
        match skipSpaces rest with
        | [] => .error .cutShort
        | next :: more => if next = byteOf ']' then .error .malformed else .ok (some (next :: more))
      else .error .malformed

/-- The input after the closing bracket of a sequence. -/
def endItems (bs : Input) : Except Fault Input :=
  match skipSpaces bs with
  | [] => .error .cutShort
  | b :: rest => if b = byteOf ']' then .ok rest else .error .malformed

/-- The items of a sequence folded onto a state, its opening bracket already
taken. -/
def foldItems {σ : Type} (item : σ → Input → Except Fault (σ × Input)) :
    Nat → Bool → σ → Input → Except Fault (σ × Input)
  | 0, _, _, _ => .error .malformed
  | budget + 1, isFirst, state, bs => do
      match ← nextItem isFirst bs with
      | none => .ok (state, ← endItems bs)
      | some bs =>
          let (state, bs) ← item state bs
          foldItems item budget false state bs

/-- The input after the opening quote of the next member's name, none at the
closing bracket. -/
def nextMember (isFirst : Bool) (bs : Input) : Except Fault (Option Input) :=
  let atQuote : Input → Except Fault (Option Input)
    | [] => .error .cutShort
    | b :: rest => if b = byteOf '"' then .ok (some rest) else .error .malformed
  match skipSpaces bs with
  | [] => .error .cutShort
  | b :: rest =>
      if b = byteOf '\x7d' then .ok none
      else if isFirst then atQuote (b :: rest)
      else if b = byteOf ',' then atQuote (skipSpaces rest)
      else .error .malformed

/-- The input after the closing bracket of an object. -/
def endMembers (bs : Input) : Except Fault Input :=
  match skipSpaces bs with
  | [] => .error .cutShort
  | b :: rest => if b = byteOf '\x7d' then .ok rest else .error .malformed

/-- The input after a colon. -/
def afterColon (bs : Input) : Except Fault Input :=
  match skipSpaces bs with
  | [] => .error .cutShort
  | b :: rest => if b = byteOf ':' then .ok rest else .error .malformed

/-- The members of an object folded onto a state, its opening bracket already
taken. The step is given the name and the input before the colon. -/
def foldMembers {σ : Type} (member : σ → String → Input → Except Fault (σ × Input)) :
    Nat → Bool → σ → Input → Except Fault (σ × Input)
  | 0, _, _, _ => .error .malformed
  | budget + 1, isFirst, state, bs => do
      match ← nextMember isFirst bs with
      | none => .ok (state, ← endMembers bs)
      | some bs =>
          let (name, bs) ← readText bs
          let (state, bs) ← member state name bs
          foldMembers member budget false state bs

/-- A value, whose brackets may only be opened where there is a reader for the values
between them. -/
def readWith (inner : Option (Input → Except Fault (Value × Input))) (bs : Input) :
    Except Fault (Value × Input) := do
  let (met, rest) ← readMet bs
  match met, inner with
  | .null, _ => .ok (.null, rest)
  | .boolean b, _ => .ok (.boolean b, rest)
  | .number n, _ => .ok (.number n, rest)
  | .text s, _ => .ok (.text s, rest)
  | .sequence, none => .error .malformed
  | .map, none => .error .malformed
  | .sequence, some read => do
      let (items, rest) ←
        foldItems
          (fun items bs => do
            let (v, bs) ← read bs
            .ok (v :: items, bs))
          (rest.length + 1) true [] (rest.drop 1)
      .ok (.array items.reverse, rest)
  | .map, some read => do
      let (members, rest) ←
        foldMembers
          (fun members name bs => do
            let (v, bs) ← read (← afterColon bs)
            .ok (put name v members, bs))
          (rest.length + 1) true [] (rest.drop 1)
      .ok (.object members, rest)

/-- A value whose brackets may be nested to a depth. -/
def readValue : Nat → Input → Except Fault (Value × Input)
  | 0 => readWith none
  | depth + 1 => readWith (some (readValue depth))

/-- What a reader made of the whole input: only blanks may follow. -/
def whole {α : Type} : Except Fault (α × Input) → Except Fault α
  | .error fault => .error fault
  | .ok (a, rest) => if skipSpaces rest = [] then .ok a else .error .malformed

/-- The value that the input writes. -/
def Value.read (bs : Input) : Except Fault Value := whole (readValue greatestDepth bs)

/-! ### Values that are passed over -/

/-- The input after at least one digit. -/
def skipDigits (bs : Input) : Except Fault Input :=
  match digits bs with
  | ([], _) => .error .malformed
  | (_, rest) => .ok rest

/-- The input after an exponent, if there is one. -/
def skipExponent (bs : Input) : Except Fault Input :=
  match bs with
  | b :: rest =>
      if isExponentMark b then
        match rest with
        | s :: more => skipDigits (if s = byteOf '+' ∨ s = byteOf '-' then more else s :: more)
        | [] => .error .malformed
      else .ok (b :: rest)
  | [] => .ok []

/-- The input after a number, its minus sign already taken. -/
def skipNumber (bs : Input) : Except Fault Input := do
  let rest ←
    match bs with
    | first :: rest =>
        if first = byteOf '0' then
          if (rest.head?.map isDigit) = some true then .error .malformed else .ok rest
        else skipDigits bs
    | [] => .error .malformed
  match rest with
  | b :: more => if b = byteOf '.' then do skipExponent (← skipDigits more) else skipExponent rest
  | [] => .ok []

/-- The input after the closing quote of a text. -/
def skipText (bs : Input) : Except Fault Input :=
  match bs with
  | [] => .error .cutShort
  | b :: rest =>
      if b = byteOf '"' then .ok rest
      else if b = byteOf '\\' then
        match rest with
        | [] => .error .cutShort
        | e :: after =>
            if e = byteOf 'u' then
              match readHex4 after with
              | .error fault => .error fault
              | .ok _ => skipText (after.drop 4)
            else if (shortEscape? e).isSome then skipText after
            else .error .malformed
      else if b < 0x20 then .error .malformed
      else skipText rest
termination_by bs.length
decreasing_by
  all_goals simp only [List.length_cons, List.length_drop]; omega

/-- What may come next in a value that is passed over. -/
inductive Expecting
  | value
  | name
  | next
  deriving DecidableEq

/-- The input after a value that is passed over. The list holds the brackets
that are still open, the innermost first, `true` standing for an object's. -/
def skipFrom : Nat → Expecting → List Bool → Input → Except Fault Input
  | 0, _, _, _ => .error .malformed
  | _ + 1, .next, [], bs => .ok bs
  | budget + 1, .next, isObject :: outer, bs =>
      match skipSpaces bs with
      | [] => .error .cutShort
      | b :: rest =>
          if b = byteOf ',' then
            skipFrom budget (if isObject then .name else .value) (isObject :: outer) rest
          else if b = byteOf (if isObject then '\x7d' else ']') then
            skipFrom budget .next outer rest
          else .error .malformed
  | budget + 1, .name, opened, bs =>
      match skipSpaces bs with
      | [] => .error .cutShort
      | b :: rest =>
          if b = byteOf '"' then do
            skipFrom budget .value opened (← afterColon (← skipText rest))
          else .error .malformed
  | budget + 1, .value, opened, bs =>
      match skipSpaces bs with
      | [] => .error .cutShort
      | b :: rest =>
          let opening (isObject : Bool) : Except Fault Input :=
            match skipSpaces rest with
            | [] => .error .cutShort
            | c :: more =>
                if c = byteOf (if isObject then '\x7d' else ']') then
                  skipFrom budget .next opened more
                else
                  skipFrom budget (if isObject then .name else .value) (isObject :: opened)
                    (c :: more)
          let after : Except Fault Input → Except Fault Input
            | .ok rest => skipFrom budget .next opened rest
            | .error fault => .error fault
          match Char.ofNat b.toNat with
          | 'n' => after (afterWord ['u', 'l', 'l'] rest)
          | 't' => after (afterWord ['r', 'u', 'e'] rest)
          | 'f' => after (afterWord ['a', 'l', 's', 'e'] rest)
          | '"' => after (skipText rest)
          | '-' => after (skipNumber rest)
          | '[' => opening false
          | '\x7b' => opening true
          | _ => if isDigit b then after (skipNumber (b :: rest)) else .error .malformed

/-- The input after a value that is passed over. -/
def skipValue (bs : Input) : Except Fault Input :=
  skipFrom (2 * bs.length + 2) .value [] bs

end SignedAccess.Json
