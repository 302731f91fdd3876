/-
# Reading records

A record is read member by member onto a draft, in the order in which the
members are written, so the first fault of any kind is the one reported. A
member that no field names is passed over, or handed to the record when it
keeps such members. Some records may also be written as a sequence of their
fields.
-/

import SignedAccess.Json.Reader

namespace SignedAccess.Json

open Text

/-- A text, where nothing else will do. -/
def expectText (bs : Input) : Except Fault (String × Input) := do
  match ← readMet bs with
  | (.text s, rest) => .ok (s, rest)
  | (met, _) => .error (.here (.wrongType met "a string"))

/-- The greatest natural number of 32 bits. -/
def greatestCount : Nat := 4294967295

/-- A natural number of 32 bits, where nothing else will do. -/
def expectCount (bs : Input) : Except Fault (Nat × Input) := do
  match ← readMet bs with
  | (.number (.whole n), rest) =>
      if 0 ≤ n ∧ n ≤ greatestCount then .ok (n.toNat, rest)
      else .error (.here (.wrongValue (.number (.whole n)) "u32"))
  | (met, _) => .error (.here (.wrongType met "u32"))

/-- What another reader reads, or null. -/
def orNull {α : Type} (read : Input → Except Fault (α × Input)) (bs : Input) :
    Except Fault (Option α × Input) :=
  match skipSpaces bs with
  | b :: rest =>
      if b = byteOf 'n' then do .ok (none, ← afterWord ['u', 'l', 'l'] rest)
      else do
        let (a, rest) ← read (b :: rest)
        .ok (some a, rest)
  | [] => .error .cutShort

/-- A named part of a record that is read onto a draft `σ`. -/
structure RecordField (σ : Type) where
  name : String
  isSet : σ → Bool
  read : Nat → σ → Input → Except Fault (σ × Input)
  /-- A sequence may end before this field. -/
  mayLack : Bool := false

/-- A fault of the shape, as a fault of the reading. -/
def lifted {α : Type} : Except Mismatch α → Except Fault α
  | .ok a => .ok a
  | .error reason => .error (.here reason)

/-- How a record is read. -/
structure Record (σ α : Type) where
  title : String
  draft : σ
  fields : List (RecordField σ)
  finish : σ → Except Mismatch α
  /-- What becomes of a member that no field names. -/
  keep : Option (σ → String → Value → σ) := none
  /-- The record may be written as a sequence of its fields. -/
  asSequence : Bool := true

namespace Record

variable {σ α : Type}

/-- What the record is called where something else was met. -/
def expected (r : Record σ α) : String := "struct " ++ r.title

/-- One member of a record read onto the draft. -/
def readMember (r : Record σ α) (depth : Nat) (draft : σ) (name : String) (bs : Input) :
    Except Fault (σ × Input) :=
  match r.fields.find? (·.name == name) with
  | some field =>
      if field.isSet draft then .error (.here (.repeated name))
      else do
        let bs ← afterColon bs
        within (.member name) (field.read depth draft bs)
  | none =>
      match r.keep with
      | some keep => do
          let (v, bs) ← readValue depth (← afterColon bs)
          .ok (keep draft name v, bs)
      | none => do .ok (draft, ← skipValue (← afterColon bs))

/-- The number of fields of a record, in words. -/
def lengthWords (r : Record σ α) : String :=
  let count := r.fields.length
  r.expected ++ " with " ++ String.ofList (decimal count) ++
    (if count = 1 then " element" else " elements")

/-- Fields read one after the other as items of a sequence, from a position
on. -/
def readItems (r : Record σ α) (depth index : Nat) (draft : σ) (bs : Input) :
    List (RecordField σ) → Except Fault (σ × Input)
  | [] => .ok (draft, bs)
  | field :: more => do
      match ← nextItem (index == 0) bs with
      | some bs =>
          let (draft, bs) ← within (.item index) (field.read depth draft bs)
          readItems r depth (index + 1) draft bs more
      | none =>
          if field.mayLack then readItems r depth (index + 1) draft bs more
          else .error (.here (.tooFew index r.lengthWords))

/-- A record whose own brackets may stand at a depth. -/
def read (r : Record σ α) (depth : Nat) (bs : Input) : Except Fault (α × Input) := do
  let (met, rest) ← readMet bs
  match met, depth with
  | .map, 0 => .error .malformed
  | .map, depth + 1 =>
      let (draft, rest) ←
        foldMembers (r.readMember depth) (rest.length + 1) true r.draft (rest.drop 1)
      .ok (← lifted (r.finish draft), rest)
  | .sequence, depth =>
      if r.asSequence then
        match depth with
        | 0 => .error .malformed
        | depth + 1 =>
            let (draft, rest) ← r.readItems depth 0 r.draft (rest.drop 1) r.fields
            let a ← lifted (r.finish draft)
            .ok (a, ← endItems rest)
      else .error (.here (.wrongType .sequence r.expected))
  | met, _ => .error (.here (.wrongType met r.expected))

/-- The record that the whole input writes. -/
def readAll (r : Record σ α) (bs : Input) : Except Fault α := whole (r.read greatestDepth bs)

end Record

/-- A part that a record must have. -/
def required {α : Type} (name : String) : Option α → Except Mismatch α
  | some a => .ok a
  | none => .error (.missing name)

end SignedAccess.Json
