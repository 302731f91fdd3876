/-
# Labels in their ASCII form

A label with characters outside ASCII has a form without them. The form tells
the ASCII characters, and then at which places the others are put in, in the
order of their numbers: the steps from one to the next are numbers in base
thirty-six whose digits end themselves, and the point at which they end is moved
as the steps grow or shrink. A form that tells of no such characters is the form
of no label.
-/

import SignedAccess.Text.Blank

namespace SignedAccess.Domain.Label

open Text

/-- The value of a digit, letters first. -/
def digit? (c : Char) : Option Nat :=
  if 'a' ≤ c ∧ c ≤ 'z' then some (c.toNat - 'a'.toNat)
  else if '0' ≤ c ∧ c ≤ '9' then some (c.toNat - '0'.toNat + 26)
  else none

/-- The digit of a value below thirty-six, letters first. -/
def digit (value : Nat) : Char :=
  if value < 26 then Char.ofNat ('a'.toNat + value) else Char.ofNat ('0'.toNat + (value - 26))

theorem digit?_digit {value : Nat} (hvalue : value < 36) : digit? (digit value) = some value := by
  have hall : ∀ v ∈ List.range 36, digit? (digit v) = some v := by decide
  exact hall value (List.mem_range.2 hvalue)

/-- How far a step is scaled down, and the weight of the scaling. -/
def scaledDown (step weight : Nat) : Nat × Nat :=
  if 455 < step then scaledDown (step / 35) (weight + 36) else (step, weight)
termination_by step

/-- Where digits end themselves after a step in a label of some length. -/
def biasAfter (step length : Nat) (isFirst : Bool) : Nat :=
  let halved := if isFirst then step / 700 else step / 2
  let (rest, weight) := scaledDown (halved + halved / length) 0
  weight + 36 * rest / (rest + 38)

/-- From which value on a digit at a position does not end its number. -/
def threshold (bias position : Nat) : Nat :=
  if position ≤ bias then 1
  else if bias + 26 ≤ position then 26
  else position - bias

theorem one_le_threshold (bias position : Nat) : 1 ≤ threshold bias position := by
  unfold threshold
  split
  · omega
  · split <;> omega

theorem threshold_le (bias position : Nat) : threshold bias position ≤ 26 := by
  unfold threshold
  split
  · omega
  · split <;> omega

/-! ### From the form to the label -/

/-- What is known in the middle of a form. -/
structure Draft where
  label : List Nat
  /-- The number of the next character that is put in. -/
  code : Nat
  place : Nat
  bias : Nat
  isFirst : Bool
  /-- The step so far, what its next digit counts for, and its position. -/
  step : Nat
  unit : Nat
  position : Nat

/-- The draft after one more digit. -/
def Draft.next (draft : Draft) (d : Nat) : Option Draft :=
  let bound := threshold draft.bias draft.position
  let step := draft.step + d * draft.unit
  if bound ≤ d then
    some { draft with
      step
      unit := draft.unit * (36 - bound)
      position := draft.position + 36 }
  else
    let length := draft.label.length + 1
    let reached := draft.place + step
    let code := draft.code + reached / length
    let place := reached % length
    if code.isValidChar then
      some {
        label := draft.label.take place ++ code :: draft.label.drop place
        code
        place := place + 1
        bias := biasAfter step length draft.isFirst
        isFirst := false
        step := 0
        unit := 1
        position := 36 }
    else none

/-- The label that a form stands for. -/
def decode? (form : List Char) : Option (List Char) := do
  let (front, back) :=
    match cutLast (· == '-') form with
    | some ([], _) => ([], form)
    | some (front, back) => (front, back)
    | none => ([], form)
  let digits ← back.mapM digit?
  let start : Draft := ⟨front.map (·.toNat), 0x80, 0, 72, true, 0, 1, 36⟩
  let draft ← digits.foldlM Draft.next start
  if draft.position = 36 ∧ !draft.isFirst then some (draft.label.map Char.ofNat) else none

/-! ### From the label to the form -/

/-- The digits of a step, the first of them at a position. -/
def stepDigits (bias position step : Nat) : List Char :=
  let bound := threshold bias position
  if step < bound then [digit step]
  else
    digit (bound + (step - bound) % (36 - bound)) ::
      stepDigits bias (position + 36) ((step - bound) / (36 - bound))
termination_by step
decreasing_by
  have hlow := one_le_threshold bias position
  calc (step - threshold bias position) / (36 - threshold bias position)
      ≤ step - threshold bias position := Nat.div_le_self _ _
    _ < step := by omega

/-- What is known in the middle of writing a form. -/
structure Writing where
  form : List Char
  bias : Nat
  /-- How many characters have been told. -/
  told : Nat
  /-- The step since the last character that was put in. -/
  step : Nat

/-- The form after one character of the label has been passed while those with
one number are put in. A label begins with so many ASCII characters told. -/
def Writing.pass (plain code : Nat) (w : Writing) (c : Char) : Writing :=
  if c.toNat < code then { w with step := w.step + 1 }
  else if c.toNat = code then {
    form := w.form ++ stepDigits w.bias 36 w.step
    bias := biasAfter w.step (w.told + 1) (w.told == plain)
    told := w.told + 1
    step := 0 }
  else w

/-- The form after the characters with each of the numbers, in rising order, have
been put in; `next` is the first number that has not been looked at. -/
def Writing.putIn (plain : Nat) (label : List Char) : List Nat → Nat → Writing → Writing
  | [], _, w => w
  | code :: more, next, w =>
      let w := { w with step := w.step + (code - next) * (w.told + 1) }
      let w := label.foldl (Writing.pass plain code) w
      putIn plain label more (code + 1) { w with step := w.step + 1 }

/-- The numbers with one more, in rising order and each of them once. -/
def insertOnce (n : Nat) : List Nat → List Nat
  | [] => [n]
  | m :: rest => if n < m then n :: m :: rest else if n = m then m :: rest
      else m :: insertOnce n rest

/-- The form of a label. -/
def encode (label : List Char) : List Char :=
  let front := label.filter fun c => c.toNat < 0x80
  let codes := (label.filter fun c => 0x80 ≤ c.toNat).foldr (insertOnce ·.toNat) []
  let start : Writing := ⟨[], 72, front.length, 0⟩
  front ++ (if front.isEmpty then [] else ['-']) ++
    (start.putIn front.length label codes 0x80).form

end SignedAccess.Domain.Label
