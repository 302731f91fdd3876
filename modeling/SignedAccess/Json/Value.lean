/-
# JSON values

A number is a whole number or a finite binary fraction, and the two are
different values even when they are equal in size. An object holds its members
in rising order of their names. `put` keeps that order, and a name that comes
again replaces the earlier value, so the last of two equal names wins.
-/

import SignedAccess.Decimal.Binary64

namespace SignedAccess.Json

open Decimal

/-- A number as it is kept: whole, from `-2 ^ 63` to `2 ^ 64 - 1`, or a binary
fraction. -/
inductive Number
  | whole (n : Int)
  | real (x : Binary64)
  deriving DecidableEq, Repr

/-- A JSON value. -/
inductive Value
  | null
  | boolean (b : Bool)
  | number (n : Number)
  | text (s : String)
  | array (items : List Value)
  | object (members : List (String × Value))
  deriving Repr, Inhabited

/-- The members of an object. -/
abbrev Members := List (String × Value)

/-- The members with one more at its place in the order; an equal name gives
way. -/
def put (name : String) (value : Value) : Members → Members
  | [] => [(name, value)]
  | (other, kept) :: rest =>
      if name < other then (name, value) :: (other, kept) :: rest
      else if name = other then (name, value) :: rest
      else (other, kept) :: put name value rest

/-- The members written one after the other, put in order. -/
def ordered (written : List (String × Value)) : Members :=
  written.foldl (fun members (name, value) => put name value members) []

/-- The value under a name. -/
def find? (name : String) (members : Members) : Option Value :=
  (members.find? (·.1 == name)).map (·.2)

@[simp]
theorem find?_nil (name : String) : find? name [] = none := rfl

theorem find?_cons (name other : String) (kept : Value) (rest : Members) :
    find? name ((other, kept) :: rest) = if other = name then some kept else find? name rest := by
  unfold find?
  by_cases h : other = name <;> simp [h]

/-- After a value is put under a name it is found there. -/
@[simp]
theorem find?_put_self (name : String) (value : Value) (members : Members) :
    find? name (put name value members) = some value := by
  induction members with
  | nil => simp [put, find?_cons]
  | cons head rest ih =>
      obtain ⟨other, kept⟩ := head
      unfold put
      split
      · simp [find?_cons]
      · rename_i hlt
        split
        · simp [find?_cons]
        · rename_i hne
          rw [find?_cons, if_neg (fun h => hne h.symm), ih]

/-- The values under other names stay. -/
theorem find?_put_of_ne {name asked : String} (hne : name ≠ asked) (value : Value)
    (members : Members) : find? asked (put name value members) = find? asked members := by
  induction members with
  | nil => simp [put, find?_cons, hne]
  | cons head rest ih =>
      obtain ⟨other, kept⟩ := head
      unfold put
      split
      · simp [find?_cons, hne]
      · split
        · rename_i heq
          simp [find?_cons, ← heq, hne]
        · simp only [find?_cons, ih]

/-- A whole number that is known to be small. -/
def Value.ofNat (n : Nat) : Value := .number (.whole n)

/-- Some text or null. -/
def Value.ofText? : Option String → Value
  | none => .null
  | some s => .text s

end SignedAccess.Json
