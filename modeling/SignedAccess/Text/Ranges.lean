/-
# Sets of numbers by their bounds

A set of code points is given by the numbers at which membership changes, in
rising order. Below the first of them nothing is in the set, and every bound
turns membership around.
-/

namespace SignedAccess.Text

/-- Whether membership has changed an odd number of times up to this number. -/
def crossed (bounds : Array Nat) (n : Nat) : Bool :=
  bounds.foldl (fun inside bound => if bound ≤ n then !inside else inside) false

/-- The entry of a table in rising order that holds from its number on: the last
one whose number is not past the given one. -/
def entryAt? {α : Type} (table : List (Nat × α)) (n : Nat) : Option α :=
  match table with
  | [] => none
  | (start, value) :: rest => if start ≤ n then some ((entryAt? rest n).getD value) else none

end SignedAccess.Text
