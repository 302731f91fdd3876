/-
# Why a text was not read

A text is read from left to right and the first fault met is the one reported.
It may be cut short, it may be malformed, or it may be sound so far and not
have the shape that was asked for. A mismatch says what was met and what was
expected, and where inside the value that was.
-/

import SignedAccess.Json.Printer
import SignedAccess.Text.Quoted

namespace SignedAccess.Json

open Text

/-- What was met in a text. -/
inductive Met
  | null
  | boolean (b : Bool)
  | number (n : Number)
  | text (s : String)
  | sequence
  | map
  deriving DecidableEq, Repr

/-- What was met, in words. -/
def Met.words : Met → String
  | .null => "null"
  | .boolean b => "boolean `" ++ (if b then "true" else "false") ++ "`"
  | .number (.whole n) => "integer `" ++ String.ofList (wholeWritten n) ++ "`"
  | .number (.real x) => "floating point `" ++ String.ofList x.written ++ "`"
  | .text s => "string " ++ quote s
  | .sequence => "sequence"
  | .map => "map"

/-- What a value looks like from outside. -/
def Value.met : Value → Met
  | .null => .null
  | .boolean b => .boolean b
  | .number n => .number n
  | .text s => .text s
  | .array _ => .sequence
  | .object _ => .map

/-- How a value differs from the shape asked for. -/
inductive Mismatch
  | wrongType (met : Met) (expected : String)
  | wrongValue (met : Met) (expected : String)
  | missing (name : String)
  | repeated (name : String)
  | tooFew (count : Nat) (expected : String)
  deriving DecidableEq, Repr

/-- The wording of a mismatch. -/
def Mismatch.message : Mismatch → String
  | .wrongType met expected => "invalid type: " ++ met.words ++ ", expected " ++ expected
  | .wrongValue met expected => "invalid value: " ++ met.words ++ ", expected " ++ expected
  | .missing name => "missing field `" ++ name ++ "`"
  | .repeated name => "duplicate field `" ++ name ++ "`"
  | .tooFew count expected =>
      "invalid length " ++ String.ofList (decimal count) ++ ", expected " ++ expected

/-- A step from a value into one of its parts. -/
inductive Step
  | member (name : String)
  | item (index : Nat)
  deriving DecidableEq, Repr

/-- A way from a value to a part inside it, in writing. -/
def pathWritten : List Step → String
  | [] => ""
  | .member name :: [] => name
  | .item index :: [] => "[" ++ String.ofList (decimal index) ++ "]"
  | .member name :: .member next :: rest => name ++ "." ++ pathWritten (.member next :: rest)
  | .member name :: .item index :: rest => name ++ pathWritten (.item index :: rest)
  | .item index :: .member next :: rest =>
      "[" ++ String.ofList (decimal index) ++ "]." ++ pathWritten (.member next :: rest)
  | .item index :: .item next :: rest =>
      "[" ++ String.ofList (decimal index) ++ "]" ++ pathWritten (.item next :: rest)

/-- The first fault met in a text. -/
inductive Fault
  | cutShort
  | malformed
  | mismatch (path : List Step) (reason : Mismatch)
  deriving DecidableEq, Repr

/-- A mismatch at the value itself. -/
def Fault.here (reason : Mismatch) : Fault := .mismatch [] reason

/-- The same fault as it is seen from one step further out. -/
def Fault.inside (step : Step) : Fault → Fault
  | .mismatch path reason => .mismatch (step :: path) reason
  | fault => fault

/-- The result of a reader applied to a part, with faults seen from outside. -/
def within {α : Type} (step : Step) : Except Fault α → Except Fault α
  | .ok a => .ok a
  | .error fault => .error (fault.inside step)

end SignedAccess.Json
