/-
# JSON in writing

The compact form has no blanks. The spread form puts each member and each item
on a line of its own, two spaces deeper than its brackets, and leaves empty
brackets closed. Text escapes quotes, backslashes and control characters and
keeps everything else, delete included, as it is.
-/

import SignedAccess.Json.Value
import SignedAccess.Decimal.Shortest
import SignedAccess.Text.Hex
import SignedAccess.Text.Utf8

namespace SignedAccess.Json

open Text

/-- One character of a text in writing. -/
def charWritten (c : Char) : List Char :=
  match c with
  | '"' => ['\\', '"']
  | '\\' => ['\\', '\\']
  | '\x08' => ['\\', 'b']
  | '\t' => ['\\', 't']
  | '\n' => ['\\', 'n']
  | '\x0c' => ['\\', 'f']
  | '\r' => ['\\', 'r']
  | c =>
      if c.toNat < 0x20 then
        ['\\', 'u', '0', '0', hexDigit (c.toNat / 16), hexDigit (c.toNat % 16)]
      else [c]

/-- A text between quotes. -/
def textWritten (s : String) : List Char := '"' :: s.toList.flatMap charWritten ++ ['"']

/-- A whole number in decimal digits, with a sign when it is negative. -/
def wholeWritten (n : Int) : List Char :=
  if n < 0 then '-' :: decimal n.natAbs else decimal n.natAbs

/-- A number in writing. -/
def Number.written : Number → List Char
  | .whole n => wholeWritten n
  | .real x => x.written

mutual

/-- A value in compact form. -/
def Value.written : Value → List Char
  | .null => ['n', 'u', 'l', 'l']
  | .boolean true => ['t', 'r', 'u', 'e']
  | .boolean false => ['f', 'a', 'l', 's', 'e']
  | .number n => n.written
  | .text s => textWritten s
  | .array items => '[' :: itemsWritten items ++ [']']
  | .object members => '\x7b' :: membersWritten members ++ ['\x7d']

/-- Items with commas between them. -/
def itemsWritten : List Value → List Char
  | [] => []
  | [v] => v.written
  | v :: next :: rest => v.written ++ ',' :: itemsWritten (next :: rest)

/-- Members with commas between them. -/
def membersWritten : List (String × Value) → List Char
  | [] => []
  | [(name, v)] => textWritten name ++ ':' :: v.written
  | (name, v) :: next :: rest =>
      textWritten name ++ ':' :: (v.written ++ ',' :: membersWritten (next :: rest))

end

/-- A value in compact form, as a string. -/
def Value.compact (v : Value) : String := String.ofList v.written

/-- A value in compact form, as bytes. -/
def Value.bytes (v : Value) : List UInt8 := encode v.written

/-- A new line and the blanks before what stands on it. -/
def newLine (depth : Nat) : List Char := '\n' :: List.replicate (2 * depth) ' '

mutual

/-- A value in spread form, its brackets standing at a depth. -/
def Value.spread (depth : Nat) : Value → List Char
  | .array [] => ['[', ']']
  | .array (first :: rest) =>
      '[' :: itemsSpread (depth + 1) (first :: rest) ++ newLine depth ++ [']']
  | .object [] => ['\x7b', '\x7d']
  | .object (first :: rest) =>
      '\x7b' :: membersSpread (depth + 1) (first :: rest) ++ newLine depth ++ ['\x7d']
  | v => v.written

/-- Items, each on a line of its own. -/
def itemsSpread (depth : Nat) : List Value → List Char
  | [] => []
  | [v] => newLine depth ++ v.spread depth
  | v :: next :: rest => newLine depth ++ v.spread depth ++ ',' :: itemsSpread depth (next :: rest)

/-- Members, each on a line of its own. -/
def membersSpread (depth : Nat) : List (String × Value) → List Char
  | [] => []
  | [(name, v)] => newLine depth ++ textWritten name ++ ':' :: ' ' :: v.spread depth
  | (name, v) :: next :: rest =>
      newLine depth ++ textWritten name ++
        ':' :: ' ' :: (v.spread depth ++ ',' :: membersSpread depth (next :: rest))

end

/-- A value in spread form, as a string. -/
def Value.pretty (v : Value) : String := String.ofList (v.spread 0)

end SignedAccess.Json
