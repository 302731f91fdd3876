/-
# Keys made from file names

A key is a front part, sixteen random bytes written as a random identifier, and
what is left of the file name. Of the name only what follows the last slash or
backslash counts; blanks around it go, every character outside letters, digits
and `.`, `_`, `-` becomes an underscore, and points at the start go.
-/

import SignedAccess.Text.Blank
import SignedAccess.Text.Hex

namespace SignedAccess

open Text

/-- Sixteen bytes. -/
structure RandomBytes where
  bytes : List UInt8
  length_eq : bytes.length = 16

/-- The bytes with the six bits that mark a random identifier put in. -/
def RandomBytes.marked (r : RandomBytes) : List UInt8 :=
  r.bytes.mapIdx fun i b =>
    if i = 6 then (b &&& 0x0f) ||| 0x40 else if i = 8 then (b &&& 0x3f) ||| 0x80 else b

/-- A random identifier: groups of 8, 4, 4, 4 and 12 hexadecimal digits. -/
def RandomBytes.identifier (r : RandomBytes) : List Char :=
  let ds := toHex r.marked
  let group (start length : Nat) : List Char := (ds.drop start).take length
  ['-'].intercalate [group 0 8, group 8 4, group 12 4, group 16 4, group 20 12]

/-- A character that a key keeps. -/
def isKeyChar (c : Char) : Bool := c.isAlphanum || c == '.' || c == '_' || c == '-'

/-- What follows the last slash or backslash. -/
def baseName (filename : List Char) : List Char :=
  (filename.reverse.takeWhile fun c => c != '/' && c != '\\').reverse

/-- What is left of a file name. -/
def safeName (filename : List Char) : List Char :=
  ((trim (baseName filename)).map fun c => if isKeyChar c then c else '_').dropWhile (· == '.')

/-- The key for a file name. -/
def deriveKey (front filename : String) (random : RandomBytes) : String :=
  let name := safeName filename.toList
  let tail := if name.isEmpty then [] else '-' :: name
  String.ofList (front.toList ++ random.identifier ++ tail)

end SignedAccess
