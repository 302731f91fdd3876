/-
# Hosts

A host is a name, four bytes or eight groups of sixteen bits. In the schemes
that know about hosts a name is a domain name, whose characters may be escaped,
and it is kept in ASCII; a name whose last label is a number must be four bytes,
in any of their old spellings. In other schemes a name is kept as it is written.
A name that is empty stands for no host.
-/

import SignedAccess.Text.Blank
import SignedAccess.Text.Percent
import SignedAccess.Text.Integer
import SignedAccess.Domain.Ascii

namespace SignedAccess

open Text

/-- Who an address points at. -/
inductive Host
  | name (text : String)
  | bytes4 (value : Nat)
  | groups8 (groups : List Nat)
  deriving DecidableEq, Repr, Inhabited

/-- Why an address was not read. -/
inductive AddressFault
  | noScheme
  | emptyHost
  | badPort
  | badBytes4
  | badGroups8
  | badName
  | badHostCharacter
  deriving DecidableEq, Repr

/-- The wording of a fault. -/
def AddressFault.message : AddressFault → String
  | .noScheme => "relative URL without a base"
  | .emptyHost => "empty host"
  | .badPort => "invalid port number"
  | .badBytes4 => "invalid IPv4 address"
  | .badGroups8 => "invalid IPv6 address"
  | .badName => "invalid international domain name"
  | .badHostCharacter => "invalid domain character"

namespace Host

/-! ### Writing -/

/-- Four bytes in decimal with points between them. -/
def bytes4Written (value : Nat) : List Char :=
  ['.'].intercalate
    ([value / 16777216 % 256, value / 65536 % 256, value / 256 % 256, value % 256].map decimal)

/-- Where the longest run of at least two zero groups starts and how long it
is; of equal runs the first. -/
def longestRun (groups : List Nat) : Option (Nat × Nat) :=
  let runAt (i : Nat) : Nat := ((groups.drop i).takeWhile (· == 0)).length
  let better (best : Option (Nat × Nat)) (i : Nat) : Option (Nat × Nat) :=
    let length := runAt i
    if length < 2 then best
    else
      match best with
      | some (_, most) => if most < length then some (i, length) else best
      | none => some (i, length)
  (List.range groups.length).foldl better none

/-- Eight groups in hexadecimal, the longest run of zeros left out. -/
def groups8Written (groups : List Nat) : List Char :=
  let joined (gs : List Nat) : List Char := [':'].intercalate (gs.map hexOfNat)
  match longestRun groups with
  | some (start, length) =>
      joined (groups.take start) ++ [':', ':'] ++ joined (groups.drop (start + length))
  | none => joined groups

/-- A host in writing. -/
def written : Host → List Char
  | .name text => text.toList
  | .bytes4 value => bytes4Written value
  | .groups8 groups => '[' :: groups8Written groups ++ [']']

/-- The host stands for no host. -/
def isEmpty : Host → Bool
  | .name text => text.isEmpty
  | _ => false

/-! ### Reading -/

/-- The first number that four bytes cannot hold. -/
def bytes4Limit : Nat := 4294967296

/-- A number of at most four bytes in one of the old spellings: decimal, octal after a
zero, hexadecimal after `0x`. The outer option tells whether it is a number at
all, the inner one whether it is small enough. -/
def oldNumber? (text : List Char) : Option (Option Nat) :=
  let inBase (base : Nat) (cs : List Char) : Option (Option Nat) :=
    if cs.all fun c => ((hexValue? c).map (decide <| · < base)).getD false then
      let n := cs.foldl (fun n c => base * n + (hexValue? c).getD 0) 0
      some (if n < bytes4Limit then some n else none)
    else none
  match text with
  | [] => none
  | '0' :: 'x' :: rest => if rest.isEmpty then some (some 0) else inBase 16 rest
  | '0' :: 'X' :: rest => if rest.isEmpty then some (some 0) else inBase 16 rest
  | '0' :: c :: rest => inBase 8 (c :: rest)
  | cs => inBase 10 cs

/-- The labels of a name, without an empty one at the end. -/
def labels (text : List Char) : List (List Char) :=
  let all := fields (· == '.') text
  if all.getLast? = some [] then all.dropLast else all

/-- The last label of the name is a number. -/
def endsInNumber (text : List Char) : Bool :=
  match (labels text).getLast? with
  | some last => (!last.isEmpty && last.all Char.isDigit) || (oldNumber? last).isSome
  | none => false

/-- Four bytes written as one to four numbers, the last of which fills the
bytes that the others leave. -/
def bytes4? (text : List Char) : Option Nat := do
  let numbers ← (labels text).mapM fun label => (oldNumber? label).join
  let last ← numbers.getLast?
  let front := numbers.dropLast
  if 3 < front.length then none
  else if front.any (255 < ·) then none
  else if Nat.pow 256 (4 - front.length) ≤ last then none
  else
    let leading := (front.zipIdx).foldl (fun sum (n, i) => sum + n * Nat.pow 256 (3 - i)) 0
    some (leading + last)

/-- One group of at most four hexadecimal digits. -/
def group? (text : List Char) : Option Nat :=
  if text.isEmpty ∨ 4 < text.length then none
  else (text.mapM hexValue?).map fun values => values.foldl (fun n v => 16 * n + v) 0

/-- Four decimal bytes without leading zeros, as two groups. -/
def pointed? (text : List Char) : Option (List Nat) := do
  let parts := fields (· == '.') text
  if parts.length ≠ 4 then none
  else
    let values ← parts.mapM fun part =>
      if part.isEmpty ∨ !part.all Char.isDigit ∨ (part.length ≠ 1 ∧ part.head? = some '0') then none
      else
        match readNat 255 part with
        | .ok n => some n
        | .error _ => none
    match values with
    | [a, b, c, d] => some [256 * a + b, 256 * c + d]
    | _ => none

/-- Groups with colons between them, the last of which may be four decimal
bytes where that is allowed. -/
def groupList? (mayPoint : Bool) (text : List Char) : Option (List Nat) :=
  if text.isEmpty then some []
  else do
    let parts := fields (· == ':') text
    let front ← parts.dropLast.mapM group?
    let last := parts.getLast?.getD []
    if mayPoint && last.contains '.' then return front ++ (← pointed? last)
    else return front ++ [← group? last]

/-- The text before and after the first pair of colons. -/
def cutColons : List Char → Option (List Char × List Char)
  | ':' :: ':' :: rest => some ([], rest)
  | c :: rest => (cutColons rest).map fun (before, after) => (c :: before, after)
  | [] => none

/-- Eight groups, with one pair of colons for a run of zeros. -/
def groups8? (text : List Char) : Option (List Nat) :=
  match cutColons text with
  | some (before, after) => do
      let front ← groupList? false before
      let back ← groupList? true after
      let count := front.length + back.length
      if 7 < count then none
      else some (front ++ List.replicate (8 - count) 0 ++ back)
  | none => do
      let groups ← groupList? true text
      if groups.length = 8 then some groups else none

/-- A character that no name may hold. -/
def isForbidden (c : Char) : Bool :=
  c.toNat ≤ 0x20 || 0x7f ≤ c.toNat ||
    ['%', '#', '/', ':', '<', '>', '?', '@', '[', '\\', ']', '^', '|'].contains c

/-- Groups between brackets, when the text begins with a bracket. -/
def bracketed? (text : List Char) : Option (Except AddressFault Host) :=
  match text with
  | '[' :: rest =>
      if rest.getLast? = some ']' then
        match groups8? rest.dropLast with
        | some groups => some (.ok (.groups8 groups))
        | none => some (.error .badGroups8)
      else some (.error .badGroups8)
  | _ => none

/-- The host of a scheme that knows about hosts. -/
def read (text : List Char) : Except AddressFault Host :=
  match bracketed? text with
  | some result => result
  | none =>
      match (decode? (unescape text)).bind Domain.toAscii? with
      | none => .error .badName
      | some cs =>
          if cs.any isForbidden then .error .badName
          else if cs.isEmpty then .error .emptyHost
          else if endsInNumber cs then
            match bytes4? cs with
            | some value => .ok (.bytes4 value)
            | none => .error .badBytes4
          else .ok (.name (String.ofList cs))

/-- A byte that stands for itself in the host of any other scheme. -/
def isBare (b : UInt8) : Bool := 0x20 ≤ b && b < 0x7f

/-- The host of any other scheme. -/
def readVerbatim (text : List Char) : Except AddressFault Host :=
  match bracketed? text with
  | some result => result
  | none =>
      if text.any ['\x00', '\t', '\n', '\r', ' ', '#', '/', ':', '<', '>', '?', '@', '[', '\\',
          ']', '^', '|'].contains then .error .badHostCharacter
      else .ok (.name (String.ofList (escape isBare text)))

end Host

end SignedAccess
