/-
# Plain text

A terminal takes some characters for commands: an escape character opens a
sequence that says how what follows is shown, and most control characters do
something instead of being shown. `plain` leaves of a text what a reader sees.
Line ends, tabs, form feeds and carriage returns stay, and one of them ends a
sequence that it stands in, unless the sequence carries a text of its own.
-/

namespace SignedAccess.Text

/-- How far a sequence has come after its escape character. -/
inductive Sequence
  /-- Nothing has followed yet. -/
  | opened
  /-- Signs between space and slash have followed. -/
  | prepared
  /-- An opening bracket has followed, and numbers may. -/
  | numbered
  /-- A text for a device has been announced. -/
  | device
  | deviceNumbered
  | devicePrepared
  /-- A text that only another sequence ends, or the byte `9C`. -/
  | carried
  /-- A text that a bell may end too. -/
  | titled
  deriving DecidableEq, Repr

/-- A control character that places what follows. -/
def isPlacing (c : Char) : Bool := c == '\t' || c == '\n' || c == '\x0c' || c == '\r'

/-- A character that stays where no sequence is open. -/
def isSeen (c : Char) : Bool := isPlacing c || (0x20 ≤ c.toNat && c.toNat != 0x7f)

namespace Sequence

/-- A control character that places what follows ends the sequence. -/
def yields : Sequence → Bool
  | opened | prepared | numbered => true
  | _ => false

/-- What is open after one more character, none when the sequence ends. -/
def next (s : Sequence) (c : Char) : Option Sequence :=
  let between (low high : Nat) : Bool := low ≤ c.toNat && c.toNat ≤ high
  match s with
  | opened =>
      if between 0x20 0x2f then some prepared
      else if c == '[' then some numbered
      else if c == ']' then some titled
      else if c == 'P' then some device
      else if c == 'X' || c == '^' || c == '_' then some carried
      else if between 0x30 0x7e then none
      else some opened
  | prepared => if between 0x30 0x7e then none else some prepared
  | numbered => if between 0x40 0x7e then none else some numbered
  | device =>
      if between 0x20 0x2f then some devicePrepared
      else if between 0x30 0x3f then some deviceNumbered
      else if between 0x40 0x7e then some carried
      else some device
  | deviceNumbered =>
      if between 0x20 0x2f then some devicePrepared
      else if between 0x3c 0x7e then some carried
      else some deviceNumbered
  | devicePrepared => if between 0x30 0x7e then some carried else some devicePrepared
  | carried => if (String.utf8EncodeChar c).contains 0x9c then none else some carried
  | titled => if c == '\x07' then none else some titled

end Sequence

/-- What a reader sees of a text that begins inside a sequence or outside. -/
def plainFrom : Option Sequence → List Char → List Char
  | _, [] => []
  | state, c :: rest =>
      if c == '\x1b' then plainFrom (some .opened) rest
      else if c == '\x18' || c == '\x1a' then plainFrom none rest
      else
        match state with
        | none => if isSeen c then c :: plainFrom none rest else plainFrom none rest
        | some s =>
            if s.yields && isPlacing c then c :: plainFrom none rest
            else plainFrom (s.next c) rest

/-- What a reader sees of a text. -/
def plain (cs : List Char) : List Char := plainFrom none cs

/-- What a reader sees of a string. -/
def plainString (s : String) : String := String.ofList (plain s.toList)

/-- The first line of a text, without a carriage return before its end. -/
def firstLine (cs : List Char) : List Char :=
  let line := cs.takeWhile (· != '\n')
  if line.length < cs.length ∧ line.getLast? = some '\r' then line.dropLast else line

end SignedAccess.Text
