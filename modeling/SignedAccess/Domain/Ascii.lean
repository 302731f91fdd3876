/-
# Domain names in ASCII

A name may be written with characters of any script. It is read without regard
to case and to variant forms, its labels must be such as a name may have, and
then every label with characters outside ASCII is written in its ASCII form. A
label that is written in that form already is looked at in full as well, and
must be the form of a label that could have been written in full.
-/

import SignedAccess.Domain.Allowed
import SignedAccess.Domain.Respelling
import SignedAccess.Domain.Mark
import SignedAccess.Domain.Composition
import SignedAccess.Domain.Direction
import SignedAccess.Domain.Joiner
import SignedAccess.Domain.Label

namespace SignedAccess.Domain

open Text

/-- An ASCII character. -/
def isAscii (c : Char) : Bool := c.toNat < 0x80

/-- What a character of a written name stands for, none when no name is written
with it. -/
def fold? (c : Char) : Option (List Char) :=
  if isAscii c then some [c.toLower]
  else if !isAllowed c then none
  else if isIgnored c then some []
  else some ((respelling? c).getD [c])

/-- The character stands for itself. -/
def isStable (c : Char) : Bool := fold? c == some [c]

/-- What the form of a label begins with. -/
def formMark : List Char := ['x', 'n', '-', '-']

/-- The most characters that the form of a label may have. -/
def longestForm : Nat := 2000

/-- The most characters that a label in full may have. -/
def longestLabel : Nat := 1000

/-- The label in full that a form stands for, none when it is not the form of a
label that could have been written so. -/
def fullOfForm? (form : List Char) : Option (List Char) := do
  if longestForm < form.length || !form.all isAscii then none
  else
    let full ← Label.decode? form
    if full.all isStable && compose full == full && !formMark.isPrefixOf full then some full
    else none

/-- A label in full. -/
def inFull? (label : List Char) : Option (List Char) :=
  match label with
  | 'x' :: 'n' :: '-' :: '-' :: form => fullOfForm? form
  | _ => some label

/-- A label in ASCII. -/
def inAscii? (label : List Char) : Option (List Char) :=
  if label.all isAscii then some label
  else if longestLabel < label.length then none
  else some (formMark ++ Label.encode label)

/-- A label in full that a name may have: no mark comes first, and joiners have
their place. -/
def isProper (label : List Char) : Bool :=
  !label.head?.any isMark && joinersPlaced [] label

/-- A written name in ASCII, none when it is no name. Which ASCII characters a
name may hold is not looked at. -/
def toAscii? (name : List Char) : Option (List Char) := do
  let folded ← name.mapM fold?
  let labels := fields (· == '.') (compose folded.flatten)
  let full ← labels.mapM inFull?
  if full.all isProper && keepDirections full then
    some (['.'].intercalate (← labels.mapM inAscii?))
  else none

end SignedAccess.Domain
