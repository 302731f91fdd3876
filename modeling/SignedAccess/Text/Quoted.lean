/-
# Quoted debug texts

A debug text stands between double quotes. Quotes, backslashes and the usual
control characters have short escapes, hidden characters are written by number
in braces, and everything else stands for itself. Bytes that are no text can be
quoted too: there a broken byte is written `\xNN`.
-/

import SignedAccess.Text.Hex
import SignedAccess.Text.Utf8
import SignedAccess.Text.Hidden

namespace SignedAccess.Text

/-- One character of a quoted text. -/
def quoteChar (c : Char) : List Char :=
  match c with
  | '\x00' => ['\\', '0']
  | '\t' => ['\\', 't']
  | '\r' => ['\\', 'r']
  | '\n' => ['\\', 'n']
  | '\\' => ['\\', '\\']
  | '"' => ['\\', '"']
  | c =>
      if isHidden c then ['\\', 'u', '\x7b'] ++ hexOfNat c.toNat ++ ['\x7d']
      else [c]

/-- A text between quotes. -/
def quote (s : String) : String :=
  String.ofList ('"' :: s.toList.flatMap quoteChar ++ ['"'])

/-- Bytes between quotes. -/
def quoteBytes (bs : List UInt8) : String :=
  String.ofList ('"' :: (chunks bs).flatMap piece ++ ['"'])
where
  piece : Char ⊕ UInt8 → List Char
    | .inl c => quoteChar c
    | .inr b => ['\\', 'x', hexDigitUpper (b.toNat / 16), hexDigitUpper (b.toNat % 16)]

end SignedAccess.Text
