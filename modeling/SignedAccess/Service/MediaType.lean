/-
# Media types of bodies

A body is taken for JSON when its content type is `application/json`, has
`json` before or after the last plus of its second part, and is well formed as
a whole. Letter case does not count. Parameters are a name, an equals sign and
a token or a quoted text; a semicolon may be the last character.
-/

import SignedAccess.Upload.Policy

namespace SignedAccess.MediaType

open Text

/-- A character inside the quotes of a parameter. -/
def isQuotable (c : Char) : Bool := 0x20 ≤ c.toNat && c.toNat != 0x7f

/-- What follows a quoted value: the text after a semicolon, or the end. Blanks
may come before it. -/
def afterQuoted : List Char → Option (List Char)
  | [] => some []
  | ';' :: rest => some rest
  | ' ' :: rest => afterQuoted rest
  | _ => none

/-- The text after the closing quote of a parameter whose opening quote is
already taken. The first character always belongs to the value, so a quote that
stands there closes nothing. -/
def closeQuote (text : List Char) : Option (List Char) :=
  match text with
  | [] => none
  | first :: rest =>
      if !isQuotable first then none
      else
        match rest.span fun c => c != '"' && isQuotable c with
        | (_, '"' :: after) => some after
        | _ => none

/-- The text after a parameter that begins it. -/
def afterParameter (text : List Char) : Option (List Char) :=
  match text.span isTokenChar with
  | ([], _) => none
  | (_, '=' :: '"' :: rest) => (closeQuote rest).bind afterQuoted
  | (_, '=' :: rest) =>
      match rest.span isTokenChar with
      | (_, []) => some []
      | ([], _) => none
      | (_, ';' :: more) => some more
      | _ => none
  | _ => none

/-- Parameters with semicolons between them and blanks before them. -/
def areParameters : Nat → List Char → Bool
  | 0, _ => false
  | budget + 1, text =>
      match text.dropWhile (· == ' ') with
      | [] => true
      | c :: rest =>
          match afterParameter (c :: rest) with
          | some more => areParameters budget more
          | none => false

/-- The second part of a media type says JSON: before its last plus, or after
it. -/
def saysJson (subkind : List Char) : Bool :=
  let isJsonWord (cs : List Char) : Bool := lower cs == ['j', 's', 'o', 'n']
  match cutLast (· == '+') (subkind.drop 1) with
  | some (front, back) => isJsonWord (subkind.take 1 ++ front) || isJsonWord back
  | none => isJsonWord subkind

/-- The content type of a body that is to be read as JSON. -/
def isJson (value : String) : Bool :=
  let text := value.toList
  match text.span isTokenChar with
  | (kind, '/' :: rest) =>
      let (subkind, more) := rest.span isTokenChar
      let isWhole :=
        match more with
        | [] => true
        | ';' :: parameters => areParameters (parameters.length + 1) parameters
        | _ => false
      text.all (fun c => c == '\t' || (0x20 ≤ c.toNat && c.toNat < 0x7f)) &&
        !subkind.isEmpty && isWhole && lower kind == "application".toList && saysJson subkind
  | _ => false

end SignedAccess.MediaType
