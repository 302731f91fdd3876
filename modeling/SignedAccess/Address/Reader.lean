/-
# Reading addresses

Blanks and control characters around the text and tabs and line ends inside it
do not count. The schemes with a default port, and `file`, take a backslash for
a slash, always have a path, and read their hosts strictly. Dot segments are
resolved while the path is read, also where the dots are escaped, and every
part escapes its own set of bytes.
-/

import SignedAccess.Address.Basic

namespace SignedAccess

open Text

namespace Address

/-! ### What each part may hold as it is -/

/-- A visible ASCII byte outside a list of characters. -/
def visibleExcept (excluded : List Char) (b : UInt8) : Bool :=
  0x20 < b && b < 0x7f && !excluded.contains (Char.ofNat b.toNat)

/-- Bytes that a fragment holds as they are. -/
def inFragment : UInt8 → Bool := visibleExcept ['"', '<', '>', '\x60']

/-- Bytes that a path holds as they are. -/
def inPath : UInt8 → Bool :=
  visibleExcept ['"', '<', '>', '\x60', '#', '?', '\x7b', '\x7d']

/-- Bytes that a user name and a password hold as they are. -/
def inUserInfo : UInt8 → Bool :=
  visibleExcept ['"', '<', '>', '\x60', '#', '?', '\x7b', '\x7d', '/', ':', ';', '=', '@', '[',
    '\\', ']', '^', '|']

/-- Bytes that a query holds as they are. -/
def inQuery : UInt8 → Bool := visibleExcept ['"', '#', '<', '>']

/-- Bytes that the query of a special scheme holds as they are. -/
def inSpecialQuery : UInt8 → Bool := visibleExcept ['"', '#', '<', '>', '\'']

/-- Bytes that a plain path holds as they are. -/
def inPlainPath (b : UInt8) : Bool := 0x20 ≤ b && b < 0x7f

/-! ### Scheme -/

/-- A character that may stand in a scheme after its first letter. -/
def isSchemeChar (c : Char) : Bool := c.isAlphanum || c == '+' || c == '-' || c == '.'

/-- The scheme in lower case and the text after its colon. -/
def readScheme? (text : List Char) : Option (String × List Char) :=
  match text with
  | c :: _ =>
      if c.isAlpha then
        match text.span isSchemeChar with
        | (name, ':' :: rest) => some (String.ofList (lower name), rest)
        | _ => none
      else none
  | [] => none

/-! ### Authority -/

/-- Where an authority ends. -/
def endsAuthority (special : Bool) (c : Char) : Bool :=
  c == '/' || c == '?' || c == '#' || (special && c == '\\')

/-- User name and password in their parts, none when both are empty. -/
def readUserInfo? (text : List Char) : Option UserInfo :=
  let encoded (cs : List Char) : String := String.ofList (escape inUserInfo cs)
  let (user, password) :=
    match cutFirst (· == ':') text with
    | some (user, []) => (user, none)
    | some (user, password) => (user, some (encoded password))
    | none => (text, none)
  if user.isEmpty ∧ password.isNone then none else some ⟨encoded user, password⟩

/-- Where a host ends: at a colon outside brackets, or with the authority. -/
def spanHost (special inBrackets : Bool) : List Char → List Char × List Char
  | [] => ([], [])
  | c :: rest =>
      if (c == ':' && !inBrackets) || endsAuthority special c then ([], c :: rest)
      else
        let inside := if c == '[' then true else if c == ']' then false else inBrackets
        let (host, after) := spanHost special inside rest
        (c :: host, after)

/-- A port and the text after it. A port without digits, and the one that the
scheme uses anyway, count as none. -/
def readPort (scheme : String) (text : List Char) :
    Except AddressFault (Option Nat × List Char) :=
  let (ds, rest) := text.span Char.isDigit
  let ends :=
    match rest with
    | [] => true
    | c :: _ => endsAuthority true c
  match if ds.isEmpty then .ok 0 else readNat 65535 ds with
  | .error _ => .error .badPort
  | .ok n =>
      if !ends then .error .badPort
      else .ok (if ds.isEmpty ∨ defaultPort? scheme = some n then none else some n, rest)

/-- An authority and the text after it, the two slashes already taken. -/
def readAuthority (scheme : String) (text : List Char) :
    Except AddressFault (Authority × List Char) := do
  let special := isSpecial scheme
  let front := text.takeWhile fun c => !endsAuthority special c
  let back := text.dropWhile fun c => !endsAuthority special c
  let (info, text) ←
    match cutLast (· == '@') front with
    | some ([], []) =>
        if back.isEmpty then .ok (none, []) else .error .emptyHost
    | some (before, after) => .ok (readUserInfo? before, after ++ back)
    | none => .ok (none, text)
  let (name, rest) := spanHost special false text
  if special ∧ name.isEmpty then .error .emptyHost
  else
    let host ← if special then Host.read name else Host.readVerbatim name
    if host.isEmpty ∧ (rest.head? = some ':' ∨ info.isSome) then .error .emptyHost
    else
      match rest with
      | ':' :: more => do
          let (n, rest) ← readPort scheme more
          .ok (⟨info, host, n⟩, rest)
      | _ => .ok (⟨info, host, none⟩, rest)

/-! ### Path, query and fragment -/

/-- One dot, plain or escaped. -/
def isSingleDot (text : List Char) : Bool :=
  let t := lower text
  t == ['.'] || t == ['%', '2', 'e']

/-- Two dots, each plain or escaped. -/
def isDoubleDot (text : List Char) : Bool :=
  let t := lower text
  t == ['.', '.'] || t == ['.', '%', '2', 'e'] || t == ['%', '2', 'e', '.'] ||
    t == ['%', '2', 'e', '%', '2', 'e']

/-- A letter and a colon or bar, the name of a drive. -/
def isDrive : List Char → Bool
  | [c, mark] => c.isAlpha && (mark == ':' || mark == '|')
  | _ => false

/-- The name of a drive with a colon for its mark. -/
def driveWritten (text : List Char) : List Char := text.take 1 ++ [':']

/-- The segments without their last one. A drive stays. -/
def dropSegment : List (List Char) → List (List Char)
  | [] => []
  | last :: rest => if isDrive last then last :: rest else rest

/-- The segments of a path, last first, after one more segment. In the scheme
`file` the mark of a drive at the start of the path becomes a colon. -/
def addSegment (isFile isLast : Bool) (done : List (List Char)) (text : List Char) :
    List (List Char) :=
  let segment := escape inPath text
  if isDoubleDot segment then
    if isLast then [] :: dropSegment done else dropSegment done
  else if isSingleDot segment then
    if isLast then [] :: done else done
  else if isFile && done.isEmpty && isDrive segment then [driveWritten segment]
  else segment :: done

/-- The segments of a path, dot segments resolved. -/
def resolve (isFile : Bool) (raw : List (List Char)) : List (List Char) :=
  let done := raw.dropLast.foldl (addSegment isFile false) []
  (addSegment isFile true done (raw.getLast?.getD [])).reverse

/-- The segments without the empty ones at their start, as long as another
follows. -/
def dropEmptyFront : List (List Char) → List (List Char)
  | [] :: next :: rest => dropEmptyFront (next :: rest)
  | segments => segments

/-- Where a path ends. -/
def endsPath (c : Char) : Bool := c == '?' || c == '#'

/-- A slash, or a backslash where that is taken for one. -/
def isSlash (special : Bool) (c : Char) : Bool := c == '/' || (special && c == '\\')

/-- The path that begins the text, with its first slash or without it, and the
text after it. A special scheme has a path even where none is written. -/
def readPath (special : Bool) (text : List Char) : AddressPath × List Char :=
  let raw := text.takeWhile fun c => !endsPath c
  let rest := text.dropWhile fun c => !endsPath c
  match raw with
  | [] => (.segments (if special then [""] else []), rest)
  | c :: more =>
      let parts := fields (isSlash special) (if isSlash special c then more else raw)
      (.segments ((resolve false parts).map String.ofList), rest)

/-- Query and fragment, where the text is at an end or at one of their marks. -/
def readTail (special : Bool) (text : List Char) : Option String × Option String :=
  let fragment (cs : List Char) : String := String.ofList (escape inFragment cs)
  match text with
  | '#' :: rest => (none, some (fragment rest))
  | '?' :: rest =>
      let query := rest.takeWhile (· != '#')
      let written := escape (if special then inSpecialQuery else inQuery) query
      match rest.dropWhile (· != '#') with
      | _ :: after => (some (String.ofList written), some (fragment after))
      | [] => (some (String.ofList written), none)
  | _ => (none, none)

/-! ### The whole -/

/-- The address whose authority is known, with path, query and fragment read
from the text. -/
def withTail (scheme : String) (authority : Option Authority) (text : List Char) : Address :=
  let (path, rest) := readPath (isSpecial scheme) text
  let (query, fragment) := readTail (isSpecial scheme) rest
  { scheme, authority, path, query, fragment }

/-- The address of the scheme `file` with a host, with path, query and fragment
read from the text. A path that begins with a drive is on no host. A slash at
the start of the text is the root, unless the root is given: then it ends an
empty segment, which goes in the end but keeps a drive from the start. -/
def fileWithTail (host : Host) (rootGiven : Bool) (text : List Char) : Address :=
  let raw := text.takeWhile fun c => !endsPath c
  let rest := text.dropWhile fun c => !endsPath c
  let parts :=
    fields (isSlash true) (if rootGiven || !raw.head?.any (isSlash true) then raw else raw.tail)
  let segments := resolve true parts
  let (query, fragment) := readTail true rest
  { scheme := "file"
    authority := some ⟨none, if segments.head?.any isDrive then .name "" else host, none⟩
    path := .segments ((dropEmptyFront segments).map String.ofList)
    query
    fragment }

/-- An address of the scheme `file`, its colon already taken. A drive is never
taken for a host, and `localhost` is no host. Two slashes before no host give
the root, so that a third one is part of the path. -/
def readFile (text : List Char) : Except AddressFault Address :=
  let nobody : Host := .name ""
  match text with
  | a :: b :: rest =>
      if isSlash true a && isSlash true b then
        let name := rest.takeWhile fun c => !endsAuthority true c
        let after := rest.dropWhile fun c => !endsAuthority true c
        if name.isEmpty || isDrive name then .ok (fileWithTail nobody true rest)
        else do
          let host ← Host.read name
          .ok (fileWithTail (if host = .name "localhost" then nobody else host) false after)
      else .ok (fileWithTail nobody false text)
  | _ => .ok (fileWithTail nobody false text)

/-- The address that a text writes. -/
def read (text : List Char) : Except AddressFault Address :=
  let clean := (dropEnds (·.toNat ≤ 0x20) text).filter fun c =>
    c != '\t' && c != '\n' && c != '\r'
  match readScheme? clean with
  | none => .error .noScheme
  | some (scheme, rest) =>
      if scheme = "file" then readFile rest
      else if isSpecial scheme then do
        let (a, rest) ← readAuthority scheme (rest.dropWhile fun c => c == '/' || c == '\\')
        .ok (withTail scheme (some a) rest)
      else
        match rest with
        | '/' :: '/' :: rest => do
            let (a, rest) ← readAuthority scheme rest
            .ok (withTail scheme (some a) rest)
        | '/' :: _ => .ok (withTail scheme none rest)
        | _ =>
            let text := rest.takeWhile fun c => !endsPath c
            let (query, fragment) := readTail false (rest.dropWhile fun c => !endsPath c)
            let path := AddressPath.plain (String.ofList (escape inPlainPath text))
            .ok { scheme, authority := none, path, query, fragment }

end Address

end SignedAccess
