/-
# Cookies

A jar keeps what hosts ask a client to send back. A cookie belongs to one host,
or to a domain when it names one that the host lies in, and to the paths below
one path. A domain may be written with characters of any script. A cookie whose
age is zero or less is taken out. Ages above zero are not counted down, as a jar
does not outlive its client.
-/

import SignedAccess.Address.Basic

namespace SignedAccess

open Text

/-- A cookie as a jar keeps it. -/
structure Cookie where
  name : String
  value : String
  domain : String
  /-- Only the host itself is sent the cookie. -/
  hostOnly : Bool
  path : String
  secure : Bool
  deriving DecidableEq, Repr

/-- The cookies of a client, the newest first. -/
abbrev Jar := List Cookie

namespace Cookie

/-- The host of an address lies in a domain. A host that is a number lies in no
other than itself. -/
def liesIn (a : Address) (domain : List Char) : Bool :=
  match a.host? with
  | some (.name text) => text.toList == domain || ('.' :: domain).isSuffixOf text.toList
  | some host => host.written == domain
  | none => domain.isEmpty

/-- A path lies below another. -/
def isBelow (path top : List Char) : Bool :=
  path == top ||
    (top.isPrefixOf path && (top.getLast? == some '/' || (path.drop top.length).head? == some '/'))

/-- The path down to its last slash, which a cookie belongs to when it names
none. -/
def defaultPath (path : List Char) : List Char :=
  match cutLast (· == '/') path with
  | some ([], _) => ['/']
  | some (front, _) => front
  | none => ['/']

/-- The path of an address in writing. -/
def pathOf (a : Address) : List Char := a.path.written

/-- The host of an address in writing. -/
def hostOf (a : Address) : List Char := (a.host?.map Host.written).getD []

/-- A setting of a cookie: its name in lower case and its value. -/
def setting (text : List Char) : List Char × List Char :=
  match cutFirst (· == '=') text with
  | some (name, value) => (lower (trim name), trim value)
  | none => (lower (trim text), [])

/-- The value of the last setting with a name. -/
def lookup (name : String) (settings : List (List Char × List Char)) : Option (List Char) :=
  (settings.reverse.find? (·.1 == name.toList)).map (·.2)

/-- An integer in decimal digits that is zero or below it. -/
def isZeroOrLess (text : List Char) : Bool :=
  match text with
  | '-' :: ds => !ds.isEmpty && ds.all Char.isDigit
  | ds => !ds.isEmpty && ds.all (· == '0')

/-- The cookie that an answer from an address sets, and whether it is to be
taken out at once. -/
def read? (a : Address) (header : String) : Option (Cookie × Bool) := do
  match fields (· == ';') header.toList with
  | [] => none
  | pair :: rest =>
      let (name, value) ← cutFirst (· == '=') pair
      let settings := rest.map setting
      let named := ((lookup "domain" settings).map fun d =>
        if d.head? = some '.' then d.drop 1 else d).filter (!·.isEmpty)
      let domain ← match named with | some d => Domain.toAscii? d | none => some (hostOf a)
      let path := ((lookup "path" settings).filter (·.head? == some '/')).getD
        (defaultPath (pathOf a))
      let isGone := ((lookup "max-age" settings).map isZeroOrLess).getD false
      if (trim name).isEmpty ∨ !liesIn a domain then none
      else
        some ({
          name := String.ofList (trim name)
          value := String.ofList (trim value)
          domain := String.ofList domain
          hostOnly := named.isNone
          path := String.ofList path
          secure := (lookup "secure" settings).isSome }, isGone)

/-- The cookie goes with requests to an address. -/
def goesTo (cookie : Cookie) (a : Address) : Bool :=
  (if cookie.hostOnly then hostOf a == cookie.domain.toList
    else liesIn a cookie.domain.toList) &&
  isBelow (pathOf a) cookie.path.toList && (!cookie.secure || a.scheme == "https")

/-- A cookie in writing. -/
def written (cookie : Cookie) : String := cookie.name ++ "=" ++ cookie.value

end Cookie

namespace Jar

/-- The jar after an answer from an address set a cookie. A cookie takes the
place of one with the same name, domain and path. -/
def put (a : Address) (jar : Jar) (header : String) : Jar :=
  match Cookie.read? a header with
  | none => jar
  | some (cookie, isGone) =>
      let others := jar.filter fun c =>
        c.name != cookie.name || c.domain != cookie.domain || c.path != cookie.path
      if isGone then others else cookie :: others

/-- The cookies for a request to an address, in order. -/
def forAddress (a : Address) (jar : Jar) : List String :=
  ((jar.filter (·.goesTo a)).map Cookie.written).mergeSort fun x y => decide (x ≤ y)

end Jar

end SignedAccess
