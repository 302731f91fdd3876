/-
# Addresses

An address is a scheme, perhaps an authority with a host, a path, and perhaps a
query and a fragment. The path of most addresses is a list of segments with a
slash before each; an address without authority may have a plain path instead,
which begins with no slash.
-/

import SignedAccess.Address.Host

namespace SignedAccess

open Text

/-- A user name and perhaps a password, both as they are written. -/
structure UserInfo where
  user : String
  password : Option String
  deriving DecidableEq, Repr

/-- What stands between the two slashes and the path. -/
structure Authority where
  userInfo : Option UserInfo
  host : Host
  /-- The port, unless it is the one that the scheme uses anyway. -/
  port : Option Nat
  deriving DecidableEq, Repr

/-- The path of an address. -/
inductive AddressPath
  | segments (parts : List String)
  | plain (text : String)
  deriving DecidableEq, Repr

/-- An address in its parts. -/
structure Address where
  scheme : String
  authority : Option Authority
  path : AddressPath
  query : Option String
  fragment : Option String
  deriving DecidableEq, Repr

/-- The port that a scheme uses where none is given. -/
def defaultPort? (scheme : String) : Option Nat :=
  match scheme with
  | "http" => some 80
  | "ws" => some 80
  | "https" => some 443
  | "wss" => some 443
  | "ftp" => some 21
  | _ => none

/-- The scheme names a host by its authority and has a port of its own. -/
def hasDefaultPort (scheme : String) : Bool := (defaultPort? scheme).isSome

/-- The scheme reads its addresses by the stricter rules. -/
def isSpecial (scheme : String) : Bool := hasDefaultPort scheme || scheme == "file"

/-- A path in writing. -/
def AddressPath.written : AddressPath → List Char
  | .segments parts => parts.flatMap fun part => '/' :: part.toList
  | .plain text => text.toList

/-- User name and password in writing, with the mark after them. -/
def UserInfo.written (info : UserInfo) : List Char :=
  info.user.toList ++ (info.password.map fun p => ':' :: p.toList).getD [] ++ ['@']

/-- Host and port in writing. -/
def hostAndPort (host : Host) (port : Option Nat) : List Char :=
  host.written ++ (port.map fun n => ':' :: decimal n).getD []

namespace Address

/-- The host, unless there is none. -/
def host? (a : Address) : Option Host :=
  match a.authority with
  | some authority => if authority.host.isEmpty then none else some authority.host
  | none => none

/-- The port, unless it is the one that the scheme uses anyway. -/
def port? (a : Address) : Option Nat := a.authority.bind (·.port)

/-- What stands between scheme and path. A path that begins with two slashes is
kept apart from the scheme by a dot segment where there is no authority. -/
def authorityWritten (a : Address) : List Char :=
  match a.authority with
  | some authority =>
      ['/', '/'] ++ (authority.userInfo.map UserInfo.written).getD [] ++
        hostAndPort authority.host authority.port
  | none =>
      match a.path with
      | .segments ("" :: _ :: _) => ['/', '.']
      | _ => []

/-- A query in writing, with its mark. -/
def queryWritten (a : Address) : List Char := (a.query.map fun q => '?' :: q.toList).getD []

/-- An address in writing up to its fragment. -/
def writtenWithoutFragment (a : Address) : List Char :=
  a.scheme.toList ++ ':' :: (a.authorityWritten ++ a.path.written ++ a.queryWritten)

/-- An address in writing. -/
def written (a : Address) : List Char :=
  a.writtenWithoutFragment ++ (a.fragment.map fun f => '#' :: f.toList).getD []

/-- An address in writing, as a string. -/
def toString (a : Address) : String := String.ofList a.written

/-- Scheme, host and port in writing, where the scheme has an origin. -/
def origin? (a : Address) : Option (List Char) :=
  match a.authority with
  | some authority =>
      if hasDefaultPort a.scheme then
        some (a.scheme.toList ++ [':', '/', '/'] ++ hostAndPort authority.host authority.port)
      else none
  | none => none

end Address

end SignedAccess
