/-
# What may be granted

A policy checks a request before anything is asked of the storage: bucket name,
key, reserved fronts of keys, content type and number of seconds, in this
order. The first check that fails gives the fault.
-/

import SignedAccess.Upload.Request
import SignedAccess.Text.Blank

namespace SignedAccess

open Text

/-- Seven days, the most that any permission holds. -/
def longestGrant : Nat := 604800

/-- The rule of bucket names that a name breaks. -/
inductive BucketRule
  | length
  | characters
  | ends
  | pairs
  | numeric
  deriving DecidableEq, Repr

/-- The wording of a rule. -/
def BucketRule.message : BucketRule → String
  | .length => "must be between 3 and 63 characters"
  | .characters => "allowed characters are lowercase letters, digits, dots, and hyphens"
  | .ends => "must start and end with a lowercase letter or digit"
  | .pairs => "cannot contain consecutive dots or dot-hyphen combinations"
  | .numeric => "must not be formatted like an IP address"

/-- Why a request may not be granted. -/
inductive PolicyFault
  | emptyKey
  | keyTooLong
  | unsafeKey (key : String)
  | reserved (key front : String)
  | bucketName (name : String) (rule : BucketRule)
  | contentType (value : String)
  | expiry (requested most : Nat)
  deriving DecidableEq, Repr

/-- The wording of a fault. -/
def PolicyFault.message : PolicyFault → String
  | .emptyKey => "object key must not be empty"
  | .keyTooLong => "object key exceeds 1024 bytes"
  | .unsafeKey key =>
      "object key `" ++ key ++ "` contains forbidden characters or path segments"
  | .reserved key front =>
      "object key `" ++ key ++ "` uses reserved prefix `" ++ front ++ "`"
  | .bucketName name rule => "bucket `" ++ name ++ "` invalid: " ++ rule.message
  | .contentType value => "content type `" ++ value ++ "` is not a valid MIME type"
  | .expiry requested most =>
      "expiry of " ++ String.ofList (decimal requested) ++ "s is outside 1..=" ++
        String.ofList (decimal most) ++ "s"

/-! ### Buckets -/

/-- A lower-case letter or a digit. -/
def isLowerOrDigit (c : Char) : Bool := ('a' ≤ c && c ≤ 'z') || c.isDigit

/-- A character of a bucket name. -/
def isBucketChar (c : Char) : Bool := isLowerOrDigit c || c == '.' || c == '-'

/-- A point or a hyphen. -/
def isJoint (c : Char) : Bool := c == '.' || c == '-'

/-- Two points, or a point and a hyphen in either order, stand side by side. -/
def hasBadPair : List Char → Bool
  | a :: b :: rest =>
      (a == '.' && isJoint b) || (a == '-' && b == '.') || hasBadPair (b :: rest)
  | _ => false

/-- One to three digits that write a number up to 255. -/
def isByteText (cs : List Char) : Bool :=
  !cs.isEmpty && cs.length ≤ 3 && cs.all Char.isDigit &&
    match readNat 255 cs with
    | .ok _ => true
    | .error _ => false

/-- Four small numbers with points between them. -/
def isPointedQuad (name : List Char) : Bool :=
  let parts := fields (· == '.') name
  parts.length == 4 && parts.all isByteText

/-- The first rule that a bucket name breaks. -/
def brokenRule? (name : List Char) : Option BucketRule :=
  let length := (encode name).length
  if length < 3 ∨ 63 < length then some .length
  else if !name.all isBucketChar then some .characters
  else if (name.head?.map isJoint) = some true ∨ (name.getLast?.map isJoint) = some true then
    some .ends
  else if hasBadPair name then some .pairs
  else if isPointedQuad name then some .numeric
  else none

/-- The name of a bucket must follow all rules. -/
def checkBucket (name : String) : Except PolicyFault Unit :=
  match brokenRule? name.toList with
  | some rule => .error (.bucketName name rule)
  | none => .ok ()

/-! ### Keys -/

/-- The longest key in bytes. -/
def longestKey : Nat := 1024

/-- A key that could leave its bucket or hide what it names: one that begins
with a slash, has a dot segment, or holds a control character or backslash. -/
def isUnsafe (key : List Char) : Bool :=
  key.head? == some '/' ||
    (fields (· == '/') key).any (fun part => part == ['.', '.'] || part == ['.']) ||
    key.any fun c => isControl c || c == '\\'

/-- A key must be there, short enough and safe. -/
def checkKey (key : String) : Except PolicyFault Unit :=
  if key.isEmpty then .error .emptyKey
  else if longestKey < (bytes key).length then .error .keyTooLong
  else if isUnsafe key.toList then .error (.unsafeKey key)
  else .ok ()

/-! ### Content types -/

/-- A character of a token. -/
def isTokenChar (c : Char) : Bool :=
  c.isAlphanum ||
    ['!', '#', '$', '%', '&', '\'', '*', '+', '-', '.', '^', '_', '\x60', '|', '~'].contains c

/-- A token: at least one character, all of the class. -/
def isToken (cs : List Char) : Bool := !cs.isEmpty && cs.all isTokenChar

/-- Two blanks stand side by side. -/
def hasDoubleSpace : List Char → Bool
  | ' ' :: ' ' :: _ => true
  | _ :: rest => hasDoubleSpace rest
  | [] => false

/-- The part of a content type before its parameters. -/
def essence (value : List Char) : List Char := trim (value.takeWhile (· != ';'))

/-- Two tokens with a slash between them and perhaps parameters, without blanks
around, control characters and double spaces. -/
def isContentType (value : List Char) : Bool :=
  trim value == value && !value.any isControl && !hasDoubleSpace value &&
    match cutFirst (· == '/') (essence value) with
    | some (kind, subkind) => isToken kind && isToken subkind
    | none => false

/-- The content type must be one. -/
def checkContentType (value : String) : Except PolicyFault Unit :=
  if isContentType value.toList then .ok () else .error (.contentType value)

/-! ### The policy -/

/-- How long a permission may hold and which fronts of keys are not given
away. -/
structure GrantPolicy where
  longest : Nat
  reserved : List String
  deriving DecidableEq, Repr

namespace GrantPolicy

/-- The policy with a longest time, which is cut to seven days. -/
def ofLongest (seconds : Nat) : GrantPolicy := ⟨min seconds longestGrant, []⟩

/-- The policy that allows seven days and reserves nothing. -/
def standard : GrantPolicy := ofLongest longestGrant

/-- The same policy with reserved fronts; empty ones do not count. -/
def reserving (policy : GrantPolicy) (fronts : List String) : GrantPolicy :=
  { policy with reserved := fronts.filter (!·.isEmpty) }

/-- The first reserved front that a key begins with. -/
def reservedFront? (policy : GrantPolicy) (key : String) : Option String :=
  policy.reserved.find? fun front => front.toList.isPrefixOf key.toList

/-- A key must be safe and begin with no reserved front. -/
def checkKeyAllowed (policy : GrantPolicy) (key : String) : Except PolicyFault Unit := do
  checkKey key
  match policy.reservedFront? key with
  | some front => .error (.reserved key front)
  | none => .ok ()

/-- A permission must hold for at least one second and at most the longest
time. -/
def checkExpiry (policy : GrantPolicy) (seconds : Nat) : Except PolicyFault Unit :=
  if seconds = 0 ∨ policy.longest < seconds then .error (.expiry seconds policy.longest)
  else .ok ()

/-- All checks on a request. -/
def check (policy : GrantPolicy) (request : UploadRequest) : Except PolicyFault Unit := do
  checkBucket request.bucket
  policy.checkKeyAllowed request.key
  checkContentType request.contentType
  policy.checkExpiry request.expires

end GrantPolicy

end SignedAccess
