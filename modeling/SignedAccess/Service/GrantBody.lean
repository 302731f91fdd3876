/-
# The body of a grant request

The content type must be there. The bucket and the number of seconds have
defaults, and the key may be given or left to be made from a file name; null
counts as absent for all four.
-/

import SignedAccess.Json.Record

namespace SignedAccess

open Json

/-- What the body of a grant request says. -/
structure GrantBody where
  bucket : Option String
  key : Option String
  filename : Option String
  contentType : String
  expires : Option Nat
  deriving DecidableEq, Repr

namespace GrantBody

/-- A body of which a part has been read. The outer option tells whether the
member was there, the inner one whether it was null. -/
structure Draft where
  bucket : Option (Option String) := none
  key : Option (Option String) := none
  filename : Option (Option String) := none
  contentType : Option String := none
  expires : Option (Option Nat) := none

/-- How a body is read from text. -/
def record : Record Draft GrantBody where
  title := "GrantRequestBody"
  draft := {}
  fields := [
    { name := "bucket"
      isSet := fun draft => draft.bucket.isSome
      read := fun _ draft bs => do
        let (s, bs) ← orNull expectText bs
        .ok ({ draft with bucket := some s }, bs) },
    { name := "key"
      isSet := fun draft => draft.key.isSome
      read := fun _ draft bs => do
        let (s, bs) ← orNull expectText bs
        .ok ({ draft with key := some s }, bs) },
    { name := "filename"
      isSet := fun draft => draft.filename.isSome
      read := fun _ draft bs => do
        let (s, bs) ← orNull expectText bs
        .ok ({ draft with filename := some s }, bs) },
    { name := "contentType"
      isSet := fun draft => draft.contentType.isSome
      read := fun _ draft bs => do
        let (s, bs) ← expectText bs
        .ok ({ draft with contentType := some s }, bs) },
    { name := "expiresInSeconds"
      isSet := fun draft => draft.expires.isSome
      read := fun _ draft bs => do
        let (n, bs) ← orNull expectCount bs
        .ok ({ draft with expires := some n }, bs) }]
  finish := fun draft => do
    .ok {
      bucket := draft.bucket.join
      key := draft.key.join
      filename := draft.filename.join
      contentType := ← required "contentType" draft.contentType
      expires := draft.expires.join }

end GrantBody

end SignedAccess
