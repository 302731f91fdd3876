/-
# Upload requests

What a caller asks for: one object in one bucket, the content type that the
upload will be sent with, and for how many seconds the permission is to hold.
-/

import SignedAccess.Json.Record

namespace SignedAccess

open Json

/-- A request for the permission to write one object. -/
structure UploadRequest where
  bucket : String
  key : String
  contentType : String
  /-- Seconds for which the permission is to hold. -/
  expires : Nat
  deriving DecidableEq, Repr

namespace UploadRequest

/-- The record of a request. -/
def toValue (request : UploadRequest) : Value :=
  .object [
    ("bucket", .text request.bucket),
    ("key", .text request.key),
    ("contentType", .text request.contentType),
    ("expiresInSeconds", .ofNat request.expires)]

/-- A request of which a part has been read. -/
structure Draft where
  bucket : Option String := none
  key : Option String := none
  contentType : Option String := none
  expires : Option Nat := none

/-- How a request is read from text. All four parts must be there. -/
def record : Record Draft UploadRequest where
  title := "UploadRequest"
  draft := {}
  fields := [
    { name := "bucket"
      isSet := fun draft => draft.bucket.isSome
      read := fun _ draft bs => do
        let (s, bs) ← expectText bs
        .ok ({ draft with bucket := some s }, bs) },
    { name := "key"
      isSet := fun draft => draft.key.isSome
      read := fun _ draft bs => do
        let (s, bs) ← expectText bs
        .ok ({ draft with key := some s }, bs) },
    { name := "contentType"
      isSet := fun draft => draft.contentType.isSome
      read := fun _ draft bs => do
        let (s, bs) ← expectText bs
        .ok ({ draft with contentType := some s }, bs) },
    { name := "expiresInSeconds"
      isSet := fun draft => draft.expires.isSome
      read := fun _ draft bs => do
        let (n, bs) ← expectCount bs
        .ok ({ draft with expires := some n }, bs) }]
  finish := fun draft => do
    .ok {
      bucket := ← required "bucket" draft.bucket
      key := ← required "key" draft.key
      contentType := ← required "contentType" draft.contentType
      expires := ← required "expiresInSeconds" draft.expires }

end UploadRequest

end SignedAccess
