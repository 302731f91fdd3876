/-
# Grants

A grant is an address that permits one upload, with the request that it was
given for and the time for which it holds. A request is checked by the policy
first; only one that passes is taken to the control plane, and there is no
second attempt.
-/

import SignedAccess.Upload.Policy
import SignedAccess.Upload.Storage

namespace SignedAccess

open Json Time

/-- The permission for one upload. -/
structure Grant where
  address : Address
  request : UploadRequest
  issuedAt : Instant
  deriving DecidableEq, Repr

namespace Grant

/-- The method that a grant permits. -/
def method : String := "PUT"

/-- The instant from which the grant no longer holds. -/
def expiresAt (grant : Grant) : Instant := grant.issuedAt.addSeconds grant.request.expires

/-- The grant no longer holds. -/
def isExpiredAt (grant : Grant) (now : Instant) : Bool := decide (grant.expiresAt ≤ now)

/-- The grant permits this upload now. -/
def authorizes (grant : Grant) (bucket key contentType : String) (now : Instant) : Bool :=
  grant.request.bucket == bucket && grant.request.key == key &&
    grant.request.contentType == contentType && !grant.isExpiredAt now

/-- The record of a grant. -/
def toValue (grant : Grant) : Value :=
  .object [
    ("url", .text grant.address.toString),
    ("method", .text method),
    ("bucket", .text grant.request.bucket),
    ("key", .text grant.request.key),
    ("contentType", .text grant.request.contentType),
    ("expiresInSeconds", .ofNat grant.request.expires),
    ("issuedAt", .text (grant.issuedAt.long "Z")),
    ("expiresAt", .text (grant.expiresAt.long "Z"))]

end Grant

/-- Why a request was not granted. -/
inductive GrantFault
  | policy (fault : PolicyFault)
  | storage (fault : StorageFault)
  deriving DecidableEq, Repr

namespace GrantFault

/-- The wording of a fault. -/
def message : GrantFault → String
  | .policy fault => "invalid upload request: " ++ fault.message
  | .storage fault => "storage authorization failed: " ++ fault.message

/-- What lies behind the fault, the nearest cause first. -/
def causes : GrantFault → List String
  | .policy fault => [fault.message]
  | .storage fault => fault.message :: fault.causes

end GrantFault

/-- Who gives grants. -/
structure Granter where
  plane : ControlPlane
  policy : GrantPolicy

/-- Check a request and take it to the control plane. -/
def Granter.grant {ε : Type} (granter : Granter) (line : Line ε) (request : UploadRequest)
    (now : Instant) : Line ε × Except GrantFault Grant :=
  match granter.policy.check request with
  | .error fault => (line, .error (.policy fault))
  | .ok () =>
      match granter.plane.authorize line request now with
      | (line, .error fault) => (line, .error (.storage fault))
      | (line, .ok address) => (line, .ok ⟨address, request, now⟩)

end SignedAccess
