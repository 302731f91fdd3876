/-
# The storage side of a grant

A control plane hands out the addresses that permit an upload. The signing one
asks the storage first, by a signed request for the head of the bucket, so that
wrong keys and missing buckets come to light before the upload. A scripted one
always answers the same.
-/

import SignedAccess.Upload.Signature
import SignedAccess.Upload.Request
import SignedAccess.Exchange.Line

namespace SignedAccess

open Text Time

/-- What kind of failure the storage side had. -/
inductive StorageFailure
  | network
  | credentials
  | policyRejected
  | bucketNotFound
  | unavailable
  | unexpected
  deriving DecidableEq, Repr

namespace StorageFailure

/-- The name of a kind. -/
def name : StorageFailure → String
  | .network => "Network"
  | .credentials => "Credentials"
  | .policyRejected => "PolicyRejected"
  | .bucketNotFound => "BucketNotFound"
  | .unavailable => "Unavailable"
  | .unexpected => "Unexpected"

/-- A kind in words. -/
def words : StorageFailure → String
  | .network => "network failure"
  | .credentials => "credentials rejected"
  | .policyRejected => "rejected by policy"
  | .bucketNotFound => "bucket not found"
  | .unavailable => "storage unavailable"
  | .unexpected => "unexpected storage response"

/-- Another attempt may succeed. -/
def isRetryable : StorageFailure → Bool
  | .network => true
  | .unavailable => true
  | _ => false

/-- The kind that a status other than success shows. -/
def ofStatus (status : Nat) : StorageFailure :=
  if status = 401 ∨ status = 403 then .credentials
  else if status = 404 then .bucketNotFound
  else if status = 400 ∨ status = 405 ∨ status = 409 then .policyRejected
  else if blamesServer status then .unavailable
  else .unexpected

end StorageFailure

/-- What lies behind a failure. -/
inductive StorageCause
  | sign (fault : SignFault)
  | exchange (fault : ExchangeFault)
  deriving DecidableEq, Repr

/-- What lies behind a failure in words, with what lies behind that. -/
def StorageCause.chain : StorageCause → List String
  | .sign (.noHost endpoint) => [(SignFault.noHost endpoint).message]
  | .sign (.address fault) => [(SignFault.address fault).message, fault.message]
  | .exchange fault => fault.message :: fault.causes

/-- Why the storage side gave no permission. -/
structure StorageFault where
  kind : StorageFailure
  detail : String
  cause : Option StorageCause
  deriving DecidableEq, Repr

namespace StorageFault

/-- The wording of a fault. -/
def message (fault : StorageFault) : String := fault.kind.words ++ ": " ++ fault.detail

/-- Another attempt may succeed. -/
def isRetryable (fault : StorageFault) : Bool := fault.kind.isRetryable

/-- What lies behind the fault, the nearest cause first. -/
def causes (fault : StorageFault) : List String := (fault.cause.map (·.chain)).getD []

/-- The fault of an address that was not signed. -/
def ofSign (fault : SignFault) : StorageFault :=
  ⟨.unexpected, "could not sign request", some (.sign fault)⟩

/-- The fault of a request that was not answered. -/
def ofExchange (fault : ExchangeFault) : StorageFault :=
  ⟨.network, "storage request failed", some (.exchange fault)⟩

/-- The fault that a status shows when a bucket was asked for. -/
def ofStatus (bucket : String) (status : Nat) : StorageFault :=
  ⟨.ofStatus status, "bucket `" ++ bucket ++ "` check returned " ++ statusText status, none⟩

end StorageFault

/-- The storage that addresses are signed for. -/
structure Storage where
  endpoint : Address
  region : String
  credentials : Credentials

/-- For how many seconds the request for the head of a bucket holds. -/
def headExpiry : Nat := 60

namespace Storage

/-- The request for the head of a bucket. -/
def headOrder (storage : Storage) (bucket : String) (now : Instant) : SigningOrder where
  method := "HEAD"
  path := objectPath bucket none
  headers := []
  region := storage.region
  expires := headExpiry
  issuedAt := now

/-- The upload that a grant permits. -/
def uploadOrder (storage : Storage) (request : UploadRequest) (now : Instant) : SigningOrder where
  method := "PUT"
  path := objectPath request.bucket (some request.key)
  headers := [("content-type", request.contentType)]
  region := storage.region
  expires := request.expires
  issuedAt := now

/-- The signed address of an order. -/
def sign (storage : Storage) (order : SigningOrder) : Except StorageFault Address :=
  match order.sign storage.credentials storage.endpoint with
  | .ok address => .ok address
  | .error fault => .error (.ofSign fault)

/-- A client of the storage keeps no cookies and says nothing of itself. -/
def manner : Manner := ⟨none, false⟩

/-- Ask for the head of a bucket. -/
def checkBucket {ε : Type} (storage : Storage) (line : Line ε) (bucket : String)
    (now : Instant) : Line ε × Except StorageFault Unit :=
  match storage.sign (storage.headOrder bucket now) with
  | .error fault => (line, .error fault)
  | .ok address =>
      match line.exchange manner ⟨"HEAD", address.toString, none, none⟩ with
      | (line, _, .error fault) => (line, .error (.ofExchange fault))
      | (line, _, .ok reply) =>
          if isSuccess reply.status then (line, .ok ())
          else (line, .error (.ofStatus bucket reply.status))

/-- Ask for the head of the bucket and then sign the upload. -/
def authorize {ε : Type} (storage : Storage) (line : Line ε) (request : UploadRequest)
    (now : Instant) : Line ε × Except StorageFault Address :=
  match storage.checkBucket line request.bucket now with
  | (line, .error fault) => (line, .error fault)
  | (line, .ok ()) => (line, storage.sign (storage.uploadOrder request now))

end Storage

/-- Who hands out permissions: the signer for a storage, or someone who always
gives the same address or the same failure. -/
inductive ControlPlane
  | signing (storage : Storage)
  | granting (address : Address)
  | failing (kind : StorageFailure) (detail : String)

namespace ControlPlane

/-- The address that permits an upload. -/
def authorize {ε : Type} (plane : ControlPlane) (line : Line ε) (request : UploadRequest)
    (now : Instant) : Line ε × Except StorageFault Address :=
  match plane with
  | .signing storage => storage.authorize line request now
  | .granting address => (line, .ok address)
  | .failing kind detail => (line, .error ⟨kind, detail, none⟩)

/-- Whether the storage can be used for a bucket. -/
def probe {ε : Type} (plane : ControlPlane) (line : Line ε) (bucket : String)
    (now : Instant) : Line ε × Except StorageFault Unit :=
  match plane with
  | .signing storage => storage.checkBucket line bucket now
  | .granting _ => (line, .ok ())
  | .failing kind detail => (line, .error ⟨kind, detail, none⟩)

end ControlPlane

end SignedAccess
