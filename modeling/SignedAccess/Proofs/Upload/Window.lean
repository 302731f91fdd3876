/-
# For how long a grant holds

The query of a signed address names the second of its issue and for how many seconds the
storage is to honour it from then on. A grant counts the same seconds from its instant of
issue, and that lies at or after the start of the second. So a grant ends together with its
address when it was issued at the very start of a second, and otherwise outlasts it by the
fraction of the second that the stamp leaves out.
-/

import SignedAccess.Proofs.Upload.BucketCheck
import SignedAccess.Proofs.Upload.Recomputation

namespace SignedAccess

open Text Time

namespace ReceivedRequest

/-- The instant from which the storage no longer honours the request: as many seconds as
its query names after the second that its query names. -/
def validUntil? (r : ReceivedRequest) : Option Instant := do
  let (query, _) ← r.signedQuery?
  let second ← Instant.ofStamp? (← queryValue? query "X-Amz-Date".toList)
  let expires ← readDigits? (← queryValue? query "X-Amz-Expires".toList)
  some (second.addSeconds expires)

/-- The time for which an order is signed begins with the second of its issue. -/
theorem validUntil?_of_sign {storage : Storage} {order : SigningOrder} {r : ReceivedRequest}
    {text : List Char} {segments : List (List Char)}
    (hread : Address.read text = .ok storage.endpoint) (hpath : order.HasPath segments)
    (hsign : storage.sign order = .ok r.address) :
    r.validUntil? = some (order.issuedAt.wholeSecond.addSeconds order.expires) := by
  obtain ⟨_, -, -, hquery⟩ := SigningOrder.of_sign hread hpath (Storage.of_sign hsign)
  have hsigned := signedQuery?_eq hquery
  simp only [validUntil?, hsigned, queryValue?_date, queryValue?_expires,
    Instant.ofStamp?_stamp, readDigits?_decimal, Option.bind_eq_bind, Option.bind_some]

end ReceivedRequest

/-- The request that a grant permits, as it reaches the storage. -/
def Grant.upload (grant : Grant) : ReceivedRequest :=
  .upload grant.address grant.request.contentType

theorem Granter.validUntil?_of_grant {ε : Type} {storage : Storage} {policy : GrantPolicy}
    {line : Line ε} {request : UploadRequest} {now : Instant} {grant : Grant}
    (hread : ∃ text, Address.read text = .ok storage.endpoint)
    (hgrant : ((Granter.mk (.signing storage) policy).grant line request now).2 = .ok grant) :
    grant.upload.validUntil? = some (now.wholeSecond.addSeconds request.expires) := by
  obtain ⟨text, hread⟩ := hread
  obtain ⟨hcheck, -, -, hsign⟩ := of_grant hgrant
  exact ReceivedRequest.validUntil?_of_sign (r := grant.upload) hread
    (storage.hasPath_uploadOrder now hcheck) hsign

/-- The address of a grant is honoured until as many whole seconds after the second of issue
have passed as were asked for. The grant holds at all times before that, and for a fraction
of a second after it, as long as the one in which it was issued: it never outlasts its
address exactly when it was issued without a fraction. -/
theorem grant_outlasts_address_by_fraction {ε : Type} (storage : Storage) (policy : GrantPolicy)
    (line : Line ε) (request : UploadRequest) (now : Instant) (grant : Grant)
    (hread : ∃ text, Address.read text = .ok storage.endpoint)
    (hgrant : ((Granter.mk (.signing storage) policy).grant line request now).2 = .ok grant) :
    ∃ ending, grant.upload.validUntil? = some ending ∧
      ending.seconds = now.seconds + request.expires ∧ ending.nanos = 0 ∧
      (∀ time, grant.isExpiredAt time = false ↔ time < ending ∨
        (time.seconds = ending.seconds ∧ time.nanos < now.fraction)) ∧
      ((∀ time, grant.isExpiredAt time = false → time < ending) ↔ now.fraction = 0) := by
  have hvalid := Granter.validUntil?_of_grant hread hgrant
  obtain ⟨hcheck, hrequest, hissued, -⟩ := Granter.of_grant hgrant
  have hpositive := (expires_of_check hcheck).1
  have hseconds : (now.wholeSecond.addSeconds request.expires).seconds =
      now.seconds + request.expires := Instant.seconds_addSeconds now.wholeSecond request.expires
  have hnanos := now.nanos_addSeconds_wholeSecond hpositive
  have hexpired : ∀ time, grant.isExpiredAt time = false ↔
      time < now.wholeSecond.addSeconds request.expires ∨
        (time.seconds = (now.wholeSecond.addSeconds request.expires).seconds ∧
          time.nanos < now.fraction) := by
    intro time
    rw [Grant.isExpiredAt_eq_false_iff, Grant.expiresAt, hrequest, hissued, hseconds]
    exact Instant.lt_addSeconds_iff hpositive
  refine ⟨_, hvalid, hseconds, hnanos, hexpired, ?_⟩
  generalize now.wholeSecond.addSeconds request.expires = ending at hnanos hexpired
  constructor
  · -- the end of the address is itself such a time
    intro hwithin
    by_contra hfraction
    have hholds := (hexpired ending).2 (Or.inr ⟨rfl, by omega⟩)
    exact Instant.not_le.2 (hwithin ending hholds) (Instant.le_def.2 (Or.inr ⟨rfl, Nat.le_refl _⟩))
  · intro hfraction time hholds
    rcases (hexpired time).1 hholds with hbefore | ⟨-, hnanos⟩
    · exact hbefore
    · omega

/-- The start of the year 2025. -/
def newYear2025 : Instant := ⟨1735689600, 0, Nat.succ_pos _, by decide⟩

/-- Granted at the very start of a second, the permission ends together with its address. -/
theorem grant_ends_with_address_at_newYear :
    let request : UploadRequest := ⟨"marketplace", "photos/crane.jpg", "image/jpeg", 60⟩
    let line : Line Unit := .ofTurns true [⟨[], .reply ⟨200, [], none⟩⟩]
    ∃ grant ending, ((Granter.mk (.signing loopback) GrantPolicy.standard).grant line request
        newYear2025).2 = .ok grant ∧
      grant.upload.validUntil? = some ending ∧ ending.seconds = 1735689660 ∧
      ∀ time, grant.isExpiredAt time = false → time < ending := by
  intro request line
  have hcheck : GrantPolicy.standard.check request = .ok () := by decide +kernel
  have hshort : (loopback.headAddress loopback.authority request.bucket
      newYear2025).written.length ≤ longestTarget := by
    rw [Storage.headAddress, Storage.written_addressAt]
    decide +kernel
  have hauthorized : (loopback.authorize line request newYear2025).2 = .ok _ :=
    loopback.isSpoken.authorize_of_found hcheck hshort rfl (Or.inl rfl) ⟨200, rfl, rfl⟩
  have hgrant := Granter.grant_of_authorize hcheck hauthorized
  obtain ⟨ending, hvalid, hseconds, -, -, hwithin⟩ := grant_outlasts_address_by_fraction loopback
    GrantPolicy.standard line request newYear2025 _ ⟨_, loopback.read_endpoint⟩ hgrant
  exact ⟨_, ending, hgrant, hvalid, hseconds, hwithin.2 rfl⟩

/-- Granted in the middle of a second, the permission still holds when its address has
ended. -/
theorem grant_holds_after_its_address_ended :
    let request : UploadRequest := ⟨"marketplace", "photos/crane.jpg", "image/jpeg", 60⟩
    let line : Line Unit := .ofTurns true [⟨[], .reply ⟨200, [], none⟩⟩]
    let issued : Instant := ⟨1735689600, 500000000, by decide, by decide⟩
    let later : Instant := ⟨1735689660, 250000000, by decide, by decide⟩
    ∃ grant ending, ((Granter.mk (.signing loopback) GrantPolicy.standard).grant line request
        issued).2 = .ok grant ∧
      grant.upload.validUntil? = some ending ∧
      grant.isExpiredAt later = false ∧
      grant.authorizes "marketplace" "photos/crane.jpg" "image/jpeg" later = true ∧
      ¬later < ending := by
  intro request line issued later
  have hcheck : GrantPolicy.standard.check request = .ok () := by decide +kernel
  have hshort : (loopback.headAddress loopback.authority request.bucket
      issued).written.length ≤ longestTarget := by
    rw [Storage.headAddress, Storage.written_addressAt]
    decide +kernel
  have hauthorized : (loopback.authorize line request issued).2 = .ok _ :=
    loopback.isSpoken.authorize_of_found hcheck hshort rfl (Or.inl rfl) ⟨200, rfl, rfl⟩
  have hgrant := Granter.grant_of_authorize hcheck hauthorized
  have hvalid := Granter.validUntil?_of_grant ⟨_, loopback.read_endpoint⟩ hgrant
  refine ⟨_, _, hgrant, hvalid, ?_, ?_, by decide⟩
  · exact Grant.isExpiredAt_eq_false_iff.2 (by decide)
  · exact Grant.authorizes_iff.2 ⟨⟨rfl, rfl, rfl⟩, by decide⟩

end SignedAccess
