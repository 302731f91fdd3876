/-
# The bucket comes first

A request that the policy rejects goes nowhere. One that it permits costs one request,
signed for the head of its bucket, and the answer to this alone decides: where the bucket
is found, nothing can fail any more. The endpoint may be plain, or a secure one where the
line answers at secure addresses.
-/

import SignedAccess.Proofs.Upload.HeadOfBucket

namespace SignedAccess

open Text Time

/-! ### What a grant permits -/

namespace Grant

theorem isExpiredAt_eq_false_iff {grant : Grant} {now : Instant} :
    grant.isExpiredAt now = false ↔ now < grant.expiresAt := by
  rw [isExpiredAt, decide_eq_false_iff_not, Instant.not_le]

/-- A grant permits its own upload before it expires, and nothing else. -/
theorem authorizes_iff {grant : Grant} {bucket key contentType : String} {now : Instant} :
    grant.authorizes bucket key contentType now = true ↔
      (bucket = grant.request.bucket ∧ key = grant.request.key ∧
        contentType = grant.request.contentType) ∧ now < grant.expiresAt := by
  simp only [authorizes, Bool.and_eq_true, beq_iff_eq, Bool.not_eq_true',
    isExpiredAt_eq_false_iff, and_assoc]
  exact ⟨fun ⟨hb, hk, hc, hnow⟩ => ⟨hb.symm, hk.symm, hc.symm, hnow⟩,
    fun ⟨hb, hk, hc, hnow⟩ => ⟨hb.symm, hk.symm, hc.symm, hnow⟩⟩

/-- A grant that holds for some time expires that many seconds later, at the same
fraction of the second. -/
theorem expiresAt_eq {grant : Grant} (hexpires : 1 ≤ grant.request.expires) :
    grant.expiresAt.seconds = grant.issuedAt.seconds + grant.request.expires ∧
      grant.expiresAt.nanos = grant.issuedAt.fraction := by
  have hne : grant.request.expires ≠ 0 := by omega
  simp only [expiresAt, Instant.addSeconds, if_neg hne, Instant.fraction, and_self]

end Grant

/-! ### Grants -/

namespace Granter

variable {ε : Type} {storage : Storage} {policy : GrantPolicy} {line : Line ε}
  {request : UploadRequest} {now : Instant}

theorem grant_of_rejected {plane : ControlPlane} {fault : PolicyFault}
    (hcheck : policy.check request = .error fault) :
    (Granter.mk plane policy).grant line request now = (line, .error (.policy fault)) := by
  rw [grant, hcheck]

/-- A refusal of the policy is what a request ends with exactly when the policy gives it:
the storage has faults of its own. -/
theorem grant_eq_policy_iff {granter : Granter} {fault : PolicyFault} :
    (granter.grant line request now).2 = .error (.policy fault) ↔
      granter.policy.check request = .error fault := by
  unfold grant
  cases granter.policy.check request with
  | error found => simp
  | ok passed =>
      simp only
      split <;> simp

/-- A permitted request is granted exactly when its bucket is found. -/
theorem grant_of_checkBucket {authority : Authority} {after : Line ε}
    {outcome : Except StorageFault Unit} (h : storage.IsSpoken authority)
    (hcheck : policy.check request = .ok ())
    (hbucket : storage.checkBucket line request.bucket now = (after, outcome)) :
    ∃ address, (Granter.mk (.signing storage) policy).grant line request now =
      (after, match outcome with
        | .error fault => .error (.storage fault)
        | .ok () => .ok ⟨address, request, now⟩) := by
  refine ⟨storage.addressAt authority (storage.uploadOrder request now)
    (objectSegments request.bucket (some request.key)), ?_⟩
  rw [grant, hcheck]
  simp only [ControlPlane.authorize, h.authorize_eq hcheck hbucket]
  cases outcome with
  | error fault => rfl
  | ok found => rfl

/-- A permitted request is granted with the address that the storage hands out. -/
theorem grant_of_authorize {address : Address} (hcheck : policy.check request = .ok ())
    (hauthorized : (storage.authorize line request now).2 = .ok address) :
    ((Granter.mk (.signing storage) policy).grant line request now).2 =
      .ok ⟨address, request, now⟩ := by
  rw [grant, hcheck]
  simp only [ControlPlane.authorize]
  split
  · rename_i hfault
    rw [hfault] at hauthorized
    cases hauthorized
  · rename_i hfound
    rw [hfound] at hauthorized
    cases hauthorized
    rfl

/-- What a grant says was asked for, and its address is signed for this. -/
theorem of_grant {grant : Grant}
    (hgrant : ((Granter.mk (.signing storage) policy).grant line request now).2 = .ok grant) :
    policy.check request = .ok () ∧ grant.request = request ∧ grant.issuedAt = now ∧
      storage.sign (storage.uploadOrder request now) = .ok grant.address := by
  unfold Granter.grant at hgrant
  split at hgrant
  · cases hgrant
  · rename_i hcheck
    split at hgrant
    · cases hgrant
    · rename_i after address hauthorized
      cases hgrant
      exact ⟨hcheck, rfl, rfl, Storage.sign_of_authorize (congrArg Prod.snd hauthorized)⟩

end Granter

/-- A request that the policy rejects is not taken to the storage. For one that it
permits the head of the bucket is asked for, once, at the origin of the endpoint; it is
granted exactly when the answer is a success, and a failure is worth another attempt
exactly when there is no answer or one that blames the server. Where no peer is in reach
or the address for the head is too long, nothing is asked for. A grant permits its own
upload until as many seconds have passed as were asked for, at most those that the policy
allows. -/
theorem grant_hangs_on_bucket_check {ε : Type} (storage : Storage) (longest : Nat)
    (fronts : List String) (line : Line ε) (request : UploadRequest) (now : Instant)
    (hread : ∃ text, Address.read text = .ok storage.endpoint)
    (hscheme : storage.endpoint.scheme = "http" ∨
      storage.endpoint.scheme = "https" ∧ line.answersSecure = true)
    (hhost : ∀ host ∈ storage.endpoint.host?, host.IsAddressable)
    (hclock : now.seconds + longestGrant ≤ Instant.lastSecond) :
    let policy := (GrantPolicy.ofLongest longest).reserving fronts
    let granted := (Granter.mk (.signing storage) policy).grant line request now
    let answer := (line.turns.head?.getD Line.exhausted).answer
    (∀ fault, policy.check request = .error fault → granted = (line, .error (.policy fault))) ∧
    (policy.check request = .ok () →
      ∃ head, storage.sign (storage.headOrder request.bucket now) = .ok head ∧
        head.origin? = storage.endpoint.origin? ∧
        head.path.written = '/' :: request.bucket.toList ∧
        if line.reachable = true ∧ head.written.length ≤ longestTarget then
          granted.1 = line.afterHead head ∧
          ((∃ grant, granted.2 = .ok grant) ↔
            ∃ status ∈ answer.status?, isSuccess status = true) ∧
          ∀ fault, granted.2 = .error fault → ∃ failure, fault = .storage failure ∧
            (failure.isRetryable = true ↔ ∀ status ∈ answer.status?, blamesServer status = true)
        else ∃ failure, granted = (line, .error (.storage failure)) ∧ failure.isRetryable = true) ∧
    (∀ grant, granted.2 = .ok grant →
      grant.request = request ∧ grant.issuedAt = now ∧
      storage.sign (storage.uploadOrder request now) = .ok grant.address ∧
      (1 ≤ request.expires ∧ request.expires ≤ min longest longestGrant) ∧
      (grant.expiresAt.seconds = now.seconds + request.expires ∧
        grant.expiresAt.nanos = now.fraction ∧ grant.expiresAt.seconds ≤ Instant.lastSecond) ∧
      ∀ bucket key contentType time, grant.authorizes bucket key contentType time = true ↔
        (bucket = request.bucket ∧ key = request.key ∧ contentType = request.contentType) ∧
          time < grant.expiresAt) := by
  intro policy granted answer
  obtain ⟨authority, hspoken⟩ :=
    Storage.isSpoken_of_read hread (hscheme.imp_right And.left) hhost
  refine ⟨fun fault hcheck => Granter.grant_of_rejected hcheck, fun hcheck => ?_,
    fun grant hgrant => ?_⟩
  · have hbucket := (of_check hcheck).1
    obtain ⟨horigin, hpath⟩ := hspoken.origin_headAddress hbucket now
    refine ⟨storage.headAddress authority request.bucket now, hspoken.sign_headOrder hbucket now,
      horigin, hpath, ?_⟩
    split
    · rename_i hsent
      obtain ⟨outcome, hchecked, hfound, hretryable⟩ :=
        hspoken.checkBucket_of_sent hbucket hsent.1 (hscheme.imp_right And.right) hsent.2
      obtain ⟨address, hgrant⟩ := Granter.grant_of_checkBucket hspoken hcheck hchecked
      have hgranted : granted = _ := hgrant
      rw [hgranted, ← hfound]
      cases outcome with
      | error failure =>
          refine ⟨rfl, by simp, fun fault hfault => ?_⟩
          cases hfault
          exact ⟨failure, rfl, hretryable failure rfl⟩
      | ok found => exact ⟨rfl, by simp, nofun⟩
    · rename_i hunsent
      obtain ⟨failure, hchecked, hretryable⟩ := hspoken.checkBucket_of_unsent hbucket hunsent
      obtain ⟨address, hgrant⟩ := Granter.grant_of_checkBucket hspoken hcheck hchecked
      exact ⟨failure, hgrant, hretryable⟩
  · obtain ⟨hcheck, rfl, rfl, hsign⟩ := Granter.of_grant hgrant
    obtain ⟨hpositive, hmost⟩ := expires_of_check hcheck
    obtain ⟨hseconds, hnanos⟩ := Grant.expiresAt_eq hpositive
    have hlongest : policy.longest = min longest longestGrant := rfl
    rw [hlongest] at hmost
    refine ⟨rfl, rfl, hsign, ⟨hpositive, hmost⟩, ⟨hseconds, hnanos, ?_⟩,
      fun bucket key contentType time => Grant.authorizes_iff⟩
    rw [hseconds]
    omega

/-- A storage on the same machine finds the bucket, and the permission holds for an hour
from the leap second on. -/
theorem grant_hangs_on_bucket_check_at_loopback :
    let request : UploadRequest := ⟨"marketplace", "photos/crane.jpg", "image/jpeg", 3600⟩
    let line : Line Unit := .ofTurns true [⟨[], .reply ⟨200, [], none⟩⟩]
    ∃ head grant, loopback.sign (loopback.headOrder request.bucket leapBeforeYearZero) = .ok head ∧
      (Granter.mk (.signing loopback) ((GrantPolicy.ofLongest 86400).reserving ["private/"])).grant
        line request leapBeforeYearZero = (line.afterHead head, .ok grant) ∧
      grant.authorizes "marketplace" "photos/crane.jpg" "image/jpeg" leapBeforeYearZero = true ∧
      grant.expiresAt.seconds = leapBeforeYearZero.seconds + 3600 := by
  intro request line
  have hcheck : ((GrantPolicy.ofLongest 86400).reserving ["private/"]).check request = .ok () := by
    decide +kernel
  obtain ⟨-, hpermitted, hgrant⟩ := grant_hangs_on_bucket_check loopback 86400 ["private/"] line
    request leapBeforeYearZero ⟨_, loopback.read_endpoint⟩ (Or.inl rfl) loopback.isAddressable_host
    (by decide)
  obtain ⟨head, hsign, -, -, hdone⟩ := hpermitted hcheck
  have hhead : head = loopback.headAddress loopback.authority request.bucket leapBeforeYearZero :=
    Except.ok.inj (hsign.symm.trans (loopback.isSpoken.sign_headOrder (of_check hcheck).1 _))
  have hshort : head.written.length ≤ longestTarget := hhead ▸ loopback.short_headAddress.1
  rw [if_pos ⟨rfl, hshort⟩] at hdone
  obtain ⟨hline, hgranted, -⟩ := hdone
  obtain ⟨grant, hok⟩ := hgranted.2 ⟨200, rfl, rfl⟩
  obtain ⟨-, -, -, -, ⟨hseconds, hnanos, -⟩, hauthorizes⟩ := hgrant grant hok
  refine ⟨head, grant, hsign, Prod.ext hline hok, ?_, hseconds⟩
  rw [hauthorizes]
  refine ⟨⟨rfl, rfl, rfl⟩, Instant.lt_def.2 (Or.inl ?_)⟩
  rw [hseconds]
  decide

/-- With an access key that is too long the head of no bucket is asked for. -/
theorem loopback.grant_of_long_accessKey {ε : Type} {accessKey : String} {policy : GrantPolicy}
    {request : UploadRequest} (line : Line ε) (now : Instant)
    (hlong : longestTarget < accessKey.toList.length) (hcheck : policy.check request = .ok ()) :
    ∃ failure, (Granter.mk (.signing { loopback with credentials := ⟨accessKey, "secret"⟩ })
      policy).grant line request now = (line, .error (.storage failure)) := by
  let storage : Storage := { loopback with credentials := ⟨accessKey, "secret"⟩ }
  have hspoken : storage.IsSpoken authority :=
    ⟨rfl, Or.inl rfl, host_isSettled, isAddressable, keepsPort⟩
  have hbucket := (of_check hcheck).1
  have hunsent : ¬(line.reachable = true ∧
      (storage.headAddress authority request.bucket now).written.length ≤ longestTarget) := by
    rintro ⟨-, hshort⟩
    have hkey := storage.length_accessKey_le authority (storage.headOrder request.bucket now)
      (objectSegments request.bucket none)
    exact absurd (Nat.lt_of_lt_of_le hlong (Nat.le_trans hkey hshort)) (Nat.lt_irrefl _)
  obtain ⟨failure, hchecked, -⟩ := hspoken.checkBucket_of_unsent hbucket hunsent
  obtain ⟨address, hgrant⟩ := Granter.grant_of_checkBucket hspoken hcheck hchecked
  exact ⟨failure, hgrant⟩

/-- An access key of seventy thousand letters makes the address for the head too long:
the bucket is not asked for, and nothing is granted, although a peer in reach would
answer with success. -/
theorem long_access_key_is_not_sent :
    let accessKey := String.ofList (List.replicate 70000 'A')
    let storage : Storage := { loopback with credentials := ⟨accessKey, "secret"⟩ }
    let request : UploadRequest := ⟨"marketplace", "photos/crane.jpg", "image/jpeg", 3600⟩
    let line : Line Unit := .ofTurns true [⟨[], .reply ⟨200, [], none⟩⟩]
    let granted :=
      (Granter.mk (.signing storage) GrantPolicy.standard).grant line request leapBeforeYearZero
    Address.read "http://[::1]:9000".toList = .ok storage.endpoint ∧
      (∀ host ∈ storage.endpoint.host?, host.IsAddressable) ∧
      leapBeforeYearZero.seconds + longestGrant ≤ Instant.lastSecond ∧
      GrantPolicy.standard.check request = .ok () ∧
      granted.1.seen = [] ∧ ∀ grant, granted.2 ≠ .ok grant := by
  intro accessKey storage request line granted
  have hcheck : GrantPolicy.standard.check request = .ok () := by decide +kernel
  have hlong : longestTarget < accessKey.toList.length := by
    rw [String.toList_ofList, List.length_replicate]
    decide
  obtain ⟨failure, hgrant⟩ := loopback.grant_of_long_accessKey line leapBeforeYearZero hlong
    hcheck
  have hgranted : granted = (line, .error (.storage failure)) := hgrant
  clear_value granted
  rw [hgranted]
  refine ⟨loopback.read_endpoint, loopback.isAddressable_host, by decide, hcheck, rfl, ?_⟩
  intro grant hok
  cases hok

end SignedAccess
