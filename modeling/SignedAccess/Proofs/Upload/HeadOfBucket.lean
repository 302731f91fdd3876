/-
# The head of a bucket

Before an upload is signed the storage is asked for the head of the bucket. This request is
signed itself, and it can be sent to every endpoint that is spoken to, plain or secure,
unless the names in its query make its address longer than any target may be. The status of
the answer alone tells what becomes of the upload.
-/

import SignedAccess.Proofs.Exchange.Sending
import SignedAccess.Proofs.Upload.SignedAddress

namespace SignedAccess

open Text Time

/-! ### The request for the head of a bucket -/

/-- The request for the head of a bucket as a peer sees it. -/
def headSight (head : Address) : Sight where
  method := "HEAD"
  address := head.toString
  host := String.ofList ((head.host?.map fun host => hostAndPort host head.port?).getD [])
  authorizations := []
  contentType := none
  userAgent := none
  cookies := []
  body := []

/-- The line after the head of a bucket was asked for once. -/
def Line.afterHead {ε : Type} (line : Line ε) (head : Address) : Line ε :=
  { line with turns := line.turns.tail, seen := headSight head :: line.seen }

/-- Another attempt may succeed after a status exactly when it blames the server. -/
theorem StorageFault.isRetryable_ofStatus (bucket : String) (status : Nat) :
    (StorageFault.ofStatus bucket status).isRetryable = blamesServer status := by
  have hkind : (StorageFault.ofStatus bucket status).isRetryable =
      (StorageFailure.ofStatus status).isRetryable := rfl
  rw [hkind, StorageFailure.ofStatus]
  split
  · rename_i hstatus
    rcases hstatus with rfl | rfl <;> rfl
  · split
    · rename_i hstatus
      rw [hstatus]
      rfl
    · split
      · rename_i hstatus
        rcases hstatus with rfl | rfl | rfl <;> rfl
      · cases blamesServer status <;> rfl

namespace Storage

/-- The storage is spoken to, plainly or with encryption, at a host that a client can
address. -/
structure IsSpoken (storage : Storage) (authority : Authority) : Prop where
  authority_eq : storage.endpoint.authority = some authority
  spoken : storage.endpoint.scheme = "http" ∨ storage.endpoint.scheme = "https"
  settled : authority.host.IsSettled
  addressable : authority.host.IsAddressable
  port : Address.KeepsPort storage.endpoint.scheme authority.port

theorem IsSpoken.hasDefaultPort {storage : Storage} {authority : Authority}
    (h : storage.IsSpoken authority) : hasDefaultPort storage.endpoint.scheme = true := by
  rcases h.spoken with hscheme | hscheme <;> rw [hscheme] <;> rfl

theorem isSpoken_of_read {storage : Storage}
    (hread : ∃ text, Address.read text = .ok storage.endpoint)
    (hspoken : storage.endpoint.scheme = "http" ∨ storage.endpoint.scheme = "https")
    (hhost : ∀ host ∈ storage.endpoint.host?, host.IsAddressable) :
    ∃ authority, storage.IsSpoken authority := by
  obtain ⟨text, hread⟩ := hread
  have hdefault : SignedAccess.hasDefaultPort storage.endpoint.scheme = true := by
    rcases hspoken with hscheme | hscheme <;> rw [hscheme] <;> rfl
  obtain ⟨authority, hauthority, hsettled, hport⟩ := Address.of_read hread hdefault
  have hnamed : storage.endpoint.host? = some authority.host := by
    simp [Address.host?, hauthority, Address.isEmpty_of_isSettled hsettled]
  exact ⟨authority, hauthority, hspoken, hsettled, hhost _ hnamed, hport⟩

/-- The address with which an order is signed at the host of an authority. -/
def addressAt (storage : Storage) (authority : Authority) (order : SigningOrder)
    (segments : List (List Char)) : Address :=
  Address.signedAddress storage.endpoint.scheme authority.host authority.port segments
    (order.signedQuery storage.credentials (hostAndPort authority.host authority.port))

theorem written_addressAt (storage : Storage) (authority : Authority) (order : SigningOrder)
    (segments : List (List Char)) :
    (storage.addressAt authority order segments).written =
      Address.signedText storage.endpoint.scheme authority.host authority.port segments
        (order.signedQuery storage.credentials (hostAndPort authority.host authority.port)) :=
  Address.written_signedAddress _ _ _ _ _

/-- The access key stands in every signed address, so the address is no shorter. -/
theorem length_accessKey_le (storage : Storage) (authority : Authority) (order : SigningOrder)
    (segments : List (List Char)) :
    storage.credentials.accessKey.toList.length ≤
      (storage.addressAt authority order segments).written.length := by
  let credential := storage.credentials.accessKey.toList ++ '/' :: order.scope
  let member := uriEncode "X-Amz-Credential".toList true ++ '=' :: uriEncode credential true
  have hmember : member.length ≤ (order.query storage.credentials.accessKey
      (hostAndPort authority.host authority.port)).length :=
    length_le_intercalate (List.mem_cons_of_mem _ List.mem_cons_self)
  have hquery : (order.query storage.credentials.accessKey
      (hostAndPort authority.host authority.port)).length ≤
      (storage.addressAt authority order segments).written.length := by
    rw [written_addressAt, Address.signedText, SigningOrder.signedQuery]
    simp only [List.length_append, List.length_cons]
    omega
  calc storage.credentials.accessKey.toList.length
      ≤ credential.length := by
        rw [List.length_append]
        omega
    _ ≤ (uriEncode credential true).length := length_le_escape _ credential
    _ ≤ member.length := by
        rw [List.length_append, List.length_cons]
        omega
    _ ≤ (storage.addressAt authority order segments).written.length :=
        Nat.le_trans hmember hquery

namespace IsSpoken

variable {ε : Type} {storage : Storage} {authority : Authority} {order : SigningOrder}
  {segments : List (List Char)} (h : storage.IsSpoken authority)

include h

/-- A storage that is spoken to signs every order for a plain path. -/
theorem sign_eq (hpath : order.HasPath segments) :
    storage.sign order = .ok (storage.addressAt authority order segments) := by
  have hsigned := @SigningOrder.sign_eq order storage.credentials _ _ _ hpath h.hasDefaultPort
    h.authority_eq h.settled h.port
  rw [h.addressable.reread] at hsigned
  rw [sign, hsigned]
  rfl

theorem prepare_eq (hpath : order.HasPath segments) (method : String) :
    let address := storage.addressAt authority order segments
    Order.prepare ⟨method, address.toString, none, none⟩ =
      if address.written.length ≤ longestTarget then .ok ⟨method, address, [], none, []⟩
      else .error (.wrongTarget address.toString) :=
  Order.prepare_signedAddress h.spoken h.settled h.addressable h.port hpath.some_segment hpath.keeps
    (order.keepsQuery_signedQuery storage.credentials _) method

end IsSpoken

/-- What the outcome of the request for the head of a bucket means. -/
def headOutcome (bucket : String) : Except ExchangeFault Reply → Except StorageFault Unit
  | .error fault => .error (.ofExchange fault)
  | .ok reply =>
      if isSuccess reply.status then .ok () else .error (.ofStatus bucket reply.status)

theorem headOutcome_eq_ok_iff {bucket : String} {outcome : Except ExchangeFault Reply} :
    headOutcome bucket outcome = .ok () ↔
      ∃ status ∈ outcome.toOption.map (·.status), isSuccess status = true := by
  cases outcome with
  | error fault => simp [headOutcome, Except.toOption]
  | ok reply =>
      cases hsuccess : isSuccess reply.status <;>
        simp [headOutcome, Except.toOption, hsuccess]

theorem isRetryable_of_headOutcome {bucket : String} {outcome : Except ExchangeFault Reply}
    {fault : StorageFault} (hfault : headOutcome bucket outcome = .error fault) :
    fault.isRetryable = true ↔
      ∀ status ∈ outcome.toOption.map (·.status), blamesServer status = true := by
  cases outcome with
  | error failure =>
      cases hfault
      simp [Except.toOption, StorageFault.ofExchange, StorageFault.isRetryable,
        StorageFailure.isRetryable]
  | ok reply =>
      simp only [headOutcome] at hfault
      split at hfault
      · cases hfault
      · cases hfault
        rw [StorageFault.isRetryable_ofStatus]
        simp [Except.toOption]

theorem checkBucket_of_exchange {ε : Type} {storage : Storage} {line after : Line ε}
    {bucket : String} {now : Instant} {head : Address} {meanwhile : List ε}
    {outcome : Except ExchangeFault Reply}
    (hsign : storage.sign (storage.headOrder bucket now) = .ok head)
    (hexchange : line.exchange manner ⟨"HEAD", head.toString, none, none⟩ =
      (after, meanwhile, outcome)) :
    storage.checkBucket line bucket now = (after, headOutcome bucket outcome) := by
  rw [checkBucket, hsign]
  cases outcome with
  | error fault => simp only [hexchange, headOutcome]
  | ok reply =>
      simp only [hexchange, headOutcome]
      split <;> rfl

/-- The address that the head of a bucket is asked for with. -/
def headAddress (storage : Storage) (authority : Authority) (bucket : String) (now : Instant) :
    Address :=
  storage.addressAt authority (storage.headOrder bucket now) (objectSegments bucket none)

theorem sight_headAddress {ε : Type} (line : Line ε) (storage : Storage) (authority : Authority)
    (bucket : String) (now : Instant) :
    line.sight manner ⟨"HEAD", storage.headAddress authority bucket now, [], none, []⟩ =
      headSight (storage.headAddress authority bucket now) := by
  have hwritten : (storage.headAddress authority bucket now).written =
      (storage.headAddress authority bucket now).writtenWithoutFragment := List.append_nil _
  simp only [Line.sight, headSight, Address.toString, hwritten]
  rfl

namespace IsSpoken

variable {ε : Type} {storage : Storage} {authority : Authority} {bucket : String} {now : Instant}
  {line : Line ε} (h : storage.IsSpoken authority)
  (hbucket : brokenRule? bucket.toList = none)

include h hbucket

theorem sign_headOrder (now : Instant) :
    storage.sign (storage.headOrder bucket now) =
      .ok (storage.headAddress authority bucket now) :=
  h.sign_eq (storage.hasPath_headOrder now hbucket)

theorem prepare_headOrder (now : Instant) :
    let head := storage.headAddress authority bucket now
    Order.prepare ⟨"HEAD", head.toString, none, none⟩ =
      if head.written.length ≤ longestTarget then .ok ⟨"HEAD", head, [], none, []⟩
      else .error (.wrongTarget head.toString) :=
  h.prepare_eq (storage.hasPath_headOrder now hbucket) "HEAD"

/-- Where the request for the head cannot be sent, nothing happens on the line. -/
theorem checkBucket_of_unsent
    (hunsent : ¬(line.reachable = true ∧
      (storage.headAddress authority bucket now).written.length ≤ longestTarget)) :
    ∃ fault, storage.checkBucket line bucket now = (line, .error fault) ∧
      fault.isRetryable = true := by
  have hexchange : ∃ fault, line.exchange manner
      ⟨"HEAD", (storage.headAddress authority bucket now).toString, none, none⟩ =
        (line, [], .error fault) := by
    cases hreachable : line.reachable with
    | false => exact Line.exchange_of_unreachable manner hreachable
    | true =>
        have hlong : ¬(storage.headAddress authority bucket now).written.length ≤ longestTarget :=
          fun hshort => hunsent ⟨hreachable, hshort⟩
        exact ⟨_, Line.exchange_of_error manner
          ((h.prepare_headOrder hbucket now).trans (if_neg hlong))⟩
  obtain ⟨fault, hexchange⟩ := hexchange
  exact ⟨.ofExchange fault, checkBucket_of_exchange (h.sign_headOrder hbucket now) hexchange, rfl⟩

/-- The request for the head is sent once, and the status of its answer alone tells
whether the bucket was found and whether another attempt may succeed. -/
theorem checkBucket_of_sent (hreachable : line.reachable = true)
    (hanswers : storage.endpoint.scheme = "http" ∨ line.answersSecure = true)
    (hshort : (storage.headAddress authority bucket now).written.length ≤ longestTarget) :
    let answer := (line.turns.head?.getD Line.exhausted).answer
    ∃ outcome, storage.checkBucket line bucket now =
        (line.afterHead (storage.headAddress authority bucket now), outcome) ∧
      (outcome = .ok () ↔ ∃ status ∈ answer.status?, isSuccess status = true) ∧
      ∀ fault, outcome = .error fault →
        (fault.isRetryable = true ↔ ∀ status ∈ answer.status?, blamesServer status = true) := by
  intro answer
  have hprepare := (h.prepare_headOrder hbucket now).trans (if_pos hshort)
  have hopen : line.tunnels ⟨"HEAD", storage.headAddress authority bucket now, [], none, []⟩ =
      false := by
    rw [Line.tunnels_eq_false_iff]
    refine hanswers.imp_left fun hplain => ?_
    rw [headAddress, addressAt, Address.signedAddress, hplain]
    decide
  obtain ⟨outcome, hexchange, hstatus⟩ :=
    Line.exchange_of_open manner hprepare hreachable hopen rfl
  rw [sight_headAddress] at hexchange
  refine ⟨headOutcome bucket outcome,
    checkBucket_of_exchange (h.sign_headOrder hbucket now) hexchange, ?_, ?_⟩
  · rw [headOutcome_eq_ok_iff, hstatus]
  · intro fault hfault
    rw [isRetryable_of_headOutcome hfault, hstatus]

theorem origin_headAddress (now : Instant) :
    (storage.headAddress authority bucket now).origin? = storage.endpoint.origin? ∧
      (storage.headAddress authority bucket now).path.written = '/' :: bucket.toList := by
  have horigin : (storage.headAddress authority bucket now).origin? = storage.endpoint.origin? := by
    simp [headAddress, addressAt, Address.signedAddress, Address.origin?, h.authority_eq]
  have hpath :
      (storage.headAddress authority bucket now).path.written = objectPath bucket none := by
    rw [objectPath_eq]
    simp [headAddress, addressAt, Address.signedAddress, AddressPath.written, Address.pathText,
      List.flatMap_map]
  exact ⟨horigin, hpath.trans (objectPath_of_brokenRule? hbucket)⟩

end IsSpoken

/-- A permitted upload is signed once its bucket was found, and cannot fail then. -/
theorem IsSpoken.authorize_eq {ε : Type} {storage : Storage} {authority : Authority}
    {policy : GrantPolicy} {request : UploadRequest} {now : Instant} {line after : Line ε}
    {outcome : Except StorageFault Unit} (h : storage.IsSpoken authority)
    (hcheck : policy.check request = .ok ())
    (hbucket : storage.checkBucket line request.bucket now = (after, outcome)) :
    storage.authorize line request now =
      (after, outcome.map fun _ => storage.addressAt authority (storage.uploadOrder request now)
        (objectSegments request.bucket (some request.key))) := by
  rw [authorize, hbucket]
  cases outcome with
  | error fault => rfl
  | ok found =>
      simp only
      rw [h.sign_eq (storage.hasPath_uploadOrder now hcheck)]
      rfl

/-- A permitted upload is signed once the storage answers that the bucket is there. -/
theorem IsSpoken.authorize_of_found {ε : Type} {storage : Storage} {authority : Authority}
    {policy : GrantPolicy} {request : UploadRequest} {now : Instant} {line : Line ε}
    (h : storage.IsSpoken authority) (hcheck : policy.check request = .ok ())
    (hshort : (storage.headAddress authority request.bucket now).written.length ≤ longestTarget)
    (hreachable : line.reachable = true)
    (hanswers : storage.endpoint.scheme = "http" ∨ line.answersSecure = true)
    (hfound : ∃ status ∈ (line.turns.head?.getD Line.exhausted).answer.status?,
      isSuccess status = true) :
    (storage.authorize line request now).2 =
      .ok (storage.addressAt authority (storage.uploadOrder request now)
        (objectSegments request.bucket (some request.key))) := by
  obtain ⟨outcome, hbucket, hiff, -⟩ :=
    h.checkBucket_of_sent (of_check hcheck).1 hreachable hanswers hshort
  rw [h.authorize_eq hcheck hbucket, hiff.2 hfound]
  rfl

end Storage

/-! ### A storage on the same machine -/

/-- A storage at a port of its own, named by its eight groups. -/
def loopback : Storage where
  endpoint :=
    { scheme := "http", authority := some ⟨none, .groups8 [0, 0, 0, 0, 0, 0, 0, 1], some 9000⟩
      path := .segments [""], query := none, fragment := none }
  region := "us-east-1"
  credentials := ⟨"AKIDEXAMPLE", "secret"⟩

/-- The same storage behind encryption. -/
def secureLoopback : Storage :=
  { loopback with endpoint := { loopback.endpoint with scheme := "https" } }

namespace loopback

/-- Where this storage is found, plainly or behind encryption. -/
def authority : Authority := ⟨none, .groups8 [0, 0, 0, 0, 0, 0, 0, 1], some 9000⟩

theorem host_isSettled : (Host.groups8 [0, 0, 0, 0, 0, 0, 0, 1]).IsSettled := by
  simp [Host.IsSettled]

theorem read_host : Host.read (Host.groups8 [0, 0, 0, 0, 0, 0, 0, 1]).written =
    .ok (.groups8 [0, 0, 0, 0, 0, 0, 0, 1]) := by
  decide

theorem isAddressable :
    (Host.groups8 [0, 0, 0, 0, 0, 0, 0, 1]).IsAddressable where
  reread := read_host
  plain := by decide

theorem isAddressable_host : ∀ host ∈ loopback.endpoint.host?, host.IsAddressable := by
  rintro host ⟨⟩
  exact isAddressable

theorem keepsPort : Address.KeepsPort "http" (some 9000) := by
  rintro n ⟨⟩
  decide

theorem isSpoken : loopback.IsSpoken authority :=
  ⟨rfl, Or.inl rfl, host_isSettled, isAddressable, keepsPort⟩

theorem read_endpoint : Address.read "http://[::1]:9000".toList = .ok loopback.endpoint := by
  decide

end loopback

namespace secureLoopback

theorem isSpoken : secureLoopback.IsSpoken loopback.authority :=
  ⟨rfl, Or.inr rfl, loopback.host_isSettled, loopback.isAddressable, by rintro n ⟨⟩; decide⟩

theorem read_endpoint :
    Address.read "https://[::1]:9000".toList = .ok secureLoopback.endpoint := by
  decide

end secureLoopback

/-- The leap second at the end of the year -2. -/
def leapBeforeYearZero : Instant := ⟨-62198755201, 1500000000, by decide, by decide⟩

/-- At this instant the head of a bucket can be asked for at both. -/
theorem loopback.short_headAddress :
    (loopback.headAddress authority "marketplace" leapBeforeYearZero).written.length ≤
        longestTarget ∧
      (secureLoopback.headAddress authority "marketplace" leapBeforeYearZero).written.length ≤
        longestTarget := by
  rw [Storage.headAddress, Storage.headAddress, Storage.written_addressAt,
    Storage.written_addressAt]
  decide +kernel

end SignedAccess
