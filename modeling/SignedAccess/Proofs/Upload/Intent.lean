/-
# What a signature stands for

The signed text of an upload is put together from pieces: bucket and key are escaped
and stand between slashes, day and seconds stand in the query, the content type ends
with its line. All of them are found again, so one text belongs to one intent: an
object, a collapsed content type, a time to hold and the second of issue. The fraction
of the second is the only part of an upload that leaves no trace in the address.
-/

import SignedAccess.Proofs.Time.Stamp
import SignedAccess.Proofs.Upload.ContentType
import SignedAccess.Proofs.Upload.Placement
import SignedAccess.Proofs.Upload.Recomputation

namespace SignedAccess

open Text Time

/-- What an upload is signed for: the object, the content type with single spaces, the
seconds to hold and the second of issue. -/
structure Intent where
  bucket : String
  key : String
  contentType : List Char
  expires : Nat
  second : Instant
  deriving DecidableEq

/-- What a request asks for that is signed at an instant. -/
def UploadRequest.intent (request : UploadRequest) (now : Instant) : Intent :=
  ⟨request.bucket, request.key, collapse request.contentType.toList, request.expires,
    now.wholeSecond⟩

/-- The intent that a signed text tells: the object by its path, the times by its query
and the content type by its first header. -/
def Intent.ofSigned? (text : List Char) : Option Intent :=
  match fields (· == '\n') text with
  | _ :: path :: query :: header :: _ => do
      let (bucket, key) ← namedObject? path
      let (_, contentType) ← cutFirst (· == ':') header
      let expires ← readDigits? (← queryValue? query "X-Amz-Expires".toList)
      let second ← Instant.ofStamp? (← queryValue? query "X-Amz-Date".toList)
      some ⟨String.ofList bucket, String.ofList key, contentType, expires, second⟩
  | _ => none

theorem UploadRequest.intent_eq_iff {request other : UploadRequest} {now later : Instant} :
    request.intent now = other.intent later ↔
      request.bucket = other.bucket ∧ request.key = other.key ∧
        request.expires = other.expires ∧
        (now.seconds = later.seconds ∧ now.isLeap = later.isLeap) ∧
        collapse request.contentType.toList = collapse other.contentType.toList := by
  rw [intent, intent, Intent.mk.injEq, Instant.wholeSecond_eq_iff]
  constructor
  · rintro ⟨hbucket, hkey, htype, hexpires, hsecond⟩
    exact ⟨hbucket, hkey, hexpires, hsecond, htype⟩
  · rintro ⟨hbucket, hkey, hexpires, hsecond, htype⟩
    exact ⟨hbucket, hkey, htype, hexpires, hsecond⟩

/-! ### Lines -/

theorem ne_newline_of_isUriChar {c : Char} (hc : isUriChar c = true) : c ≠ '\n' := by
  rintro rfl
  exact absurd hc (by decide)

theorem ne_newline_of_mem_objectPath {bucket key : String} {c : Char}
    (hc : c ∈ objectPath bucket (some key)) : c ≠ '\n' := by
  rcases mem_objectPath hc with rfl | hchar
  · decide
  · exact ne_newline_of_isUriChar hchar

theorem SigningOrder.ne_newline_of_mem_query {order : SigningOrder} {accessKey : String}
    {host : List Char} {c : Char} (hc : c ∈ order.query accessKey host) : c ≠ '\n' := by
  rcases mem_query hc with rfl | rfl | hchar
  · decide
  · decide
  · exact ne_newline_of_isUriChar hchar

/-- No header value can begin a line of its own: the only blank it holds is the space. -/
theorem ne_newline_of_mem_collapse {cs : List Char} {c : Char} (hc : c ∈ collapse cs) :
    c ≠ '\n' := by
  rintro rfl
  exact absurd (isPlainlySpaced_collapse cs '\n' hc (by decide)) (by decide)

namespace Storage

variable (storage : Storage) (request : UploadRequest) (now : Instant) (accessKey : String)
  (host : List Char)

/-- The first four lines of the signed text, whatever the host. -/
theorem fields_canonicalRequest :
    ∃ rest, fields (· == '\n')
        ((storage.uploadOrder request now).canonicalRequest accessKey host) =
      "PUT".toList :: objectPath request.bucket (some request.key) ::
        (storage.uploadOrder request now).query accessKey host ::
        ("content-type:".toList ++ collapse request.contentType.toList) :: rest := by
  have hlines : (storage.uploadOrder request now).headerLines host =
      ("content-type:".toList ++ collapse request.contentType.toList) ++
        '\n' :: ("host:".toList ++ host ++ ['\n']) := by
    have hhost : "\nhost:".toList = '\n' :: "host:".toList := by decide
    rw [headerLines_uploadOrder, hhost]
    simp only [List.append_assoc, List.cons_append]
  have htext : (storage.uploadOrder request now).canonicalRequest accessKey host =
      "PUT".toList ++ '\n' :: (objectPath request.bucket (some request.key) ++
        '\n' :: ((storage.uploadOrder request now).query accessKey host ++
          '\n' :: (("content-type:".toList ++ collapse request.contentType.toList) ++
            '\n' :: (("host:".toList ++ host ++ ['\n']) ++
              '\n' :: ((storage.uploadOrder request now).headerNames host ++
                '\n' :: "UNSIGNED-PAYLOAD".toList))))) := by
    rw [SigningOrder.canonicalRequest, hlines]
    simp only [List.intercalate_cons_cons, List.intercalate_singleton, List.append_assoc,
      List.cons_append, List.nil_append]
    rfl
  have hmethod : ∀ c ∈ "PUT".toList, (c == '\n') = false := forall_mem_of_all (by decide)
  have hheader : ∀ c ∈ "content-type:".toList ++ collapse request.contentType.toList,
      (c == '\n') = false := by
    have hname : ∀ c ∈ "content-type:".toList, (c == '\n') = false :=
      forall_mem_of_all (by decide)
    intro c hc
    rcases List.mem_append.1 hc with hin | hin
    · exact hname c hin
    · exact beq_false_of_ne (ne_newline_of_mem_collapse hin)
  rw [htext, fields_append_cons hmethod rfl,
    fields_append_cons (fun c hc => beq_false_of_ne (ne_newline_of_mem_objectPath hc)) rfl,
    fields_append_cons (fun c hc => beq_false_of_ne (SigningOrder.ne_newline_of_mem_query hc)) rfl,
    fields_append_cons hheader rfl]
  exact ⟨_, rfl⟩

/-- The signed text of an upload tells its intent. -/
theorem ofSigned?_canonicalRequest :
    Intent.ofSigned? ((storage.uploadOrder request now).canonicalRequest accessKey host) =
      some (request.intent now) := by
  obtain ⟨rest, hfields⟩ := storage.fields_canonicalRequest request now accessKey host
  have hcut : cutFirst (· == ':') ("content-type:".toList ++ collapse request.contentType.toList) =
      some ("content-type".toList, collapse request.contentType.toList) := by
    have hname : ∀ c ∈ "content-type".toList, (c == ':') = false := forall_mem_of_all (by decide)
    have hcolon : "content-type:".toList = "content-type".toList ++ [':'] := by decide
    rw [hcolon, List.append_assoc, List.singleton_append]
    exact cutFirst_append hname rfl
  simp only [Intent.ofSigned?, hfields, namedObject?_objectPath, hcut, queryValue?_expires,
    queryValue?_date, readDigits?_decimal, Instant.ofStamp?_stamp, Option.bind_eq_bind,
    Option.bind_some, String.ofList_toList]
  rfl

end Storage

/-! ### One intent, one address -/

namespace SigningOrder

/-- The orders agree on all that is signed; of the instants only the second counts. -/
structure Agrees (order other : SigningOrder) : Prop where
  method : order.method = other.method
  path : order.path = other.path
  headers : ∀ host, order.signedHeaders host = other.signedHeaders host
  region : order.region = other.region
  expires : order.expires = other.expires
  second : order.issuedAt.wholeSecond = other.issuedAt.wholeSecond

namespace Agrees

variable {order other : SigningOrder} (h : order.Agrees other)

include h

theorem scope_eq : order.scope = other.scope := by
  rw [scope, scope, h.region, Instant.dayStamp_of_wholeSecond h.second]

theorem headerNames_eq (host : List Char) : order.headerNames host = other.headerNames host := by
  rw [headerNames, headerNames, h.headers]

theorem query_eq (accessKey : String) (host : List Char) :
    order.query accessKey host = other.query accessKey host := by
  simp only [query, queryPairs, h.scope_eq, h.headerNames_eq, h.expires,
    Instant.stamp_eq_iff.2 h.second]

theorem canonicalRequest_eq (accessKey : String) (host : List Char) :
    order.canonicalRequest accessKey host = other.canonicalRequest accessKey host := by
  simp only [canonicalRequest, headerLines, h.method, h.path, h.query_eq, h.headers,
    h.headerNames_eq]

theorem signature_eq (credentials : Credentials) (host : List Char) :
    order.signature credentials host = other.signature credentials host := by
  simp only [signature, h.canonicalRequest_eq, h.scope_eq, h.region,
    Instant.stamp_eq_iff.2 h.second, Instant.dayStamp_of_wholeSecond h.second]

/-- Orders that agree are signed with one address, for every endpoint. -/
theorem sign_eq (credentials : Credentials) (endpoint : Address) :
    order.sign credentials endpoint = other.sign credentials endpoint := by
  simp only [sign, addressText, h.path, h.query_eq, h.signature_eq]

end Agrees

end SigningOrder

/-- Uploads of one intent agree: nothing else of them is signed. -/
theorem Storage.agrees_of_intent (storage : Storage) {request other : UploadRequest}
    {now later : Instant} (hintent : request.intent now = other.intent later) :
    (storage.uploadOrder request now).Agrees (storage.uploadOrder other later) := by
  obtain ⟨hbucket, hkey, hexpires, hsecond, htype⟩ := UploadRequest.intent_eq_iff.1 hintent
  constructor
  case method => rfl
  case path =>
    have hpath : objectPath request.bucket (some request.key) =
        objectPath other.bucket (some other.key) := by rw [hbucket, hkey]
    exact hpath
  case headers =>
    intro host
    rw [storage.signedHeaders_uploadOrder, storage.signedHeaders_uploadOrder, htype]
  case region => rfl
  case expires => exact hexpires
  case second => exact Instant.wholeSecond_eq_iff.2 hsecond

/-- Two uploads share their signed text exactly when they have one intent. -/
theorem Storage.canonicalRequest_eq_iff_intent (storage : Storage) (request other : UploadRequest)
    (now later : Instant) (accessKey : String) (host : List Char) :
    (storage.uploadOrder request now).canonicalRequest accessKey host =
        (storage.uploadOrder other later).canonicalRequest accessKey host ↔
      request.intent now = other.intent later := by
  constructor
  · intro htext
    have hread := congrArg Intent.ofSigned? htext
    rw [ofSigned?_canonicalRequest, ofSigned?_canonicalRequest] at hread
    exact Option.some.inj hread
  · intro hintent
    exact (storage.agrees_of_intent hintent).canonicalRequest_eq accessKey host

/-- The signed text pins an upload down: two uploads share it exactly when bucket, key,
seconds to hold, second of issue and collapsed content type are the same, a leap second
being another second than the one before it. Uploads that are the same in this are
signed with one address, whatever the fractions of their seconds, and so the addresses
that are handed out for them are equal. -/
theorem signed_text_pins_upload {ε : Type} (storage : Storage) (request other : UploadRequest)
    (now later : Instant) (host : List Char) :
    let order := storage.uploadOrder request now
    let otherOrder := storage.uploadOrder other later
    let accessKey := storage.credentials.accessKey
    let isSame := request.bucket = other.bucket ∧ request.key = other.key ∧
      request.expires = other.expires ∧ (now.seconds = later.seconds ∧ now.isLeap = later.isLeap) ∧
      collapse request.contentType.toList = collapse other.contentType.toList
    (order.canonicalRequest accessKey host = otherOrder.canonicalRequest accessKey host ↔ isSame) ∧
      (isSame → storage.sign order = storage.sign otherOrder) ∧
      (isSame → ∀ (line otherLine : Line ε) (address otherAddress : Address),
        (storage.authorize line request now).2 = .ok address →
        (storage.authorize otherLine other later).2 = .ok otherAddress →
        address = otherAddress) := by
  intro order otherOrder accessKey isSame
  have hsign : isSame → storage.sign order = storage.sign otherOrder := by
    intro hsame
    have hagrees := storage.agrees_of_intent (UploadRequest.intent_eq_iff.2 hsame)
    have hsigned : order.sign storage.credentials storage.endpoint =
        otherOrder.sign storage.credentials storage.endpoint := hagrees.sign_eq _ _
    rw [Storage.sign, hsigned, Storage.sign]
  refine ⟨?_, hsign, ?_⟩
  · exact (storage.canonicalRequest_eq_iff_intent request other now later accessKey host).trans
      UploadRequest.intent_eq_iff
  · intro hsame line otherLine address otherAddress haddress hother
    have hfirst : storage.sign order = .ok address := Storage.sign_of_authorize haddress
    have hsecond : storage.sign otherOrder = .ok otherAddress := Storage.sign_of_authorize hother
    rw [hsign hsame, hsecond] at hfirst
    exact (Except.ok.inj hfirst).symm

/-- Slashes of a key do not move into the name of its bucket: two objects with one
unescaped path have two signed texts. -/
example :
    (loopback.uploadOrder ⟨"a/b", "c", "image/jpeg", 60⟩ leapBeforeYearZero).canonicalRequest ""
        [] ≠
      (loopback.uploadOrder ⟨"a", "b/c", "image/jpeg", 60⟩ leapBeforeYearZero).canonicalRequest ""
        [] := by
  rw [Ne, Storage.canonicalRequest_eq_iff_intent]
  decide

end SignedAccess
