/-
# The storage recomputes the signature

What was signed was written before the address was read, and the storage sees the address
alone. Its signature agrees because reading changes none of the parts that were signed, and
because the key and the text that are made from these parts are the ones that the published
rules ask for.
-/

import SignedAccess.Proofs.Time.Stamp
import SignedAccess.Proofs.Upload.HeadOfBucket
import SignedAccess.Proofs.Upload.StorageSide

namespace SignedAccess

open Text Time

/-! ### The query read back -/

theorem cutFirst_member (name value : List Char) :
    cutFirst (· == '=') (uriEncode name true ++ '=' :: uriEncode value true) =
      some (uriEncode name true, uriEncode value true) := by
  refine cutFirst_append (fun c hc => ?_) rfl
  have hchar := of_isUriChar (isUriChar_of_mem_uriEncode_true hc)
  simpa using hchar.2.2.2.2.2.1

/-- The members of a query are read as they were written. -/
theorem queryMembers_intercalate {pairs : List (List Char × List Char)} (hne : pairs ≠ []) :
    queryMembers (['&'].intercalate (pairs.map fun (name, value) =>
      uriEncode name true ++ '=' :: uriEncode value true)) = pairs := by
  have hmarks : ∀ part ∈ pairs.map (fun (name, value) =>
      uriEncode name true ++ '=' :: uriEncode value true), ∀ c ∈ part, (c == '&') = false := by
    intro part hpart c hc
    obtain ⟨⟨name, value⟩, _, rfl⟩ := List.mem_map.1 hpart
    rw [beq_eq_false_iff_ne]
    rcases List.mem_append.1 hc with hin | hin
    · exact (of_isUriChar (isUriChar_of_mem_uriEncode_true hin)).2.2.2.2.1
    · rcases List.mem_cons.1 hin with rfl | hin
      · decide
      · exact (of_isUriChar (isUriChar_of_mem_uriEncode_true hin)).2.2.2.2.1
  unfold queryMembers
  rw [fields_intercalate (by simpa using hne) rfl hmarks, List.filterMap_map]
  refine (List.filterMap_congr fun pair _ => ?_).trans List.filterMap_some
  simp only [Function.comp_apply, cutFirst_member, Option.bind_eq_bind, Option.bind_some,
    unescape_uriEncode, decode?_encode]

/-- The query of an order tells the storage what was written into it. -/
theorem queryMembers_query (order : SigningOrder) (accessKey : String) (host : List Char) :
    queryMembers (order.query accessKey host) = order.queryPairs accessKey host :=
  queryMembers_intercalate (List.cons_ne_nil _ _)

theorem queryValue?_date (order : SigningOrder) (accessKey : String) (host : List Char) :
    queryValue? (order.query accessKey host) "X-Amz-Date".toList = some order.issuedAt.stamp := by
  unfold queryValue?
  rw [queryMembers_query]
  rfl

theorem queryValue?_expires (order : SigningOrder) (accessKey : String) (host : List Char) :
    queryValue? (order.query accessKey host) "X-Amz-Expires".toList =
      some (decimal order.expires) := by
  unfold queryValue?
  rw [queryMembers_query]
  rfl

theorem queryValue?_signedHeaders (order : SigningOrder) (accessKey : String)
    (host : List Char) :
    queryValue? (order.query accessKey host) "X-Amz-SignedHeaders".toList =
      some (order.headerNames host) := by
  unfold queryValue?
  rw [queryMembers_query]
  rfl

/-! ### The day of a stamp -/

/-- The day of a stamp is what stands before its letter, however many digits the
year has. -/
theorem takeWhile_stamp (issuedAt : Instant) :
    issuedAt.stamp.takeWhile (· != 'T') = issuedAt.dayStamp := by
  have hday : ∀ c ∈ issuedAt.dayStamp, (c != 'T') = true := by
    intro c hc
    simpa using Instant.ne_of_mem_dayStamp hc
  unfold Instant.stamp
  simp only [List.append_assoc, List.cons_append]
  exact takeWhile_append_stop hday rfl

/-! ### The rules agree -/

/-- The key that addresses are signed with is the one for day and region. -/
theorem derivedKey_eq (secretKey : String) (day region : List Char) :
    derivedKey secretKey.toList day region = signingKey secretKey day region := rfl

/-- The text that is signed for an order is the one for its instant, its day and its region. -/
theorem stringToSign_eq (order : SigningOrder) (canonicalRequest : List Char) :
    stringToSign order.issuedAt.stamp order.issuedAt.dayStamp order.region.toList
        canonicalRequest =
      textToSign order.issuedAt.stamp order.scope canonicalRequest := rfl

namespace ReceivedRequest

/-- The request brings along what the order signs: the method, and every signed
header under a name without semicolons. -/
structure Answers (r : ReceivedRequest) (order : SigningOrder) (host : List Char) : Prop where
  method : r.method = order.method
  some_header : order.signedHeaders host ≠ []
  names : ∀ header ∈ order.signedHeaders host, ∀ c ∈ header.1, (c == ';') = false
  values : ∀ header ∈ order.signedHeaders host, r.header? header.1 = some header.2

section Signed

variable {r : ReceivedRequest} {order : SigningOrder} {credentials : Credentials}
  {host : List Char}
  (hquery : r.address.query = some (String.ofList (order.signedQuery credentials host)))

include hquery

/-- The storage takes the query apart where the signature was put. -/
theorem signedQuery?_eq :
    r.signedQuery? =
      some (order.query credentials.accessKey host, order.signature credentials host) := by
  obtain ⟨hcut, hlast⟩ := order.cut_signedQuery credentials host
  unfold signedQuery?
  refine Option.bind_eq_some_iff.2 ⟨_, hquery, ?_⟩
  rw [String.toList_ofList]
  refine Option.bind_eq_some_iff.2 ⟨_, hcut, ?_⟩
  exact Option.bind_eq_some_iff.2 ⟨_, hlast, if_pos rfl⟩

variable (h : r.Answers order host)

include h

/-- The storage reads the names of the signed headers out of the query. -/
theorem signedNames?_eq : r.signedNames? = some ((order.signedHeaders host).map (·.1)) := by
  rw [signedNames?, signedQuery?_eq hquery]
  simp only [Option.bind_eq_bind, Option.bind_some, queryValue?_signedHeaders, Option.map_some,
    SigningOrder.fields_headerNames h.some_header h.names]

/-- The storage puts the canonical request together that was signed. -/
theorem canonicalRequest?_eq (hpath : r.address.path.written = order.path) :
    r.canonicalRequest? = some (order.canonicalRequest credentials.accessKey host) := by
  have hline : ∀ name ∈ (order.signedHeaders host).map (·.1),
      ((r.header? name).map fun value => name ++ ':' :: value ++ ['\n']) =
        some (name ++ ':' :: (r.header? name).getD [] ++ ['\n']) := by
    intro name hname
    obtain ⟨header, hheader, rfl⟩ := List.mem_map.1 hname
    rw [h.values header hheader]
    rfl
  have hlines : (((order.signedHeaders host).map (·.1)).map fun name =>
      name ++ ':' :: (r.header? name).getD [] ++ ['\n']).flatten = order.headerLines host := by
    rw [List.map_map, SigningOrder.headerLines, List.flatMap_def]
    refine congrArg _ (List.map_congr_left fun header hheader => ?_)
    rw [Function.comp_apply, h.values header hheader, Option.getD_some]
  rw [canonicalRequest?, signedQuery?_eq hquery, signedNames?_eq hquery h]
  simp only [Option.bind_eq_bind, Option.bind_some, mapM_eq_some_map hline, hlines, hpath, h.method]
  rfl

/-- The storage computes the signature that the query carries. -/
theorem signature?_eq (hpath : r.address.path.written = order.path) :
    r.signature? credentials.secretKey.toList order.region.toList =
      some (order.signature credentials host) := by
  rw [signature?, signedQuery?_eq hquery, canonicalRequest?_eq hquery h hpath]
  simp only [Option.bind_eq_bind, Option.bind_some, queryValue?_date, takeWhile_stamp,
    derivedKey_eq, stringToSign_eq]
  rfl

end Signed

/-- A request that answers a signed order is genuine, with the headers of the order signed. -/
theorem isGenuine_of_sign {storage : Storage} {order : SigningOrder} {r : ReceivedRequest}
    {text : List Char} {segments names : List (List Char)}
    (hread : Address.read text = .ok storage.endpoint) (hpath : order.HasPath segments)
    (hregion : order.region = storage.region)
    (hsign : storage.sign order = .ok r.address)
    (hnames : ∀ host, (order.signedHeaders host).map (·.1) = names)
    (hanswers : ∀ host, r.address.host? = some host →
      r.Answers order (hostAndPort host r.address.port?)) :
    r.IsGenuine storage.credentials.secretKey.toList storage.region.toList names := by
  obtain ⟨host, hhost, hwritten, hquery⟩ :=
    SigningOrder.of_sign hread hpath (Storage.of_sign hsign)
  have h := hanswers host hhost
  constructor
  case names => rw [signedNames?_eq hquery h, hnames]
  case signature =>
    exact ⟨_, _, signedQuery?_eq hquery, hregion ▸ signature?_eq hquery h hwritten⟩

end ReceivedRequest

/-! ### Uploads and the requests before them -/

namespace ReceivedRequest

theorem header?_host {r : ReceivedRequest} {host : Host} (hhost : r.address.host? = some host) :
    r.header? "host".toList = some (hostAndPort host r.address.port?) := by
  unfold header?
  rw [if_pos rfl, hhost, Option.map_some]
  rfl

/-- A request answers an order that signs the headers it brings along and then the host of
its address. -/
theorem answers_of_signedHeaders {r : ReceivedRequest} {order : SigningOrder} {host : Host}
    (hmethod : r.method = order.method) (hhost : r.address.host? = some host)
    (hheaders : order.signedHeaders (hostAndPort host r.address.port?) =
      r.headers ++ [("host".toList, hostAndPort host r.address.port?)])
    (hnames : ∀ header ∈ r.headers, ∀ c ∈ header.1, (c == ';') = false)
    (hvalues : ∀ header ∈ r.headers, r.header? header.1 = some header.2) :
    r.Answers order (hostAndPort host r.address.port?) := by
  have hname : ∀ c ∈ "host".toList, (c == ';') = false := forall_mem_of_all (by decide)
  constructor
  case method => exact hmethod
  case some_header =>
    rw [hheaders]
    exact List.append_ne_nil_of_right_ne_nil _ (List.cons_ne_nil _ _)
  case names =>
    intro header hheader
    rw [hheaders] at hheader
    rcases List.mem_append.1 hheader with hbrought | hlast
    · exact hnames header hbrought
    · rw [List.mem_singleton.1 hlast]
      exact hname
  case values =>
    intro header hheader
    rw [hheaders] at hheader
    rcases List.mem_append.1 hheader with hbrought | hlast
    · exact hvalues header hbrought
    · rw [List.mem_singleton.1 hlast]
      exact header?_host hhost

theorem upload_answers (storage : Storage) (request : UploadRequest) (now : Instant)
    {address : Address} {host : Host} (hhost : address.host? = some host) :
    (upload address request.contentType).Answers (storage.uploadOrder request now)
      (hostAndPort host address.port?) := by
  have hname : ∀ c ∈ "content-type".toList, (c == ';') = false := forall_mem_of_all (by decide)
  refine answers_of_signedHeaders rfl hhost (storage.signedHeaders_uploadOrder request now _)
    (fun header hheader => ?_) fun header hheader => ?_
  · rw [List.mem_singleton.1 hheader]
    exact hname
  · rw [List.mem_singleton.1 hheader]
    rfl

theorem head_answers (storage : Storage) (bucket : String) (now : Instant)
    {address : Address} {host : Host} (hhost : address.host? = some host) :
    (head address).Answers (storage.headOrder bucket now) (hostAndPort host address.port?) :=
  answers_of_signedHeaders rfl hhost (storage.signedHeaders_headOrder bucket now _) nofun nofun

end ReceivedRequest

/-- What is handed out for a permitted upload is signed, and what the storage computes again
from an upload with a signed address is the signature that this address carries, with the
content type and the host among what is signed. The same holds for the request for the head
of the bucket that comes before, with the host alone. The bucket and the key are any that a
policy lets through, the endpoint is any that can be read, and the time of issue is any
there is. -/
theorem authorized_address_is_genuine {ε : Type} (storage : Storage) (policy : GrantPolicy)
    (request : UploadRequest) (now : Instant)
    (hread : ∃ text, Address.read text = .ok storage.endpoint)
    (hcheck : policy.check request = .ok ()) :
    let secretKey := storage.credentials.secretKey.toList
    let region := storage.region.toList
    (∀ (line : Line ε) address, (storage.authorize line request now).2 = .ok address →
      storage.sign (storage.uploadOrder request now) = .ok address) ∧
    (∀ address, storage.sign (storage.uploadOrder request now) = .ok address →
      (ReceivedRequest.upload address request.contentType).IsGenuine secretKey region
        ["content-type".toList, "host".toList]) ∧
    ∀ address, storage.sign (storage.headOrder request.bucket now) = .ok address →
      (ReceivedRequest.head address).IsGenuine secretKey region ["host".toList] := by
  intro secretKey region
  obtain ⟨text, hread⟩ := hread
  refine ⟨fun line address => Storage.sign_of_authorize, fun address hsign => ?_,
    fun address hsign => ?_⟩
  · refine ReceivedRequest.isGenuine_of_sign hread (storage.hasPath_uploadOrder now hcheck) rfl
      hsign (fun host => ?_) fun host hhost => ReceivedRequest.upload_answers storage request now
        hhost
    rw [storage.signedHeaders_uploadOrder]
    rfl
  · refine ReceivedRequest.isGenuine_of_sign hread
      (storage.hasPath_headOrder now (of_check hcheck).1) rfl hsign (fun host => ?_)
      fun host hhost => ReceivedRequest.head_answers storage request.bucket now hhost
    rw [storage.signedHeaders_headOrder]
    rfl

/-- A blank in the key, a leap second before the year zero and encryption change nothing. -/
theorem authorized_address_is_genuine_behind_encryption :
    let request : UploadRequest := ⟨"marketplace", "photos/2025/crane 1.jpg", "image/jpeg", 3600⟩
    let line : Line Unit := ⟨true, true, [⟨[], .reply ⟨200, [], none⟩⟩], [], []⟩
    ∃ put head, (secureLoopback.authorize line request leapBeforeYearZero).2 = .ok put ∧
      secureLoopback.sign (secureLoopback.headOrder request.bucket leapBeforeYearZero) = .ok head ∧
      (ReceivedRequest.upload put request.contentType).IsGenuine "secret".toList
        "us-east-1".toList ["content-type".toList, "host".toList] ∧
      (ReceivedRequest.head head).IsGenuine "secret".toList "us-east-1".toList
        ["host".toList] := by
  intro request line
  have hcheck : GrantPolicy.standard.check request = .ok () := by decide +kernel
  have hauthorized : (secureLoopback.authorize line request leapBeforeYearZero).2 = .ok _ :=
    secureLoopback.isSpoken.authorize_of_found hcheck loopback.short_headAddress.2 rfl
      (Or.inr rfl) ⟨200, rfl, rfl⟩
  have hhead := secureLoopback.isSpoken.sign_headOrder (of_check hcheck).1 leapBeforeYearZero
  obtain ⟨hhanded, hput, hasked⟩ := authorized_address_is_genuine secureLoopback
    GrantPolicy.standard request leapBeforeYearZero ⟨_, secureLoopback.read_endpoint⟩ hcheck
  exact ⟨_, _, hauthorized, hhead, hput _ (hhanded line _ hauthorized), hasked _ hhead⟩

end SignedAccess
