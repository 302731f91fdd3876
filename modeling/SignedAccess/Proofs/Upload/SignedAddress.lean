/-
# The address that was signed

What is signed is put together as a text, and the address is read from this text. The
signature stands at the end of its query. Reading leaves such an address alone: where the
endpoint has an origin and the path is one of plain segments, the address has the host and
the port that were signed, the path and the query of the order, and nothing else.
-/

import SignedAccess.Upload.Grant
import SignedAccess.Proofs.Upload.ObjectPath

namespace SignedAccess

open Text Time

/-! ### The signature in its place -/

theorem isUriChar_of_mem_toHex {bs : List UInt8} : ∀ c ∈ toHex bs, isUriChar c = true :=
  forall_mem_toHex (by decide)

namespace SigningOrder

theorem isUriChar_of_mem_signature {order : SigningOrder} {credentials : Credentials}
    {host : List Char} {c : Char} (hc : c ∈ order.signature credentials host) :
    isUriChar c = true := isUriChar_of_mem_toHex c hc

/-- The query of a signed address, the signature included. -/
def signedQuery (order : SigningOrder) (credentials : Credentials) (host : List Char) :
    List Char :=
  order.query credentials.accessKey host ++
    '&' :: ("X-Amz-Signature".toList ++ '=' :: order.signature credentials host)

theorem addressText_eq (order : SigningOrder) (credentials : Credentials) (endpoint : Address)
    (host : List Char) :
    order.addressText credentials endpoint host =
      endpoint.origin?.getD "null".toList ++
        (order.path ++ '?' :: order.signedQuery credentials host) := by
  have hmember : "&X-Amz-Signature=".toList = '&' :: ("X-Amz-Signature".toList ++ ['=']) := by
    decide
  unfold addressText signedQuery
  rw [hmember]
  simp only [List.append_assoc, List.cons_append, List.nil_append]

theorem mem_query {order : SigningOrder} {accessKey : String} {host : List Char} {c : Char}
    (hc : c ∈ order.query accessKey host) : c = '&' ∨ c = '=' ∨ isUriChar c = true := by
  rcases mem_intercalate hc with rfl | ⟨part, hpart, hin⟩
  · exact Or.inl rfl
  · obtain ⟨⟨name, value⟩, _, rfl⟩ := List.mem_map.1 hpart
    rcases List.mem_append.1 hin with hname | hin
    · exact Or.inr (Or.inr (isUriChar_of_mem_uriEncode_true hname))
    · rcases List.mem_cons.1 hin with rfl | hvalue
      · exact Or.inr (Or.inl rfl)
      · exact Or.inr (Or.inr (isUriChar_of_mem_uriEncode_true hvalue))

theorem mem_signedQuery {order : SigningOrder} {credentials : Credentials} {host : List Char}
    {c : Char} (hc : c ∈ order.signedQuery credentials host) :
    c = '&' ∨ c = '=' ∨ isUriChar c = true := by
  have hname : ∀ d ∈ "X-Amz-Signature".toList, isUriChar d = true :=
    forall_mem_of_all (by decide)
  rcases List.mem_append.1 hc with hin | hin
  · exact mem_query hin
  · rcases List.mem_cons.1 hin with rfl | hin
    · exact Or.inl rfl
    · rcases List.mem_append.1 hin with hin | hin
      · exact Or.inr (Or.inr (hname c hin))
      · rcases List.mem_cons.1 hin with rfl | hin
        · exact Or.inr (Or.inl rfl)
        · exact Or.inr (Or.inr (isUriChar_of_mem_signature hin))

/-- Reading an address leaves the query of a signed one alone. -/
theorem keepsQuery_signedQuery (order : SigningOrder) (credentials : Credentials)
    (host : List Char) : Address.KeepsQuery (order.signedQuery credentials host) := by
  intro c hc
  rcases mem_signedQuery hc with rfl | rfl | hchar
  · decide
  · decide
  · obtain ⟨_, _, hquery, hmark, _⟩ := of_isUriChar hchar
    exact ⟨toNat_lt_of_isUriChar hchar, hquery, hmark⟩

/-- The last member of the query is the signature. -/
theorem cut_signedQuery (order : SigningOrder) (credentials : Credentials) (host : List Char) :
    cutLast (· == '&') (order.signedQuery credentials host) =
        some (order.query credentials.accessKey host,
          "X-Amz-Signature".toList ++ '=' :: order.signature credentials host) ∧
      cutFirst (· == '=') ("X-Amz-Signature".toList ++ '=' :: order.signature credentials host) =
        some ("X-Amz-Signature".toList, order.signature credentials host) := by
  have hname : ∀ c ∈ "X-Amz-Signature".toList, (c == '&') = false ∧ (c == '=') = false :=
    forall_mem_of_all (by decide)
  constructor
  · refine cutLast_append (fun c hc => ?_) rfl
    rcases List.mem_append.1 hc with hin | hin
    · exact (hname c hin).1
    · rcases List.mem_cons.1 hin with rfl | hin
      · rfl
      · obtain ⟨_, _, _, _, hmark, _⟩ := of_isUriChar (isUriChar_of_mem_signature hin)
        exact beq_eq_false_iff_ne.2 hmark
  · exact cutFirst_append (fun c hc => (hname c hc).2) rfl

end SigningOrder

/-! ### The address read again -/

namespace SigningOrder

/-- The order permits a path of plain segments. -/
structure HasPath (order : SigningOrder) (segments : List (List Char)) : Prop where
  some_segment : segments ≠ []
  path : order.path = Address.pathText segments
  keeps : ∀ segment ∈ segments, Address.KeepsSegment segment

/-- The path of the order begins with a slash and goes on to its end as one path. -/
structure HasPlainPath (order : SigningOrder) : Prop where
  slash : ∃ rest, order.path = '/' :: rest
  chars : ∀ c ∈ order.path, 0x20 < c.toNat ∧ Address.endsPath c = false

theorem HasPath.isPlain {order : SigningOrder} {segments : List (List Char)}
    (hpath : order.HasPath segments) : order.HasPlainPath where
  slash := ⟨_, hpath.path.trans (Address.pathText_eq hpath.some_segment)⟩
  chars := fun _ hc => Address.of_mem_pathText hpath.keeps (hpath.path ▸ hc)

/-- What follows the origin in a signed address is visible. -/
theorem HasPlainPath.exists_tail {order : SigningOrder} (hpath : order.HasPlainPath)
    (credentials : Credentials) (host : List Char) :
    ∃ rest, order.path ++ '?' :: order.signedQuery credentials host = '/' :: rest ∧
      ∀ c ∈ rest, 0x20 < c.toNat := by
  obtain ⟨rest, hslash⟩ := hpath.slash
  have hchars := hpath.chars
  rw [hslash] at hchars
  refine ⟨rest ++ '?' :: order.signedQuery credentials host, by rw [hslash]; rfl, fun c hc => ?_⟩
  rcases List.mem_append.1 hc with hin | hin
  · exact (hchars c (List.mem_cons_of_mem _ hin)).1
  · rcases List.mem_cons.1 hin with rfl | hin
    · decide
    · exact Address.lt_toNat_of_mem_query (order.keepsQuery_signedQuery credentials host) hin

/-- An order is signed for the host and the port of the endpoint where its scheme
has a port of its own. Its path is read again, and so is its query. -/
theorem sign_eq_withTail {order : SigningOrder} {credentials : Credentials} {endpoint : Address}
    {authority : Authority} (hpath : order.HasPlainPath)
    (hscheme : hasDefaultPort endpoint.scheme = true)
    (hauthority : endpoint.authority = some authority) (hsettled : authority.host.IsSettled)
    (hport : Address.KeepsPort endpoint.scheme authority.port) :
    order.sign credentials endpoint =
      match Host.read authority.host.written with
      | .ok _ => .ok (Address.withTail endpoint.scheme
          (some ⟨none, authority.host, authority.port⟩) (order.path ++
            '?' :: order.signedQuery credentials (hostAndPort authority.host authority.port)))
      | .error fault => .error (.address fault) := by
  have hhost : hostHeader endpoint = .ok (hostAndPort authority.host authority.port) := by
    simp [hostHeader, Address.host?, Address.port?, hauthority,
      Address.isEmpty_of_isSettled hsettled]
  have horigin : endpoint.origin? = some (endpoint.scheme.toList ++ [':', '/', '/'] ++
      hostAndPort authority.host authority.port) := by
    simp [Address.origin?, hauthority, hscheme]
  obtain ⟨rest, htail, hrest⟩ :=
    hpath.exists_tail credentials (hostAndPort authority.host authority.port)
  unfold sign
  rw [hhost]
  simp only [bind, Except.bind]
  rw [addressText_eq, horigin, Option.getD_some, htail,
    Address.read_origin hscheme hsettled hport hrest]
  cases Host.read authority.host.written with
  | error fault => rfl
  | ok again => rfl

/-- A path of plain segments is signed as it is. -/
theorem sign_eq {order : SigningOrder} {credentials : Credentials} {endpoint : Address}
    {authority : Authority} {segments : List (List Char)} (hpath : order.HasPath segments)
    (hscheme : hasDefaultPort endpoint.scheme = true)
    (hauthority : endpoint.authority = some authority) (hsettled : authority.host.IsSettled)
    (hport : Address.KeepsPort endpoint.scheme authority.port) :
    order.sign credentials endpoint =
      match Host.read authority.host.written with
      | .ok _ => .ok (Address.signedAddress endpoint.scheme authority.host authority.port segments
          (order.signedQuery credentials (hostAndPort authority.host authority.port)))
      | .error fault => .error (.address fault) := by
  rw [sign_eq_withTail hpath.isPlain hscheme hauthority hsettled hport, hpath.path,
    Address.withTail_pathText hscheme hpath.some_segment hpath.keeps
      (order.keepsQuery_signedQuery credentials _)]

/-- Without an origin nothing is signed. -/
theorem sign_ne_ok {order : SigningOrder} {credentials : Credentials}
    {endpoint address : Address} (hpath : order.HasPlainPath)
    (hscheme : hasDefaultPort endpoint.scheme = false) :
    order.sign credentials endpoint ≠ .ok address := by
  have horigin : endpoint.origin? = none := by
    unfold Address.origin?
    split
    · simp [hscheme]
    · rfl
  intro hsign
  obtain ⟨host, _, hsign⟩ := bind_eq_ok.1 hsign
  obtain ⟨rest, htail, hrest⟩ := hpath.exists_tail credentials host
  -- the text begins with a word that no colon follows
  rw [addressText_eq, horigin, Option.getD_none, htail, Address.read_null hrest] at hsign
  cases hsign

/-- An order is only signed for an endpoint with an origin, and the signed address
is read from this origin and what was put after it. -/
theorem eq_withTail_of_sign {order : SigningOrder} {credentials : Credentials}
    {endpoint address : Address} {text : List Char}
    (hread : Address.read text = .ok endpoint) (hpath : order.HasPlainPath)
    (hsign : order.sign credentials endpoint = .ok address) :
    ∃ authority, endpoint.authority = some authority ∧ hasDefaultPort endpoint.scheme = true ∧
      authority.host.IsSettled ∧
      address = Address.withTail endpoint.scheme (some ⟨none, authority.host, authority.port⟩)
        (order.path ++
          '?' :: order.signedQuery credentials (hostAndPort authority.host authority.port)) := by
  cases hscheme : hasDefaultPort endpoint.scheme with
  | false => exact absurd hsign (sign_ne_ok hpath hscheme)
  | true =>
      obtain ⟨authority, hauthority, hsettled, hport⟩ := Address.of_read hread hscheme
      rw [sign_eq_withTail hpath hscheme hauthority hsettled hport] at hsign
      split at hsign
      · cases hsign
        exact ⟨authority, hauthority, rfl, hsettled, rfl⟩
      · cases hsign

/-- The address that is signed for plain segments is the one that was put together. -/
theorem eq_signedAddress_of_sign {order : SigningOrder} {credentials : Credentials}
    {endpoint address : Address} {text : List Char} {segments : List (List Char)}
    (hread : Address.read text = .ok endpoint) (hpath : order.HasPath segments)
    (hsign : order.sign credentials endpoint = .ok address) :
    ∃ authority, endpoint.authority = some authority ∧ hasDefaultPort endpoint.scheme = true ∧
      authority.host.IsSettled ∧
      address = Address.signedAddress endpoint.scheme authority.host authority.port segments
        (order.signedQuery credentials (hostAndPort authority.host authority.port)) := by
  obtain ⟨authority, hauthority, hscheme, hsettled, haddress⟩ :=
    eq_withTail_of_sign hread hpath.isPlain hsign
  rw [hpath.path, Address.withTail_pathText hscheme hpath.some_segment hpath.keeps
    (order.keepsQuery_signedQuery credentials _)] at haddress
  exact ⟨authority, hauthority, hscheme, hsettled, haddress⟩

/-- A signed address carries the query of its order, whatever becomes of its path. -/
theorem query_of_sign {order : SigningOrder} {credentials : Credentials}
    {endpoint address : Address} {text : List Char}
    (hread : Address.read text = .ok endpoint) (hpath : order.HasPlainPath)
    (hsign : order.sign credentials endpoint = .ok address) :
    ∃ host, address.query = some (String.ofList (order.signedQuery credentials host)) := by
  obtain ⟨authority, -, hscheme, -, rfl⟩ := eq_withTail_of_sign hread hpath hsign
  exact ⟨_, Address.query_withTail hscheme (fun c hc => (hpath.chars c hc).2)
    (order.keepsQuery_signedQuery credentials _) _⟩

/-- Names without semicolons are found again between the semicolons. -/
theorem fields_headerNames {order : SigningOrder} {host : List Char}
    (hne : order.signedHeaders host ≠ [])
    (hnames : ∀ header ∈ order.signedHeaders host, ∀ c ∈ header.1, (c == ';') = false) :
    fields (· == ';') (order.headerNames host) = (order.signedHeaders host).map (·.1) := by
  refine fields_intercalate (by simpa using hne) rfl fun name hname => ?_
  obtain ⟨header, hheader, rfl⟩ := List.mem_map.1 hname
  exact hnames header hheader

/-- A signed address has the host and the port that were signed, the path and the
query of the order, and nothing else. -/
theorem of_sign {order : SigningOrder} {credentials : Credentials} {endpoint address : Address}
    {text : List Char} {segments : List (List Char)}
    (hread : Address.read text = .ok endpoint) (hpath : order.HasPath segments)
    (hsign : order.sign credentials endpoint = .ok address) :
    ∃ host, address.host? = some host ∧ address.path.written = order.path ∧
      address.query =
        some (String.ofList (order.signedQuery credentials (hostAndPort host address.port?))) := by
  obtain ⟨authority, -, -, hsettled, rfl⟩ := eq_signedAddress_of_sign hread hpath hsign
  refine ⟨authority.host, ?_, ?_, rfl⟩
  · simp [Address.signedAddress, Address.host?, Address.isEmpty_of_isSettled hsettled]
  · rw [hpath.path]
    simp [Address.signedAddress, AddressPath.written, Address.pathText, List.flatMap_map]

end SigningOrder

/-- The storage signs an order with its own keys for its own endpoint. -/
theorem Storage.of_sign {storage : Storage} {order : SigningOrder} {address : Address}
    (hsign : storage.sign order = .ok address) :
    order.sign storage.credentials storage.endpoint = .ok address := by
  unfold sign at hsign
  split at hsign
  · rename_i signed hsigned
    cases hsign
    exact hsigned
  · cases hsign

/-! ### Orders for a storage -/

namespace Storage

/-- The content type comes before the host. -/
theorem signedHeaders_uploadOrder (storage : Storage) (request : UploadRequest) (now : Instant)
    (host : List Char) :
    (storage.uploadOrder request now).signedHeaders host =
      [("content-type".toList, collapse request.contentType.toList), ("host".toList, host)] := by
  have hlower : lower "content-type".toList = "content-type".toList := by decide
  have hle : headerLe ("content-type".toList, collapse request.contentType.toList)
      ("host".toList, host) = true := by
    have hne : "content-type".toList ≠ "host".toList := by decide
    have hfirst : comesFirst "content-type".toList "host".toList = true := by decide
    exact (if_neg hne).trans hfirst
  unfold SigningOrder.signedHeaders uploadOrder
  simp only [List.map_cons, List.map_nil, hlower, List.cons_append, List.nil_append]
  exact List.mergeSort_of_pairwise (List.pairwise_pair.2 hle)

theorem signedHeaders_headOrder (storage : Storage) (bucket : String) (now : Instant)
    (host : List Char) :
    (storage.headOrder bucket now).signedHeaders host = [("host".toList, host)] :=
  List.mergeSort_singleton _

theorem hasPath_uploadOrder (storage : Storage) {policy : GrantPolicy} {request : UploadRequest}
    (now : Instant) (hcheck : policy.check request = .ok ()) :
    (storage.uploadOrder request now).HasPath
      (objectSegments request.bucket (some request.key)) where
  some_segment := List.cons_ne_nil _ _
  path := objectPath_eq request.bucket (some request.key)
  keeps := fun _ => keepsSegment_of_check hcheck

theorem hasPath_headOrder (storage : Storage) {bucket : String} (now : Instant)
    (hbucket : brokenRule? bucket.toList = none) :
    (storage.headOrder bucket now).HasPath (objectSegments bucket none) where
  some_segment := List.cons_ne_nil _ _
  path := objectPath_eq bucket none
  keeps := by
    intro segment hsegment
    rw [List.mem_singleton.1 hsegment]
    exact keepsSegment_bucket hbucket

end Storage

/-- What is handed out is the signed address of the upload. -/
theorem Storage.sign_of_authorize {ε : Type} {storage : Storage} {line : Line ε}
    {request : UploadRequest} {now : Instant} {address : Address}
    (hauthorized : (storage.authorize line request now).2 = .ok address) :
    storage.sign (storage.uploadOrder request now) = .ok address := by
  unfold authorize at hauthorized
  split at hauthorized
  · cases hauthorized
  · exact hauthorized

end SignedAccess
