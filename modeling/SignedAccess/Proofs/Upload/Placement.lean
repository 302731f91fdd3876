/-
# Where an upload goes

A permitted upload names its object only by the address that was handed out. The
address is the text that was put together, character for character: the origin of
the endpoint, the escaped path of the bucket and the key, and the query. Reading it
resolves no dot segment, since an accepted key has none and escaping makes none, so
who takes the path apart finds the bucket and the key that were asked for.
-/

import SignedAccess.Proofs.Upload.HeadOfBucket

namespace SignedAccess

open Text Time

/-! ### The path taken apart -/

/-- The bucket and the key that a path names: what stands between its first two
slashes and what follows, with the escapes read. -/
def namedObject? (path : List Char) : Option (List Char × List Char) := do
  let (_, rest) ← cutFirst (· == '/') path
  let (bucket, key) ← cutFirst (· == '/') rest
  some (← decode? (unescape bucket), ← decode? (unescape key))

/-- The path of an object names its bucket and its key. -/
theorem namedObject?_objectPath (bucket key : String) :
    namedObject? (objectPath bucket (some key)) = some (bucket.toList, key.toList) := by
  have hbucket : ∀ c ∈ uriEncode bucket.toList true, (c == '/') = false := by
    intro c hc
    have hchar := of_isUriChar (isUriChar_of_mem_uriEncode_true hc)
    exact beq_false_of_ne hchar.2.2.2.2.2.2
  have hrest : cutFirst (· == '/')
      (uriEncode bucket.toList true ++ '/' :: uriEncode key.toList false) =
        some (uriEncode bucket.toList true, uriEncode key.toList false) :=
    cutFirst_append hbucket rfl
  have hwhole : cutFirst (· == '/') (objectPath bucket (some key)) =
      some ([], uriEncode bucket.toList true ++ '/' :: uriEncode key.toList false) := rfl
  simp only [namedObject?, hwhole, hrest, Option.bind_eq_bind, Option.bind_some,
    unescape_uriEncode, decode?_encode]

/-- With its escapes read the path is the bucket and the key with a slash before
each. -/
theorem unescape_objectPath (bucket key : String) :
    unescape (objectPath bucket (some key)) =
      encode ('/' :: (bucket.toList ++ '/' :: key.toList)) := by
  have hslash : '/' ≠ '%' := by decide
  have hpath : objectPath bucket (some key) =
      '/' :: (uriEncode bucket.toList true ++ '/' :: uriEncode key.toList false) := rfl
  calc unescape (objectPath bucket (some key))
      = String.utf8EncodeChar '/' ++ (encode bucket.toList ++
          (String.utf8EncodeChar '/' ++ encode key.toList)) := by
        rw [hpath, unescape_cons_of_ne _ hslash, unescape_uriEncode_append,
          unescape_cons_of_ne _ hslash, unescape_uriEncode]
    _ = encode ('/' :: (bucket.toList ++ '/' :: key.toList)) := by
        simp [encode]

/-- An accepted key begins with no reserved front. -/
theorem not_isPrefix_of_check {policy : GrantPolicy} {request : UploadRequest}
    (hcheck : policy.check request = .ok ()) {front : String} (hfront : front ∈ policy.reserved) :
    ¬front.toList <+: request.key.toList := by
  obtain ⟨-, hallowed, -, -⟩ := GrantPolicy.check_eq_ok_iff.1 hcheck
  obtain ⟨-, hnone⟩ := GrantPolicy.checkKeyAllowed_eq_ok_iff.1 hallowed
  have hnot := List.find?_eq_none.1 hnone front hfront
  simpa using hnot

/-! ### Addresses of objects -/

/-- The address leads to an object behind the origin of an endpoint and says nothing
else before its query. -/
structure Address.LeadsTo (address endpoint : Address) (bucket key : String) : Prop where
  scheme : address.scheme = endpoint.scheme
  host : address.host? = endpoint.host?
  port : address.port? = endpoint.port?
  origin : ∃ origin, endpoint.origin? = some origin ∧ address.origin? = some origin
  noUserInfo : address.authority.bind (·.userInfo) = none
  noFragment : address.fragment = none
  path : address.path.written = objectPath bucket (some key)
  unescaped : unescape address.path.written =
    encode ('/' :: (bucket.toList ++ '/' :: key.toList))
  named : namedObject? address.path.written = some (bucket.toList, key.toList)

namespace SigningOrder

/-- Reading the text of a signed address changes no character of it. -/
theorem written_of_sign {order : SigningOrder} {credentials : Credentials}
    {endpoint address : Address} {text : List Char} {segments : List (List Char)}
    (hread : Address.read text = .ok endpoint) (hpath : order.HasPath segments)
    (hsign : order.sign credentials endpoint = .ok address) :
    ∃ host, hostHeader endpoint = .ok host ∧
      address.written = order.addressText credentials endpoint host := by
  obtain ⟨authority, hauthority, hscheme, hsettled, rfl⟩ :=
    eq_signedAddress_of_sign hread hpath hsign
  have horigin : endpoint.origin? = some (endpoint.scheme.toList ++ [':', '/', '/'] ++
      hostAndPort authority.host authority.port) := by
    simp [Address.origin?, hauthority, hscheme]
  refine ⟨hostAndPort authority.host authority.port, ?_, ?_⟩
  · simp [hostHeader, Address.host?, Address.port?, hauthority,
      Address.isEmpty_of_isSettled hsettled]
  · rw [Address.written_signedAddress, addressText_eq, horigin, Option.getD_some, hpath.path]
    rfl

/-- The signed address of an object leads to that object. -/
theorem leadsTo_of_sign {order : SigningOrder} {credentials : Credentials}
    {endpoint address : Address} {text : List Char} {bucket key : String}
    (hread : Address.read text = .ok endpoint)
    (hpath : order.HasPath (objectSegments bucket (some key)))
    (hsign : order.sign credentials endpoint = .ok address) :
    address.LeadsTo endpoint bucket key := by
  have hwritten : address.path.written = objectPath bucket (some key) := by
    obtain ⟨_, _, hwritten, _⟩ := of_sign hread hpath hsign
    rw [hwritten, hpath.path, objectPath_eq]
  obtain ⟨authority, hauthority, hscheme, hsettled, rfl⟩ :=
    eq_signedAddress_of_sign hread hpath hsign
  constructor
  case scheme => rfl
  case host => simp [Address.signedAddress, Address.host?, hauthority]
  case port => simp [Address.signedAddress, Address.port?, hauthority]
  case origin =>
    refine ⟨endpoint.scheme.toList ++ [':', '/', '/'] ++
      hostAndPort authority.host authority.port, ?_, ?_⟩
    · simp [Address.origin?, hauthority, hscheme]
    · simp [Address.signedAddress, Address.origin?, hscheme]
  case noUserInfo => rfl
  case noFragment => rfl
  case path => exact hwritten
  case unescaped => rw [hwritten, unescape_objectPath]
  case named => rw [hwritten, namedObject?_objectPath]

end SigningOrder

/-! ### Grants -/

/-- The address that is handed out for a permitted upload is the signed one, and the signed
address leads to the requested object at the endpoint and is the text it was put together
from, to the last character. What its path names is the requested bucket, and a key there
that begins with no reserved front. -/
theorem authorized_address_leads_to_object {ε : Type} (storage : Storage) (policy : GrantPolicy)
    (request : UploadRequest) (now : Instant)
    (hread : ∃ text, Address.read text = .ok storage.endpoint)
    (hcheck : policy.check request = .ok ()) :
    (∀ (line : Line ε) address, (storage.authorize line request now).2 = .ok address →
      storage.sign (storage.uploadOrder request now) = .ok address) ∧
    ∀ address, storage.sign (storage.uploadOrder request now) = .ok address →
      address.LeadsTo storage.endpoint request.bucket request.key ∧
      (∃ host, hostHeader storage.endpoint = .ok host ∧
        address.written = (storage.uploadOrder request now).addressText storage.credentials
          storage.endpoint host) ∧
      ∀ bucket key, namedObject? address.path.written = some (bucket, key) →
        bucket = request.bucket.toList ∧ ∀ front ∈ policy.reserved, ¬front.toList <+: key := by
  obtain ⟨text, hread⟩ := hread
  refine ⟨fun line address => Storage.sign_of_authorize, fun address hsigned => ?_⟩
  have hpath := storage.hasPath_uploadOrder now hcheck
  have hsign := Storage.of_sign hsigned
  have hleads := SigningOrder.leadsTo_of_sign hread hpath hsign
  refine ⟨hleads, SigningOrder.written_of_sign hread hpath hsign, ?_⟩
  intro bucket key hnamed
  rw [hleads.named] at hnamed
  cases hnamed
  exact ⟨rfl, fun front hfront => not_isPrefix_of_check hcheck hfront⟩

/-- A key with empty parts, escaped dots, points, a letter outside ASCII and a slash
at its end stays in its bucket, as it stands, at an endpoint behind encryption. -/
theorem authorized_address_leads_to_object_behind_encryption :
    let request : UploadRequest := ⟨"marketplace", "a//%2e%2e/..é/~b c/", "image/jpeg", 3600⟩
    let policy := GrantPolicy.standard.reserving ["private/"]
    let line : Line Unit := ⟨true, true, [⟨[], .reply ⟨200, [], none⟩⟩], [], []⟩
    ∃ address, (secureLoopback.authorize line request leapBeforeYearZero).2 = .ok address ∧
      policy.check request = .ok () ∧
      address.path.written = "/marketplace/a//%252e%252e/..%C3%A9/~b%20c/".toList ∧
      address.LeadsTo secureLoopback.endpoint request.bucket request.key := by
  intro request policy line
  have hcheck : policy.check request = .ok () := by decide +kernel
  have hauthorized : (secureLoopback.authorize line request leapBeforeYearZero).2 = .ok _ :=
    secureLoopback.isSpoken.authorize_of_found hcheck loopback.short_headAddress.2 rfl
      (Or.inr rfl) ⟨200, rfl, rfl⟩
  obtain ⟨hhanded, hsigned⟩ := authorized_address_leads_to_object secureLoopback policy request
    leapBeforeYearZero ⟨_, secureLoopback.read_endpoint⟩ hcheck
  obtain ⟨hleads, -, -⟩ := hsigned _ (hhanded line _ hauthorized)
  refine ⟨_, hauthorized, hcheck, ?_, hleads⟩
  rw [hleads.path]
  decide +kernel

end SignedAccess
