/-
# Signed addresses

A signed address carries the permission for one request in its query. What is
signed is the canonical request: method, path, query, headers with sorted
lower-case names, and their names once more, one on each line. The signature is
a chain of keyed digests over day, region and service, applied to a text that
holds the digest of the canonical request.

Only the origin of the endpoint is used. The address is read again after it is
put together, so that dot segments and the like are resolved after signing.
-/

import SignedAccess.Address.Reader
import SignedAccess.Digest.Keyed
import SignedAccess.Time.Written
import SignedAccess.Text.Quoted
import SignedAccess.Text.Order

namespace SignedAccess

open Text Time

/-- A pair of keys for the storage. -/
structure Credentials where
  accessKey : String
  secretKey : String

/-- The debug text of a pair of keys, which does not show the secret one. -/
def Credentials.debug (c : Credentials) : String :=
  "Credentials \x7b access_key: " ++ quote c.accessKey ++ ", secret_key: " ++ quote "***" ++ " \x7d"

/-- Why an address was not signed. -/
inductive SignFault
  | noHost (endpoint : String)
  | address (fault : AddressFault)
  deriving DecidableEq, Repr

/-- The wording of a fault. -/
def SignFault.message : SignFault → String
  | .noHost endpoint => "endpoint `" ++ endpoint ++ "` has no host"
  | .address fault => "failed to build presigned url: " ++ fault.message

/-- A request that is to be permitted. The path is escaped already. -/
structure SigningOrder where
  method : String
  path : List Char
  headers : List (String × String)
  region : String
  expires : Nat
  issuedAt : Instant

/-- The path of an object, or of its bucket when there is no key. -/
def objectPath (bucket : String) (key : Option String) : List Char :=
  '/' :: uriEncode bucket.toList true ++
    match key with
    | some key => '/' :: uriEncode key.toList false
    | none => []

/-- The scheme of signing. -/
def signingScheme : List Char := "AWS4-HMAC-SHA256".toList

/-- The service that addresses are signed for. -/
def signingService : List Char := ['s', '3']

/-- The mark that ends the scope of a signature. -/
def scopeEnd : List Char := "aws4_request".toList

/-- The host of an endpoint as a header value: with its port, unless it is the
one that the scheme uses anyway. -/
def hostHeader (endpoint : Address) : Except SignFault (List Char) :=
  match endpoint.host? with
  | some host => .ok (hostAndPort host endpoint.port?)
  | none => .error (.noHost endpoint.toString)

/-- The order of headers: by name, and by value where names are equal. -/
def headerLe (a b : List Char × List Char) : Bool :=
  if a.1 = b.1 then comesFirst a.2 b.2 else comesFirst a.1 b.1

namespace SigningOrder

/-- The headers to be signed, the host among them, in order, with names in
lower case and values with single blanks. -/
def signedHeaders (order : SigningOrder) (host : List Char) : List (List Char × List Char) :=
  let given := order.headers.map fun h => (lower h.1.toList, collapse h.2.toList)
  (given ++ [("host".toList, host)]).mergeSort headerLe

/-- The names of the signed headers with semicolons between them. -/
def headerNames (order : SigningOrder) (host : List Char) : List Char :=
  [';'].intercalate ((order.signedHeaders host).map (·.1))

/-- The signed headers, each on a line of its own. -/
def headerLines (order : SigningOrder) (host : List Char) : List Char :=
  (order.signedHeaders host).flatMap fun (name, value) => name ++ ':' :: value ++ ['\n']

/-- Day, region and service of a signature. -/
def scope (order : SigningOrder) : List Char :=
  ['/'].intercalate
    [order.issuedAt.dayStamp, order.region.toList, signingService, scopeEnd]

/-- The members of the query before the signature, in the order of names. -/
def queryPairs (order : SigningOrder) (accessKey : String) (host : List Char) :
    List (List Char × List Char) :=
  [("X-Amz-Algorithm".toList, signingScheme),
    ("X-Amz-Credential".toList, accessKey.toList ++ '/' :: order.scope),
    ("X-Amz-Date".toList, order.issuedAt.stamp),
    ("X-Amz-Expires".toList, decimal order.expires),
    ("X-Amz-SignedHeaders".toList, order.headerNames host)]

/-- The query before the signature. -/
def query (order : SigningOrder) (accessKey : String) (host : List Char) : List Char :=
  ['&'].intercalate ((order.queryPairs accessKey host).map fun (name, value) =>
    uriEncode name true ++ '=' :: uriEncode value true)

/-- What is signed. -/
def canonicalRequest (order : SigningOrder) (accessKey : String) (host : List Char) :
    List Char :=
  ['\n'].intercalate
    [order.method.toList, order.path, order.query accessKey host, order.headerLines host,
      order.headerNames host, "UNSIGNED-PAYLOAD".toList]

end SigningOrder

/-- The text that the last keyed digest is taken of. -/
def textToSign (stamp scope canonicalRequest : List Char) : List Char :=
  ['\n'].intercalate
    [signingScheme, stamp, scope, Digest.hexDigest (encode canonicalRequest)]

/-- The key that a signature is made with, for a day and a region. -/
def signingKey (secretKey : String) (day region : List Char) : List UInt8 :=
  let dayKey := Digest.keyed (encode ("AWS4".toList ++ secretKey.toList)) (encode day)
  let regionKey := Digest.keyed dayKey (encode region)
  let serviceKey := Digest.keyed regionKey (encode signingService)
  Digest.keyed serviceKey (encode scopeEnd)

namespace SigningOrder

/-- The signature in hexadecimal digits. -/
def signature (order : SigningOrder) (credentials : Credentials) (host : List Char) :
    List Char :=
  let key := signingKey credentials.secretKey order.issuedAt.dayStamp order.region.toList
  let request := order.canonicalRequest credentials.accessKey host
  Digest.hexKeyed key (encode (textToSign order.issuedAt.stamp order.scope request))

/-- The text of the signed address. An endpoint without an origin gives the word
`null` in its place. -/
def addressText (order : SigningOrder) (credentials : Credentials) (endpoint : Address)
    (host : List Char) : List Char :=
  endpoint.origin?.getD "null".toList ++ order.path ++
    '?' :: order.query credentials.accessKey host ++
    "&X-Amz-Signature=".toList ++ order.signature credentials host

/-- The signed address. -/
def sign (order : SigningOrder) (credentials : Credentials) (endpoint : Address) :
    Except SignFault Address := do
  let host ← hostHeader endpoint
  match Address.read (order.addressText credentials endpoint host) with
  | .ok address => .ok address
  | .error fault => .error (.address fault)

end SigningOrder

end SignedAccess
