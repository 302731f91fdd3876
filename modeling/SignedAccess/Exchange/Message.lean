/-
# Requests, replies and what can go wrong between them

An order is a request as a client makes it up: the address is still a text and
header values have not been looked at. `Order.prepare` turns it into a parcel
that can be sent, or says why there is none. A sender's view of a failed
exchange is an `ExchangeFault`, which has a text, a list of kinds, and a chain
of causes.
-/

import SignedAccess.Address.Reader
import SignedAccess.Json.Printer

namespace SignedAccess

open Text

/-- The usual words for a status. -/
def reason? (status : Nat) : Option String :=
  (reasons.find? (·.1 == status)).map (·.2)
where
  reasons : List (Nat × String) := [
    (100, "Continue"), (101, "Switching Protocols"), (102, "Processing"), (103, "Early Hints"),
    (200, "OK"), (201, "Created"), (202, "Accepted"), (203, "Non Authoritative Information"),
    (204, "No Content"), (205, "Reset Content"), (206, "Partial Content"), (207, "Multi-Status"),
    (208, "Already Reported"), (226, "IM Used"), (300, "Multiple Choices"),
    (301, "Moved Permanently"), (302, "Found"), (303, "See Other"), (304, "Not Modified"),
    (305, "Use Proxy"), (307, "Temporary Redirect"), (308, "Permanent Redirect"),
    (400, "Bad Request"), (401, "Unauthorized"), (402, "Payment Required"), (403, "Forbidden"),
    (404, "Not Found"), (405, "Method Not Allowed"), (406, "Not Acceptable"),
    (407, "Proxy Authentication Required"), (408, "Request Timeout"), (409, "Conflict"),
    (410, "Gone"), (411, "Length Required"), (412, "Precondition Failed"),
    (413, "Payload Too Large"), (414, "URI Too Long"), (415, "Unsupported Media Type"),
    (416, "Range Not Satisfiable"), (417, "Expectation Failed"), (418, "I'm a teapot"),
    (421, "Misdirected Request"), (422, "Unprocessable Entity"), (423, "Locked"),
    (424, "Failed Dependency"), (425, "Too Early"), (426, "Upgrade Required"),
    (428, "Precondition Required"), (429, "Too Many Requests"),
    (431, "Request Header Fields Too Large"), (451, "Unavailable For Legal Reasons"),
    (500, "Internal Server Error"), (501, "Not Implemented"), (502, "Bad Gateway"),
    (503, "Service Unavailable"), (504, "Gateway Timeout"), (505, "HTTP Version Not Supported"),
    (506, "Variant Also Negotiates"), (507, "Insufficient Storage"), (508, "Loop Detected"),
    (510, "Not Extended"), (511, "Network Authentication Required")]

/-- A status with its usual words. -/
def statusText (status : Nat) : String :=
  String.ofList (decimal status) ++ " " ++ (reason? status).getD "<unknown status code>"

/-- The status of an answer that does what was asked. -/
def isSuccess (status : Nat) : Bool := 200 ≤ status && status ≤ 299

/-- The status of an answer that blames the request. -/
def blamesRequest (status : Nat) : Bool := 400 ≤ status && status ≤ 499

/-- The status of an answer that blames the server. -/
def blamesServer (status : Nat) : Bool := 500 ≤ status && status ≤ 599

/-- An answer. It names no other address to ask, so that any status is final. The body is
absent when it breaks off before its announced end. -/
structure Reply where
  status : Nat
  setCookies : List String
  body : Option (List UInt8)

/-- How the connection of a request failed. A tunnel leads to a secure address,
and there may be no way to its beginning. -/
inductive LinkFault
  | unreachable (tunnelled : Bool)
  | noTunnel
  | closed
  deriving DecidableEq, Repr

/-- Why a request has no answer, or an answer no content. -/
inductive ExchangeFault
  | notBuilt
  | wrongScheme (address : String)
  | wrongTarget (address : String)
  | notSent (address : String) (link : LinkFault)
  | timedOut (address : String)
  | unreadable
  deriving DecidableEq, Repr

namespace ExchangeFault

/-- The wording of a fault. -/
def message : ExchangeFault → String
  | .notBuilt => "builder error"
  | .wrongScheme address => "builder error for url (" ++ address ++ ")"
  | .wrongTarget address => "builder error for url (" ++ address ++ ")"
  | .notSent address _ => "error sending request for url (" ++ address ++ ")"
  | .timedOut address => "error sending request for url (" ++ address ++ ")"
  | .unreadable => "error decoding response body"

/-- The kinds that a fault belongs to. -/
def kinds : ExchangeFault → List String
  | .notBuilt => ["builder"]
  | .wrongScheme _ => ["builder"]
  | .wrongTarget _ => ["builder"]
  | .notSent _ _ => ["request"]
  | .timedOut _ => ["timeout", "request"]
  | .unreadable => ["decode"]

/-- What lies behind a fault, the nearest cause first. -/
def causes : ExchangeFault → List String
  | .notBuilt => []
  | .wrongScheme _ => ["URL scheme is not allowed"]
  | .wrongTarget _ => ["Parsed Url is not a valid Uri"]
  | .notSent _ (.unreachable tunnelled) =>
      "client error (Connect)" ::
        (if tunnelled then ["tunnel error: failed to create underlying connection"] else []) ++
        ["tcp connect error", "Network is unreachable (os error 101)"]
  | .notSent _ .noTunnel => ["client error (Connect)", "tunnel error: unsuccessful"]
  | .notSent _ .closed =>
      ["client error (SendRequest)", "connection closed before message completed"]
  | .timedOut _ => ["operation timed out"]
  | .unreadable => []

end ExchangeFault

/-- A request as a client makes it up. -/
structure Order where
  method : String
  address : String
  bearer : Option String
  json : Option Json.Value

/-- A request that can be sent. -/
structure Parcel where
  method : String
  address : Address
  /-- What the request shows of who sends it, one header for each. -/
  authorizations : List String
  contentType : Option String
  body : List UInt8

/-- A byte that a header value may hold. -/
def isHeaderByte (b : UInt8) : Bool := (0x20 ≤ b && b != 0x7f) || b == 0x09

/-- A text that is a header value. -/
def isHeaderValue (s : String) : Bool := (bytes s).all isHeaderByte

/-- The header value that shows a token. -/
def bearerValue (secret : String) : String := "Bearer " ++ secret

/-- Three bytes, or what is left of them, as four characters of sixty-four. -/
def base64 (bs : List UInt8) : List Char :=
  match bs with
  | [] => []
  | a :: b :: c :: rest =>
      let n := 65536 * a.toNat + 256 * b.toNat + c.toNat
      [digit (n / 262144), digit (n / 4096), digit (n / 64), digit n] ++ base64 rest
  | [a, b] =>
      let n := 65536 * a.toNat + 256 * b.toNat
      [digit (n / 262144), digit (n / 4096), digit (n / 64), '=']
  | [a] =>
      let n := 65536 * a.toNat
      [digit (n / 262144), digit (n / 4096), '=', '=']
where
  digit (n : Nat) : Char :=
    let m := n % 64
    if m < 26 then Char.ofNat (0x41 + m)
    else if m < 52 then Char.ofNat (0x61 + (m - 26))
    else if m < 62 then Char.ofNat (0x30 + (m - 52))
    else if m = 62 then '+'
    else '/'

/-- An address without user name and password, and the header value that they
become. A user name that is no text stays where it is, and so does a password
that is none where the user name is empty. -/
def takeUserInfo (a : Address) : Address × Option String :=
  match a.authority with
  | some ⟨some info, host, port⟩ =>
      match decode? (unescape info.user.toList) with
      | none => (a, none)
      | some user =>
          let password := info.password.bind fun p => decode? (unescape p.toList)
          if user.isEmpty ∧ password.isNone then (a, none)
          else
            let pair := encode (user ++ ':' :: password.getD [])
            ({ a with authority := some ⟨none, host, port⟩ },
              some (String.ofList ("Basic ".toList ++ base64 pair)))
  | _ => (a, none)

/-- The most bytes that the address of a request may have. -/
def longestTarget : Nat := 65534

/-- An address that a request may be sent to. Hosts are read more generously
than requests name them: a name with a quotation mark, a grave accent or a brace
is a host to which nothing can be sent. -/
def isTarget (a : Address) : Bool :=
  !((a.host?.map Host.written).getD []).any ['"', '\x60', '\x7b', '\x7d'].contains &&
    a.written.length ≤ longestTarget

/-- A request made ready to be sent. A text that is no address comes before an
address without host, that before a token that is no header value, and that
before a scheme that is not spoken or a host to which nothing can be sent. The
user that the address names is shown before the token and does not replace it. -/
def Order.prepare (order : Order) : Except ExchangeFault Parcel :=
  match Address.read order.address.toList with
  | .error _ => .error .notBuilt
  | .ok whole =>
      if whole.host?.isNone then .error (.wrongScheme whole.toString)
      else
        let (address, basic) := takeUserInfo whole
        let bearer := order.bearer.map bearerValue
        if bearer.any fun value => !isHeaderValue value then .error .notBuilt
        else if address.scheme ≠ "http" ∧ address.scheme ≠ "https" then
          .error (.wrongScheme address.toString)
        else if !isTarget address then .error (.wrongTarget address.toString)
        else
          .ok {
            method := order.method
            address
            authorizations := basic.toList ++ bearer.toList
            contentType := order.json.map fun _ => "application/json"
            body := (order.json.map (·.bytes)).getD [] }

end SignedAccess
