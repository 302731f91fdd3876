/-
# The backend client

The client signs its requests with the token of a session and keeps the session
up to date. A signed request that is refused leads to one refresh under a
ticket and one retry. A refresh that the backend rejects ends the login that the
ticket was issued for; one that gets no answer leaves the session alone.

Others may work on the session while a request is under way. Their doings are
written down in the turns of the line, so a call is a function of the stage, on
which the session is kept, and of the line to the backend.
-/

import SignedAccess.Backend.Payload
import SignedAccess.Session.Stage
import SignedAccess.Exchange.Line

namespace SignedAccess

open Json Text

/-- Why a call to the backend failed. -/
inductive BackendFault
  | exchange (fault : ExchangeFault)
  | unauthorized
  | status (code : Nat) (message : String)
  | configuration (message : String)
  deriving DecidableEq, Repr

namespace BackendFault

/-- The wording of a fault. -/
def message : BackendFault → String
  | .exchange fault => "request failed: " ++ fault.message
  | .unauthorized => "not authenticated"
  | .status code message =>
      "backend returned " ++ String.ofList (decimal code) ++ ": " ++ message
  | .configuration message => "invalid configuration: " ++ message

/-- The fault of an answer that is no success. -/
def ofStatus (code : Nat) (message : String) : BackendFault :=
  if code = 401 then .unauthorized else .status code message

/-- The backend refused, as opposed to not answering or failing itself. -/
def isRejection : BackendFault → Bool
  | .unauthorized => true
  | .status code _ => blamesRequest code
  | _ => false

end BackendFault

/-- Where the backend keeps what concerns logins. -/
structure AuthPaths where
  login : String := "/auth/login"
  refresh : String := "/auth/refresh"
  logout : String := "/auth/logout"
  me : String := "/auth/me"
  deriving DecidableEq, Repr

/-- A client of one backend. -/
structure BackendClient where
  baseUrl : String
  paths : AuthPaths
  deriving DecidableEq, Repr

/-- A session and the line to the backend. -/
structure Talk (σ ε : Type) where
  session : σ
  line : Line ε
  /-- What the client sent and how the session stood at that moment, the latest
  first. -/
  journal : List (σ × Order) := []

/-- A signed request. -/
structure SignedRequest where
  method : String
  path : String
  body : Option Value

/-- The text of a body that tells of a failure. A byte order mark does not
count. -/
def failureText (bs : List UInt8) : String :=
  match bs with
  | 0xef :: 0xbb :: 0xbf :: rest => String.ofList (decodeLossy rest)
  | _ => String.ofList (decodeLossy bs)

/-- What a reader makes of the outcome of an exchange. -/
def readOutcome {α : Type} (reader : List UInt8 → Except Fault α) :
    Except ExchangeFault Reply → Except BackendFault α
  | .error fault => .error (.exchange fault)
  | .ok reply =>
      if isSuccess reply.status then
        match reply.body.map reader with
        | some (.ok a) => .ok a
        | _ => .error (.exchange .unreadable)
      else
        .error (.ofStatus reply.status
          ((reply.body.map failureText).getD (statusText reply.status)))

/-- The outcome is an answer that refuses the request for want of a login. -/
def isRefused : Except ExchangeFault Reply → Bool
  | .ok reply => reply.status == 401
  | .error _ => false

namespace BackendClient

/-- A client for a base address, whose slashes at the end do not count. -/
def build (baseUrl : Option String) (paths : AuthPaths) : Except BackendFault BackendClient :=
  match baseUrl with
  | some url => .ok ⟨String.ofList (dropEnd (· == '/') url.toList), paths⟩
  | none => .error (.configuration "base_url is required")

/-- A client of the backend keeps cookies and gives its name and version. -/
def manner : Manner := ⟨some "marketplace-core/0.1.0", true⟩

/-- The address of a path. -/
def url (client : BackendClient) (path : String) : String := client.baseUrl ++ path

variable {σ ε : Type}

/-- One exchange, with the doings of others while it is under way. The journal
notes the order even when it cannot be sent. -/
def send (stage : Stage σ ε) (talk : Talk σ ε) (order : Order) :
    Talk σ ε × Except ExchangeFault Reply :=
  let (line, doings, outcome) := talk.line.exchange manner order
  let journal := (talk.session, order) :: talk.journal
  (⟨stage.acted talk.session doings, line, journal⟩, outcome)

/-- The talk after the client changed the session. -/
def update (stage : Stage σ ε) (f : Store → Store) (talk : Talk σ ε) : Talk σ ε :=
  { talk with session := stage.change f talk.session }

/-- Send a request with the token that the session holds. -/
def sendSigned (client : BackendClient) (stage : Stage σ ε) (talk : Talk σ ε)
    (request : SignedRequest) : Talk σ ε × Except ExchangeFault Reply :=
  send stage talk {
    method := request.method
    address := client.url request.path
    bearer := (stage.token talk.session).map (·.secret)
    json := request.body }

/-- Ask for a new token, showing the old one if there is one. -/
def postRefresh (client : BackendClient) (stage : Stage σ ε) (talk : Talk σ ε)
    (token : Option AccessToken) : Talk σ ε × Except BackendFault RefreshPayload :=
  let (talk, outcome) :=
    send stage talk ⟨"POST", client.url client.paths.refresh, token.map (·.secret), none⟩
  (talk, readOutcome RefreshPayload.record.readAll outcome)

/-- Ask who a token belongs to. -/
def fetchMe (client : BackendClient) (stage : Stage σ ε) (talk : Talk σ ε)
    (token : AccessToken) : Talk σ ε × Except BackendFault User :=
  let (talk, outcome) :=
    send stage talk ⟨"GET", client.url client.paths.me, some token.secret, none⟩
  (talk, readOutcome User.read outcome)

/-- Take a user and a token for the session. -/
def establish (stage : Stage σ ε) (talk : Talk σ ε) (user : User) (token : AccessToken) :
    Talk σ ε :=
  update stage (Store.setAuth user token) talk

/-- Exchange credentials for a session. -/
def login (client : BackendClient) (stage : Stage σ ε) (talk : Talk σ ε)
    (credentials : Value) : Talk σ ε × Except BackendFault User :=
  let (talk, outcome) :=
    send stage talk ⟨"POST", client.url client.paths.login, none, some credentials⟩
  match readOutcome AuthPayload.record.readAll outcome with
  | .error fault => (talk, .error fault)
  | .ok payload => (establish stage talk payload.user payload.token, .ok payload.user)

/-- The user and the token that the backend remembers, if it does. -/
def remembered (client : BackendClient) (stage : Stage σ ε) (talk : Talk σ ε) :
    Talk σ ε × Except BackendFault (User × AccessToken) :=
  match client.postRefresh stage talk none with
  | (talk, .error fault) => (talk, .error fault)
  | (talk, .ok ⟨token, some user⟩) => (talk, .ok (user, token))
  | (talk, .ok ⟨token, none⟩) =>
      match client.fetchMe stage talk token with
      | (talk, .error fault) => (talk, .error fault)
      | (talk, .ok user) => (talk, .ok (user, token))

/-- Find out at the start whether someone is signed in. -/
def bootstrap (client : BackendClient) (stage : Stage σ ε) (talk : Talk σ ε) :
    Talk σ ε × Except BackendFault Phase :=
  match client.remembered stage talk with
  | (talk, .ok (user, token)) => (establish stage talk user token, .ok .authenticated)
  | (talk, .error .unauthorized) =>
      (update stage (Store.setLoading false) talk, .ok .unauthenticated)
  | (talk, .error fault) => (update stage (Store.setLoading false) talk, .error fault)

/-- Refresh the token of the login that a ticket was issued for. The answer
tells whether the login was still current when the new token came. -/
def refreshFor (client : BackendClient) (stage : Stage σ ε) (talk : Talk σ ε)
    (ticket : Ticket) : Talk σ ε × Except BackendFault Bool :=
  match client.postRefresh stage talk (stage.token talk.session) with
  | (talk, .error fault) => (talk, .error fault)
  | (talk, .ok payload) =>
      let (store, applied) := (stage.view talk.session).completeRefresh ticket payload.token
      ({ talk with session := stage.put store talk.session }, .ok applied)

/-- Refresh the token of the current login. -/
def refresh (client : BackendClient) (stage : Stage σ ε) (talk : Talk σ ε) :
    Talk σ ε × Except BackendFault Bool :=
  match (stage.view talk.session).beginRefresh with
  | none => (talk, .error .unauthorized)
  | some ticket => client.refreshFor stage talk ticket

/-- End the session. The backend is told if there is a token, and its answer
does not count. -/
def logout (client : BackendClient) (stage : Stage σ ε) (talk : Talk σ ε) : Talk σ ε :=
  let talk :=
    match stage.token talk.session with
    | some token =>
        (send stage talk ⟨"POST", client.url client.paths.logout, some token.secret, none⟩).1
    | none => talk
  update stage Store.logout talk

/-- The end of the login that a ticket was issued for. -/
def signOut (stage : Stage σ ε) (talk : Talk σ ε) (ticket : Ticket) : Talk σ ε :=
  update stage (fun store => (store.logoutIfCurrent ticket).1) talk

/-- Send a signed request once more after a refresh. -/
def retry {α : Type} (client : BackendClient) (stage : Stage σ ε) (talk : Talk σ ε)
    (request : SignedRequest) (reader : List UInt8 → Except Fault α) (ticket : Ticket) :
    Talk σ ε × Except BackendFault α :=
  let (talk, outcome) := client.sendSigned stage talk request
  if isRefused outcome then (signOut stage talk ticket, .error .unauthorized)
  else (talk, readOutcome reader outcome)

/-- Send a signed request; if it is refused, refresh once and try once more. -/
def sendJson {α : Type} (client : BackendClient) (stage : Stage σ ε) (talk : Talk σ ε)
    (request : SignedRequest) (reader : List UInt8 → Except Fault α) :
    Talk σ ε × Except BackendFault α :=
  let ticket := (stage.view talk.session).beginRefresh
  let (talk, outcome) := client.sendSigned stage talk request
  if !isRefused outcome then (talk, readOutcome reader outcome)
  else
    match ticket with
    | none => (talk, .error .unauthorized)
    | some ticket =>
        match client.refreshFor stage talk ticket with
        | (talk, .ok true) => client.retry stage talk request reader ticket
        | (talk, .ok false) => (talk, .error .unauthorized)
        | (talk, .error fault) =>
            if fault.isRejection then (signOut stage talk ticket, .error .unauthorized)
            else (talk, .error fault)

/-- Fetch what a path holds. -/
def getJson {α : Type} (client : BackendClient) (stage : Stage σ ε) (talk : Talk σ ε)
    (path : String) (reader : List UInt8 → Except Fault α) :
    Talk σ ε × Except BackendFault α :=
  client.sendJson stage talk ⟨"GET", path, none⟩ reader

end BackendClient

end SignedAccess
