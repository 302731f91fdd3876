/-
# The routes of the service

Two routes tell about the service and one gives grants. The path must be exact;
its query and its fragment do not count, nor does what stands before it where a
request names the whole address. A grant is asked for with a JSON body; the key
is the one given, or one made from a file name.
-/

import SignedAccess.Service.Answer
import SignedAccess.Service.GrantBody
import SignedAccess.Service.MediaType
import SignedAccess.Upload.ObjectKey

namespace SignedAccess

open Json Time

/-- What a grant request takes for the parts that it leaves out. -/
structure GrantDefaults where
  bucket : String
  expires : Nat
  keyFront : String
  deriving DecidableEq, Repr

/-- The service: who gives grants, and the defaults. -/
structure Service where
  granter : Granter
  defaults : GrantDefaults

/-- A request to the service. -/
structure ServiceRequest where
  method : String
  /-- The path, or the whole address. -/
  target : String
  contentType : Option String
  body : List UInt8

namespace Service

variable {ε : Type}

/-- The service is alive. -/
def health : ServiceAnswer := .json 200 (.object [("status", .text "ok")])

/-- The record of the readiness of the service. -/
def readyValue (fault : Option StorageFault) : Value :=
  let isReady := fault.isNone
  .object [
    ("status", .text (if isReady then "ok" else "error")),
    ("checks", .object [
      ("storage", .object [
        ("ok", .boolean isReady),
        ("error", Value.ofText? (fault.map (·.message)))])])]

/-- Ask the storage whether it can be used. -/
def ready (service : Service) (line : Line ε) (now : Instant) : Line ε × ServiceAnswer :=
  match service.granter.plane.probe line service.defaults.bucket now with
  | (line, .ok ()) => (line, .json 200 (readyValue none))
  | (line, .error fault) => (line, .json 503 (readyValue (some fault)))

/-- The request that a body asks to be granted. -/
def requestOf (service : Service) (body : GrantBody) (random : RandomBytes) :
    Except ServiceError UploadRequest := do
  let key ←
    match body.key, body.filename with
    | some key, _ => .ok key
    | none, some filename => .ok (deriveKey service.defaults.keyFront filename random)
    | none, none => .error (.badRequest "either key or filename is required")
  .ok {
    bucket := body.bucket.getD service.defaults.bucket
    key
    contentType := body.contentType
    expires := body.expires.getD service.defaults.expires }

/-- Give the grant that a body asks for. -/
def create (service : Service) (line : Line ε) (body : GrantBody) (random : RandomBytes)
    (now : Instant) : Line ε × ServiceAnswer :=
  match service.requestOf body random with
  | .error e => (line, e.answer)
  | .ok request =>
      match service.granter.grant line request now with
      | (line, .ok grant) => (line, .json 200 grant.toValue)
      | (line, .error fault) => (line, (ServiceError.ofGrantFault fault).answer)

/-- The most bytes that a body may have. -/
def largestBody : Nat := 2097152

/-- What the caller is told of a body that has another shape. -/
def shapeText (path : List Step) (reason : Mismatch) : String :=
  let place := if path.isEmpty then "" else pathWritten path ++ ": "
  "Failed to deserialize the JSON body into the target type: " ++ place ++ reason.message

/-- The body of a grant request, or the answer that refuses it. -/
def readBody (contentType : Option String) (body : List UInt8) :
    Except ServiceAnswer GrantBody :=
  if !contentType.any MediaType.isJson then
    .error (.plain 415 "Expected request with `Content-Type: application/json`")
  else if largestBody < body.length then
    .error (.plain 413 "Failed to buffer the request body: length limit exceeded")
  else
    match GrantBody.record.readAll body with
    | .ok body => .ok body
    | .error (.mismatch path reason) => .error (.plain 422 (shapeText path reason))
    | .error _ => .error (.plain 400 "Failed to parse the request body as JSON")

/-- What a path leads to. -/
inductive Route
  | health
  | ready
  | grant
  deriving DecidableEq, Repr

/-- The path that a target names. A whole address without a path has the path
of one slash, and a host alone names no path. -/
def pathOf (target : List Char) : List Char :=
  let endsPath (c : Char) : Bool := c == '?' || c == '#'
  let endsHost (c : Char) : Bool := c == '/' || endsPath c
  match target with
  | '/' :: _ => target.takeWhile fun c => !endsPath c
  | _ =>
      match target.dropWhile (· != ':') with
      | ':' :: '/' :: '/' :: rest =>
          let path := (rest.dropWhile fun c => !endsHost c).takeWhile fun c => !endsPath c
          if path.isEmpty then ['/'] else path
      | _ => []

/-- The route of a target. -/
def route? (target : String) : Option Route :=
  match String.ofList (pathOf target.toList) with
  | "/healthz" => some .health
  | "/readyz" => some .ready
  | "/uploads/grant" => some .grant
  | _ => none

/-- The answer to a request. -/
def answer (service : Service) (line : Line ε) (request : ServiceRequest)
    (random : RandomBytes) (now : Instant) : Line ε × ServiceAnswer :=
  match route? request.target with
  | none => (line, .notFound)
  | some .grant =>
      if request.method = "POST" then
        match readBody request.contentType request.body with
        | .error refusal => (line, refusal)
        | .ok body => service.create line body random now
      else (line, .wrongMethod "POST")
  | some .health =>
      if request.method = "GET" then (line, health)
      else if request.method = "HEAD" then (line, health.headOnly)
      else (line, .wrongMethod "GET,HEAD")
  | some .ready =>
      if request.method = "GET" then service.ready line now
      else if request.method = "HEAD" then
        let (line, answer) := service.ready line now
        (line, answer.headOnly)
      else (line, .wrongMethod "GET,HEAD")

end Service

end SignedAccess
