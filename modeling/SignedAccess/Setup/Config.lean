/-
# The configuration

The configuration comes from environment variables and from options, which win
over the variables. All variables that hold numbers are read first, also those
that an option replaces, then the two keys, then the endpoint, and the limit on
the time of a grant is checked last. Texts that are missing, or are no text,
have defaults; the keys have none.
-/

import SignedAccess.Setup.Options
import SignedAccess.Service.Router

namespace SignedAccess

open Text

/-- The variables of an environment. -/
abbrev Environment := List (String × List UInt8)

/-- Why a variable has no text. -/
inductive VariableFault
  | absent
  | notText (bs : List UInt8)
  deriving DecidableEq, Repr

/-- The wording of a fault. -/
def VariableFault.message : VariableFault → String
  | .absent => "environment variable not found"
  | .notText bs => "environment variable was not valid unicode: " ++ quoteBytes bs

/-- Why there is no configuration. -/
inductive ConfigFault
  | number (name value : String) (fault : IntegerFault)
  | unreadable (name : String) (bs : List UInt8)
  | required (name : String) (fault : VariableFault)
  | endpoint (text : String) (fault : AddressFault)
  | longest (seconds : Nat)
  deriving DecidableEq, Repr

/-- What a fault says, and what lies behind it. -/
def ConfigFault.chain : ConfigFault → List String
  | .number name value fault => ["parsing " ++ name ++ " value `" ++ value ++ "`", fault.message]
  | .unreadable name bs => ["reading " ++ name, (VariableFault.notText bs).message]
  | .required name fault => [name ++ " is required", fault.message]
  | .endpoint text fault => ["parsing storage endpoint `" ++ text ++ "`", fault.message]
  | .longest seconds =>
      ["max grant expiry must be within 1..=" ++ String.ofList (decimal longestGrant) ++
        " seconds, got " ++ String.ofList (decimal seconds)]

namespace Environment

/-- The text of a variable. -/
def text (env : Environment) (name : String) : Except VariableFault String :=
  match env.find? (·.1 == name) with
  | none => .error .absent
  | some (_, bs) =>
      match decode? bs with
      | some cs => .ok (String.ofList cs)
      | none => .error (.notText bs)

/-- The text of a variable, or a default. -/
def textOr (env : Environment) (name fallback : String) : String :=
  match env.text name with
  | .ok s => s
  | .error _ => fallback

/-- The text of a variable that must be there. -/
def required (env : Environment) (name : String) : Except ConfigFault String :=
  match env.text name with
  | .ok s => .ok s
  | .error fault => .error (.required name fault)

/-- The number in a variable, or a default where there is no variable. -/
def numberOr (env : Environment) (name : String) (most fallback : Nat) :
    Except ConfigFault Nat :=
  match env.text name with
  | .error .absent => .ok fallback
  | .error (.notText bs) => .error (.unreadable name bs)
  | .ok s =>
      match readNat most s.toList with
      | .ok n => .ok n
      | .error fault => .error (.number name s fault)

end Environment

/-- The configuration. -/
structure Config where
  host : String
  port : Nat
  endpoint : Address
  region : String
  credentials : Credentials
  bucket : String
  defaultExpiry : Nat
  longestExpiry : Nat
  reserved : List String
  keyFront : String
  timeout : Nat

/-- A single grant that the command line asks for. -/
structure GrantCommand where
  key : String
  contentType : String
  deriving DecidableEq, Repr

/-- Reserved fronts in writing: commas between them, blanks around them, and
blank ones left out. -/
def readReserved (text : String) : List String :=
  (((fields (· == ',') text.toList).map trim).filter (!·.isEmpty)).map String.ofList

namespace Config

/-- The configuration of an environment and options. -/
def read (env : Environment) (options : Options) : Except ConfigFault Config := do
  let port ← env.numberOr "MARKET_PORT" 65535 3000
  let longest ← env.numberOr "MARKET_MAX_GRANT_EXPIRY" 4294967295 longestGrant
  let usual ← env.numberOr "MARKET_DEFAULT_GRANT_EXPIRY" 4294967295 3600
  let timeout ← env.numberOr "MARKET_STORAGE_TIMEOUT_SECS" 18446744073709551615 10
  let accessKey ← env.required "MARKET_STORAGE_ACCESS_KEY"
  let secretKey ← env.required "MARKET_STORAGE_SECRET_KEY"
  let endpointText := options.storageEndpoint.getD
    (env.textOr "MARKET_STORAGE_ENDPOINT" "http://127.0.0.1:9000")
  let endpoint ←
    match Address.read endpointText.toList with
    | .ok a => .ok a
    | .error fault => .error (.endpoint endpointText fault)
  let longestExpiry := options.maxExpiry.getD longest
  if longestExpiry = 0 ∨ longestGrant < longestExpiry then .error (.longest longestExpiry)
  else
    .ok {
      host := options.host.getD (env.textOr "MARKET_HOST" "0.0.0.0")
      port := options.port.getD port
      endpoint
      region := options.storageRegion.getD (env.textOr "MARKET_STORAGE_REGION" "us-east-1")
      credentials := ⟨accessKey, secretKey⟩
      bucket := options.bucket.getD (env.textOr "MARKET_STORAGE_BUCKET" "marketplace")
      defaultExpiry := min usual longestExpiry
      longestExpiry
      reserved := readReserved (env.textOr "MARKET_RESERVED_PREFIXES" "_system/")
      keyFront := env.textOr "MARKET_UPLOAD_KEY_PREFIX" "uploads/"
      timeout }

/-- The host and the port to listen on. -/
def listenAddress (config : Config) : String :=
  config.host ++ ":" ++ String.ofList (decimal config.port)

/-- What may be granted. -/
def policy (config : Config) : GrantPolicy :=
  (GrantPolicy.ofLongest config.longestExpiry).reserving config.reserved

/-- What a grant request takes for the parts that it leaves out. -/
def defaults (config : Config) : GrantDefaults :=
  ⟨config.bucket, config.defaultExpiry, config.keyFront⟩

/-- The storage that addresses are signed for. -/
def storage (config : Config) : Storage :=
  ⟨config.endpoint, config.region, config.credentials⟩

/-- The service that the configuration describes. -/
def service (config : Config) : Service where
  granter := ⟨.signing config.storage, config.policy⟩
  defaults := config.defaults

end Config

/-- The content type of a single grant for which none is given. -/
def usualContentType : String := "application/octet-stream"

/-- The single grant that the options ask for. -/
def Options.grantCommand? (options : Options) : Option GrantCommand :=
  options.grantKey.map fun key => ⟨key, options.contentType.getD usualContentType⟩

/-- Why the program ends before it does anything. -/
inductive SetupFault
  | stopped (stop : OptionStop)
  | config (fault : ConfigFault)
  deriving DecidableEq, Repr

/-- The configuration and the single grant, if one is asked for, that an
environment and a command line describe. -/
def readSetup (env : Environment) (words : List (List UInt8)) :
    Except SetupFault (Config × Option GrantCommand) :=
  match Options.ofWords words with
  | .error stop => .error (.stopped stop)
  | .ok options =>
      match Config.read env options with
      | .error fault => .error (.config fault)
      | .ok config => .ok (config, options.grantCommand?)

end SignedAccess
