/-
# The configuration taken apart

The configuration is read in three steps: the numbers of all variables, the two keys
and the endpoint, and last the limit on the time of a grant. Whatever can go wrong goes
wrong in one of them, so an accepted configuration is known from what the steps gave.
-/

import SignedAccess.Proofs.Text.Cuts
import SignedAccess.Proofs.Upload.HeadOfBucket
import SignedAccess.Setup.Config

namespace SignedAccess

open Text

/-! ### Variables -/

namespace Environment

variable {env other : Environment} {name : String}

theorem textOr_congr (h : env.text name = other.text name) (fallback : String) :
    env.textOr name fallback = other.textOr name fallback := by
  rw [textOr, textOr, h]

theorem required_congr (h : env.text name = other.text name) :
    env.required name = other.required name := by
  rw [required, required, h]

theorem numberOr_congr (h : env.text name = other.text name) (most fallback : Nat) :
    env.numberOr name most fallback = other.numberOr name most fallback := by
  rw [numberOr, numberOr, h]

/-- Another variable in front hides nothing. -/
theorem text_cons_of_ne {first : String × List UInt8} (hne : name ≠ first.1) :
    text (first :: env) name = env.text name := by
  have hnot : (first.1 == name) = false := beq_eq_false_iff_ne.2 hne.symm
  rw [text, text, List.find?_cons_of_neg (by simp [hnot])]

/-- The numbers that the variables hold. -/
structure Numbers where
  port : Nat
  longest : Nat
  usual : Nat
  timeout : Nat
  deriving DecidableEq, Repr

/-- The numbers of all variables, in the order in which they are read. -/
def numbers (env : Environment) : Except ConfigFault Numbers := do
  let port ← env.numberOr "MARKET_PORT" 65535 3000
  let longest ← env.numberOr "MARKET_MAX_GRANT_EXPIRY" 4294967295 longestGrant
  let usual ← env.numberOr "MARKET_DEFAULT_GRANT_EXPIRY" 4294967295 3600
  let timeout ← env.numberOr "MARKET_STORAGE_TIMEOUT_SECS" 18446744073709551615 10
  .ok ⟨port, longest, usual, timeout⟩

theorem numbers_eq_ok_iff {numbers : Numbers} :
    env.numbers = .ok numbers ↔
      env.numberOr "MARKET_PORT" 65535 3000 = .ok numbers.port ∧
        env.numberOr "MARKET_MAX_GRANT_EXPIRY" 4294967295 longestGrant = .ok numbers.longest ∧
        env.numberOr "MARKET_DEFAULT_GRANT_EXPIRY" 4294967295 3600 = .ok numbers.usual ∧
        env.numberOr "MARKET_STORAGE_TIMEOUT_SECS" 18446744073709551615 10 =
          .ok numbers.timeout := by
  simp only [Environment.numbers, bind_eq_ok]
  constructor
  · rintro ⟨port, hport, longest, hlongest, usual, husual, timeout, htimeout, hsame⟩
    cases hsame
    exact ⟨hport, hlongest, husual, htimeout⟩
  · rintro ⟨hport, hlongest, husual, htimeout⟩
    exact ⟨_, hport, _, hlongest, _, husual, _, htimeout, rfl⟩

end Environment

/-! ### The steps -/

namespace Config

/-- The text of the endpoint: the option, or else the variable, or else the default. -/
def endpointText (env : Environment) (options : Options) : String :=
  options.storageEndpoint.getD (env.textOr "MARKET_STORAGE_ENDPOINT" "http://127.0.0.1:9000")

/-- The endpoint that a text describes. -/
def readEndpoint (text : String) : Except ConfigFault Address :=
  match Address.read text.toList with
  | .ok address => .ok address
  | .error fault => .error (.endpoint text fault)

/-- The configuration of all that was read, where every option wins over its variable. -/
def merged (env : Environment) (options : Options) (numbers : Environment.Numbers)
    (credentials : Credentials) (endpoint : Address) : Config where
  host := options.host.getD (env.textOr "MARKET_HOST" "0.0.0.0")
  port := options.port.getD numbers.port
  endpoint := endpoint
  region := options.storageRegion.getD (env.textOr "MARKET_STORAGE_REGION" "us-east-1")
  credentials := credentials
  bucket := options.bucket.getD (env.textOr "MARKET_STORAGE_BUCKET" "marketplace")
  defaultExpiry := min numbers.usual (options.maxExpiry.getD numbers.longest)
  longestExpiry := options.maxExpiry.getD numbers.longest
  reserved := readReserved (env.textOr "MARKET_RESERVED_PREFIXES" "_system/")
  keyFront := env.textOr "MARKET_UPLOAD_KEY_PREFIX" "uploads/"
  timeout := numbers.timeout

/-- The limit on the time of a grant is within its bounds. -/
def checkLongest (config : Config) : Except ConfigFault Config :=
  if config.longestExpiry = 0 ∨ longestGrant < config.longestExpiry then
    .error (.longest config.longestExpiry)
  else .ok config

/-- What comes after the numbers. -/
def ofNumbers (env : Environment) (options : Options) (numbers : Environment.Numbers) :
    Except ConfigFault Config := do
  let accessKey ← env.required "MARKET_STORAGE_ACCESS_KEY"
  let secretKey ← env.required "MARKET_STORAGE_SECRET_KEY"
  let endpoint ← readEndpoint (endpointText env options)
  checkLongest (merged env options numbers ⟨accessKey, secretKey⟩ endpoint)

/-- The numbers come first. -/
theorem read_eq (env : Environment) (options : Options) :
    Config.read env options = env.numbers >>= ofNumbers env options := by
  unfold Config.read Environment.numbers ofNumbers readEndpoint endpointText
  generalize env.numberOr "MARKET_PORT" _ _ = port
  generalize env.numberOr "MARKET_MAX_GRANT_EXPIRY" _ _ = longest
  generalize env.numberOr "MARKET_DEFAULT_GRANT_EXPIRY" _ _ = usual
  generalize env.numberOr "MARKET_STORAGE_TIMEOUT_SECS" _ _ = timeout
  generalize env.required "MARKET_STORAGE_ACCESS_KEY" = accessKey
  generalize env.required "MARKET_STORAGE_SECRET_KEY" = secretKey
  -- Each step either ends the reading on both sides or hands on what it read.
  cases port <;> [rfl; skip]
  cases longest <;> [rfl; skip]
  cases usual <;> [rfl; skip]
  cases timeout <;> [rfl; skip]
  cases accessKey <;> [rfl; skip]
  cases secretKey <;> [rfl; skip]
  simp only [bind, Except.bind]
  generalize Address.read _ = endpoint
  cases endpoint <;> rfl

variable {env : Environment} {options : Options} {config : Config}

theorem checkLongest_eq_ok_iff {checked : Config} :
    checkLongest config = .ok checked ↔
      checked = config ∧ 1 ≤ config.longestExpiry ∧ config.longestExpiry ≤ longestGrant := by
  unfold checkLongest
  split
  · rename_i hout
    simp only [reduceCtorEq, false_iff, not_and, Nat.not_le]
    omega
  · rename_i hin
    rw [Except.ok.injEq, eq_comm]
    exact ⟨fun h => ⟨h, by omega⟩, And.left⟩

theorem readEndpoint_eq_ok_iff {text : String} {endpoint : Address} :
    readEndpoint text = .ok endpoint ↔ Address.read text.toList = .ok endpoint := by
  unfold readEndpoint
  cases Address.read text.toList <;> simp

/-- An environment and options are accepted exactly when all numbers can be read, the keys
are there, the endpoint can be read and the limit is within its bounds. -/
theorem read_eq_ok_iff :
    Config.read env options = .ok config ↔
      ∃ numbers credentials endpoint,
        env.numbers = .ok numbers ∧
        env.required "MARKET_STORAGE_ACCESS_KEY" = .ok credentials.accessKey ∧
        env.required "MARKET_STORAGE_SECRET_KEY" = .ok credentials.secretKey ∧
        Address.read (endpointText env options).toList = .ok endpoint ∧
        config = merged env options numbers credentials endpoint ∧
        1 ≤ config.longestExpiry ∧ config.longestExpiry ≤ longestGrant := by
  simp only [read_eq, ofNumbers, bind_eq_ok, readEndpoint_eq_ok_iff, checkLongest_eq_ok_iff]
  constructor
  · rintro ⟨numbers, hnumbers, accessKey, haccess, secretKey, hsecret, endpoint, hendpoint,
      rfl, hlongest⟩
    exact ⟨numbers, ⟨accessKey, secretKey⟩, endpoint, hnumbers, haccess, hsecret, hendpoint,
      rfl, hlongest⟩
  · rintro ⟨numbers, ⟨accessKey, secretKey⟩, endpoint, hnumbers, haccess, hsecret, hendpoint,
      rfl, hlongest⟩
    exact ⟨numbers, hnumbers, accessKey, haccess, secretKey, hsecret, endpoint, hendpoint,
      rfl, hlongest⟩

end Config

/-- A command line is accepted exactly when its words are taken for options and the
configuration is accepted. -/
theorem readSetup_eq_ok_iff {env : Environment} {words : List (List UInt8)} {config : Config}
    {command : Option GrantCommand} :
    readSetup env words = .ok (config, command) ↔
      ∃ options, Options.ofWords words = .ok options ∧ Config.read env options = .ok config ∧
        command = options.grantCommand? := by
  unfold readSetup
  cases hwords : Options.ofWords words with
  | error stop => simp
  | ok options =>
      cases hread : Config.read env options with
      | error fault => simp [hread]
      | ok found => simp [hread, eq_comm]

/-! ### A small environment -/

/-- An environment with just the variables that have no default, and an endpoint. -/
def sparseEnvironment : Environment :=
  [("MARKET_STORAGE_ACCESS_KEY", bytes "AKIDEXAMPLE"),
    ("MARKET_STORAGE_SECRET_KEY", bytes "secret"),
    ("MARKET_STORAGE_ENDPOINT", bytes "http://[::1]:9000")]

theorem sparseEnvironment_numbers :
    sparseEnvironment.numbers = .ok ⟨3000, longestGrant, 3600, 10⟩ := by
  decide +kernel

/-- With these keys and this endpoint the words and the numbers decide. -/
theorem readSetup_of_sparse {env : Environment} {words : List (List UInt8)} {options : Options}
    {numbers : Environment.Numbers} (hwords : Options.ofWords words = .ok options)
    (hshared : ∀ name ∈ sparseEnvironment.map Prod.fst, env.text name = sparseEnvironment.text name)
    (hendpoint : options.storageEndpoint = none) (hnumbers : env.numbers = .ok numbers)
    (hlongest : 1 ≤ options.maxExpiry.getD numbers.longest ∧
      options.maxExpiry.getD numbers.longest ≤ longestGrant) :
    readSetup env words =
      .ok (Config.merged env options numbers loopback.credentials loopback.endpoint,
        options.grantCommand?) := by
  have htexts : sparseEnvironment.required "MARKET_STORAGE_ACCESS_KEY" = .ok "AKIDEXAMPLE" ∧
      sparseEnvironment.required "MARKET_STORAGE_SECRET_KEY" = .ok "secret" ∧
      sparseEnvironment.textOr "MARKET_STORAGE_ENDPOINT" "http://127.0.0.1:9000" =
        "http://[::1]:9000" := by
    decide +kernel
  obtain ⟨haccess, hsecret, htext⟩ := htexts
  refine readSetup_eq_ok_iff.2 ⟨options, hwords, Config.read_eq_ok_iff.2
    ⟨numbers, loopback.credentials, loopback.endpoint, hnumbers, ?_, ?_, ?_, rfl, hlongest⟩, rfl⟩
  · rwa [Environment.required_congr (hshared _ (by decide))]
  · rwa [Environment.required_congr (hshared _ (by decide))]
  · rw [Config.endpointText, hendpoint, Option.getD_none,
      Environment.textOr_congr (hshared _ (by decide)), htext]
    exact loopback.read_endpoint

end SignedAccess
