/-
# The time of a grant that asks for none

An accepted configuration has a limit between one second and seven days, and its default
time is cut to the limit. From below nothing holds the default: it is zero exactly when
its variable writes zero. The program starts all the same, and then every request that
leaves its time out is refused, if nothing else is wrong with it, for a time that it did
not ask for. With any other default no such request is ever refused for its time.
-/

import SignedAccess.Proofs.Service.GrantRoute
import SignedAccess.Proofs.Setup.Reading
import SignedAccess.Proofs.Text.Numerals
import SignedAccess.Setup.OneShot

namespace SignedAccess

open Text Time

/-- The variable that the default time is written in. -/
def usualVariable : String := "MARKET_DEFAULT_GRANT_EXPIRY"

/-! ### Refusals for the time -/

namespace GrantPolicy

variable {policy : GrantPolicy} {request : UploadRequest} {requested most : Nat}

/-- The policy permits the request for some number of seconds. -/
def PermitsForSomeTime (policy : GrantPolicy) (request : UploadRequest) : Prop :=
  ∃ seconds, policy.check { request with expires := seconds } = .ok ()

theorem checkExpiry_eq_ok_iff {seconds : Nat} :
    policy.checkExpiry seconds = .ok () ↔ 1 ≤ seconds ∧ seconds ≤ policy.longest := by
  unfold checkExpiry
  split <;> simp <;> omega

theorem permitsForSomeTime_iff (hlongest : 1 ≤ policy.longest) :
    policy.PermitsForSomeTime request ↔
      checkBucket request.bucket = .ok () ∧ policy.checkKeyAllowed request.key = .ok () ∧
        checkContentType request.contentType = .ok () := by
  simp only [PermitsForSomeTime, check_eq_ok_iff]
  constructor
  · rintro ⟨seconds, hbucket, hkey, hcontent, -⟩
    exact ⟨hbucket, hkey, hcontent⟩
  · rintro ⟨hbucket, hkey, hcontent⟩
    exact ⟨1, hbucket, hkey, hcontent, checkExpiry_eq_ok_iff.2 ⟨Nat.le_refl 1, hlongest⟩⟩

theorem checkBucket_ne_expiry (name : String) :
    checkBucket name ≠ .error (.expiry requested most) := by
  unfold checkBucket
  split <;> simp

theorem checkKeyAllowed_ne_expiry (key : String) :
    policy.checkKeyAllowed key ≠ .error (.expiry requested most) := by
  have hkey : checkKey key ≠ .error (.expiry requested most) := by
    unfold checkKey
    repeat' split
    all_goals simp
  rw [checkKeyAllowed, ne_eq, bind_eq_error]
  cases policy.reservedFront? key <;> simp [hkey]

theorem checkContentType_ne_expiry (value : String) :
    checkContentType value ≠ .error (.expiry requested most) := by
  unfold checkContentType
  split <;> simp

/-- The time is looked at last, so a request is refused for it exactly when nothing else
is wrong with it. -/
theorem check_eq_expiry_iff (hlongest : 1 ≤ policy.longest) :
    policy.check request = .error (.expiry requested most) ↔
      ¬(1 ≤ request.expires ∧ request.expires ≤ policy.longest) ∧
        policy.PermitsForSomeTime request ∧ requested = request.expires ∧
        most = policy.longest := by
  have htime : policy.checkExpiry request.expires = .error (.expiry requested most) ↔
      ¬(1 ≤ request.expires ∧ request.expires ≤ policy.longest) ∧
        requested = request.expires ∧ most = policy.longest := by
    unfold checkExpiry
    split
    · rename_i hout
      simp [eq_comm, show ¬(1 ≤ request.expires ∧ request.expires ≤ policy.longest) by omega]
    · rename_i hin
      simp [show 1 ≤ request.expires ∧ request.expires ≤ policy.longest by omega]
  rw [permitsForSomeTime_iff hlongest]
  simp only [check, bind_eq_error, checkBucket_ne_expiry, checkKeyAllowed_ne_expiry,
    checkContentType_ne_expiry, false_or, htime]
  constructor
  · rintro ⟨⟨⟩, hbucket, ⟨⟩, hkey, ⟨⟩, hcontent, hout, hrequested, hmost⟩
    exact ⟨hout, ⟨hbucket, hkey, hcontent⟩, hrequested, hmost⟩
  · rintro ⟨hout, ⟨hbucket, hkey, hcontent⟩, hrequested, hmost⟩
    exact ⟨(), hbucket, (), hkey, (), hcontent, hout, hrequested, hmost⟩

end GrantPolicy

/-! ### The default -/

namespace Config

variable {env : Environment} {options : Options} {config : Config}

theorem longest_policy (hlongest : config.longestExpiry ≤ longestGrant) :
    config.policy.longest = config.longestExpiry :=
  Nat.min_eq_left hlongest

/-- The default is zero exactly when its variable writes zero: with a limit of at least one
second the cut does not make it so. -/
theorem defaultExpiry_eq_zero_iff (hread : Config.read env options = .ok config) :
    config.defaultExpiry = 0 ↔
      ∃ text, env.text usualVariable = .ok text ∧ WritesZero text.toList := by
  obtain ⟨numbers, credentials, endpoint, hnumbers, -, -, -, rfl, hlongest, -⟩ :=
    read_eq_ok_iff.1 hread
  have husual : env.numberOr usualVariable 4294967295 3600 = .ok numbers.usual :=
    (Environment.numbers_eq_ok_iff.1 hnumbers).2.2.1
  have hcut : (merged env options numbers credentials endpoint).defaultExpiry = 0 ↔
      numbers.usual = 0 := by
    simp only [merged] at hlongest ⊢
    omega
  rw [hcut]
  unfold Environment.numberOr at husual
  split at husual
  · rename_i hnone
    rw [← Except.ok.inj husual, hnone]
    simp
  · cases husual
  · rename_i text htext
    rw [htext]
    simp only [Except.ok.injEq, exists_eq_left', ← @readNat_eq_zero_iff 4294967295]
    split at husual
    · rename_i n hn
      rw [hn, ← Except.ok.inj husual, Except.ok.injEq]
    · cases husual

/-- A request with the default time is refused for its time exactly when the default is
zero and nothing else is wrong with the request. -/
theorem grant_eq_expiry_iff {ε : Type} {request : UploadRequest} {requested most : Nat}
    (hlongest : 1 ≤ config.longestExpiry ∧ config.longestExpiry ≤ longestGrant)
    (hdefault : config.defaultExpiry ≤ config.longestExpiry)
    (hexpires : request.expires = config.defaultExpiry) (line : Line ε) (now : Instant) :
    (config.service.granter.grant line request now).2 =
        .error (.policy (.expiry requested most)) ↔
      config.defaultExpiry = 0 ∧ config.policy.PermitsForSomeTime request ∧ requested = 0 ∧
        most = config.longestExpiry := by
  have hpolicy : config.service.granter.policy = config.policy := rfl
  have hmost := longest_policy hlongest.2
  rw [Granter.grant_eq_policy_iff, hpolicy,
    GrantPolicy.check_eq_expiry_iff (hmost.symm ▸ hlongest.1), hmost, hexpires]
  constructor
  · rintro ⟨hout, hpermits, rfl, rfl⟩
    have hzero : config.defaultExpiry = 0 := by omega
    exact ⟨hzero, hpermits, hzero, rfl⟩
  · rintro ⟨hzero, hpermits, rfl, rfl⟩
    exact ⟨by omega, hpermits, hzero.symm, rfl⟩

end Config

/-- In every accepted configuration the limit is between one second and seven days and the
default time is at most the limit; the default is zero exactly when its variable writes
zero. A request that leaves its time out, the single one of a command line or one with a
body, is refused for its time exactly when the default is zero and the policy would permit
it for some other time, and then the refusal names zero seconds and the limit. -/
theorem usual_time_is_refused_iff_zero {ε : Type} (env : Environment) (words : List (List UInt8))
    (config : Config) (command : Option GrantCommand)
    (haccepted : readSetup env words = .ok (config, command)) :
    (1 ≤ config.longestExpiry ∧ config.longestExpiry ≤ longestGrant ∧
      config.defaultExpiry ≤ config.longestExpiry) ∧
    (config.defaultExpiry = 0 ↔
      ∃ text, env.text usualVariable = .ok text ∧ WritesZero text.toList) ∧
    ∀ (line : Line ε) (now : Instant) (requested most : Nat),
      (∀ command : GrantCommand,
        (config.grantOnce line command now).2 = .error (.policy (.expiry requested most)) ↔
          config.defaultExpiry = 0 ∧
            config.policy.PermitsForSomeTime (config.requestOf command) ∧
            requested = 0 ∧ most = config.longestExpiry) ∧
      ∀ (request : ServiceRequest) (body : GrantBody) (random : RandomBytes) (key : String),
        request.AsksGrant body → body.expires = none →
        body.key? config.keyFront random = some key →
        let upload := body.upload config.defaults key
        let granted := config.service.granter.grant line upload now
        config.service.answer line request random now = Service.told granted ∧
        (granted.2 = .error (.policy (.expiry requested most)) ↔
          config.defaultExpiry = 0 ∧ config.policy.PermitsForSomeTime upload ∧
            requested = 0 ∧ most = config.longestExpiry) := by
  obtain ⟨options, -, hread, -⟩ := readSetup_eq_ok_iff.1 haccepted
  obtain ⟨numbers, credentials, endpoint, -, -, -, -, hmerged, hlongest⟩ :=
    Config.read_eq_ok_iff.1 hread
  have hdefault : config.defaultExpiry ≤ config.longestExpiry := by
    rw [hmerged]
    exact Nat.min_le_right _ _
  refine ⟨⟨hlongest.1, hlongest.2, hdefault⟩, Config.defaultExpiry_eq_zero_iff hread,
    fun line now requested most => ⟨fun once => ?_, ?_⟩⟩
  · exact Config.grant_eq_expiry_iff hlongest hdefault rfl line now
  · intro request body random key hasks hnone hkey upload granted
    constructor
    · rw [Service.answer_of_asksGrant _ line random now hasks]
      exact config.service.create_of_key? line random now hkey
    · have hexpires : upload.expires = config.defaultExpiry := by
        simp only [upload, GrantBody.upload, hnone, Option.getD_none]
        rfl
      exact Config.grant_eq_expiry_iff hlongest hdefault hexpires line now

/-- A default above the limit that an option sets is cut to it, and no grant that a command
line asks for is refused for its time. -/
theorem usual_time_is_cut_to_option :
    let env : Environment := (usualVariable, bytes "900") :: sparseEnvironment
    ∃ config, readSetup env [bytes "--max-expiry=60"] = .ok (config, none) ∧
      config.defaultExpiry = 60 ∧
      ∀ (line : Line Unit) (now : Instant) (command : GrantCommand) (requested most : Nat),
        (config.grantOnce line command now).2 ≠ .error (.policy (.expiry requested most)) := by
  intro env
  have hwords : Options.ofWords [bytes "--max-expiry=60"] = .ok { maxExpiry := some 60 } := by
    decide +kernel
  have hnumbers : env.numbers = .ok ⟨3000, longestGrant, 900, 10⟩ := by decide +kernel
  have haccepted := readSetup_of_sparse hwords (by decide +kernel) rfl hnumbers (by decide)
  obtain ⟨-, -, hrefused⟩ := usual_time_is_refused_iff_zero (ε := Unit) env _ _ _ haccepted
  refine ⟨_, haccepted, rfl, fun line now command requested most hexpiry => ?_⟩
  obtain ⟨hzero, -⟩ := ((hrefused line now requested most).1 command).1 hexpiry
  exact absurd hzero (by decide)

/-- Where the variable writes zero, the program starts, and the grant that a command line
asks for is refused for a time that it did not ask for. -/
theorem zero_usual_time_is_accepted :
    let env : Environment := (usualVariable, bytes "0") :: sparseEnvironment
    let words := [bytes "--grant-key", bytes "photos/crane.jpg"]
    let command : GrantCommand := ⟨"photos/crane.jpg", usualContentType⟩
    let line : Line Unit := .ofTurns true [⟨[], .reply ⟨200, [], none⟩⟩]
    ∃ config, readSetup env words = .ok (config, some command) ∧ config.defaultExpiry = 0 ∧
      config.grantOnce line command leapBeforeYearZero =
        (line, .error (.policy (.expiry 0 604800))) := by
  intro env words command line
  have hwords : Options.ofWords words = .ok { grantKey := some "photos/crane.jpg" } := by
    decide +kernel
  have hnumbers : env.numbers = .ok ⟨3000, longestGrant, 0, 10⟩ := by decide +kernel
  have haccepted := readSetup_of_sparse hwords (by decide +kernel) rfl hnumbers (by decide)
  refine ⟨_, haccepted, rfl, Granter.grant_of_rejected ?_⟩
  decide +kernel

end SignedAccess
