/-
# The same grant on the command line and by a request

The single grant of a command line and the answer to a request that says the same key and
the same content type are made of one upload: the default bucket, the default time. So the
granter is asked the same on both ways and the storage hears the same, and the record that
is printed is the one in the answer, only spread over lines. The ways part where the body
of the request is longer than the service takes, since a command line has no such limit.
-/

import SignedAccess.Proofs.Json.Spread
import SignedAccess.Proofs.Service.GrantRoute
import SignedAccess.Proofs.Setup.Reading
import SignedAccess.Setup.OneShot

namespace SignedAccess

open Json Text Time

/-! ### The request -/

/-- What a body says that gives the key and the content type of a command and leaves the
rest out. -/
def GrantCommand.body (command : GrantCommand) : GrantBody where
  bucket := none
  key := some command.key
  filename := none
  contentType := command.contentType
  expires := none

/-- The request posts an object that says the key and the content type of a command and
leaves the rest out, or null. -/
structure ServiceRequest.Posts (request : ServiceRequest) (command : GrantCommand) : Prop where
  route : Service.route? request.target = some .grant
  method : request.method = "POST"
  json : request.contentType.any MediaType.isJson = true
  body : ∃ members, (Value.object members).SpelledBy request.body ∧
    GrantBody.DescribedBy members command.body

namespace ServiceRequest.Posts

variable {request : ServiceRequest} {command : GrantCommand}

/-- A body of a fair length is read as what it says. -/
theorem asksGrant (h : request.Posts command)
    (hlength : request.body.length ≤ Service.largestBody) : request.AsksGrant command.body := by
  obtain ⟨members, hspells, hdescribed⟩ := h.body
  refine ⟨h.route, h.method, Service.readBody_eq_ok_iff.2 ⟨h.json, hlength, ?_⟩⟩
  exact (GrantBody.readAll_eq_ok_iff (fun m hm hname => hdescribed.fits hm hname _) hspells).2
    hdescribed

/-- A longer one is not looked at. -/
theorem answer_of_long {ε : Type} (h : request.Posts command)
    (hlength : Service.largestBody < request.body.length) (service : Service) (line : Line ε)
    (random : RandomBytes) (now : Instant) :
    ∃ refusal : ServiceAnswer, refusal.status = 413 ∧
      service.answer line request random now = (line, refusal) := by
  have hread : Service.readBody request.contentType request.body =
      .error (.plain 413 "Failed to buffer the request body: length limit exceeded") := by
    rw [Service.readBody, h.json, Bool.not_true, if_neg Bool.false_ne_true, if_pos hlength]
  refine ⟨.plain 413 "Failed to buffer the request body: length limit exceeded", rfl, ?_⟩
  rw [Service.answer, h.route]
  simp only [if_pos h.method, hread]

/-- A body of a fair length is answered with what the granter makes of the upload that the
command line would ask for. -/
theorem answer_eq_told {ε : Type} (h : request.Posts command)
    (hlength : request.body.length ≤ Service.largestBody) (config : Config) (line : Line ε)
    (random : RandomBytes) (now : Instant) :
    config.service.answer line request random now =
      Service.told (config.grantOnce line command now) :=
  (config.service.answer_of_asksGrant line random now (h.asksGrant hlength)).trans
    (config.service.create_of_key? line random now rfl)

end ServiceRequest.Posts

/-! ### The records -/

/-- The record of a permitted grant can be kept. -/
theorem Grant.fits_toValue {grant : Grant} (hexpires : grant.request.expires ≤ longestGrant) :
    grant.toValue.Fits greatestDepth := by
  refine Value.fits_object_iff.2 fun m hm => ?_
  simp only [List.mem_cons, List.not_mem_nil, or_false] at hm
  rcases hm with rfl | rfl | rfl | rfl | rfl | rfl | rfl | rfl
  -- The sixth member is the number of seconds; all others are texts.
  case inr.inr.inr.inr.inr.inl => exact Value.fits_ofNat (Nat.lt_of_le_of_lt hexpires (by decide))
  all_goals exact .text _

namespace ServiceError

/-- The record of an error is kept as it is. -/
theorem read_answer {e : ServiceError} (hstatus : isStatus e.status = true) :
    Value.read e.answer.body = .ok e.toValue := by
  have hsmall : e.status < significandLimit := by
    simp only [isStatus, Bool.and_eq_true, decide_eq_true_eq] at hstatus
    exact Nat.lt_of_le_of_lt hstatus.2 (by decide)
  have hfits : e.toValue.Fits greatestDepth := by
    refine Value.fits_object_iff.2 fun m hm => ?_
    simp only [List.mem_cons, List.not_mem_nil, or_false] at hm
    rcases hm with rfl | rfl | rfl
    · exact .text _
    · exact .boolean _
    · exact Value.fits_ofNat hsmall
  have hrising : Rising [("error", .text e.message), ("retryable", .boolean e.retryable),
      ("status", Value.ofNat e.status)] := by
    have hnames : "error" < "retryable" ∧ "error" < "status" ∧ "retryable" < "status" := by
      decide +kernel
    simpa [Rising, and_assoc] using hnames
  have hnormal : e.toValue.normal = e.toValue :=
    congrArg Value.object (ordered_of_rising hrising)
  have hread := Value.read_of_spelledBy hfits e.toValue.spelledBy_bytes
  rwa [hnormal] at hread

end ServiceError

namespace Config

variable {ε : Type} {config : Config} {line : Line ε} {command : GrantCommand} {now : Instant}

/-- How the program ends with a single grant. -/
def ending : Except GrantFault Grant → Ending
  | .ok grant => .printed (grant.toValue.pretty ++ "\n")
  | .error fault => .failed fault.report

theorem runProgram_of_command {env : Environment} {words : List (List UInt8)}
    (haccepted : readSetup env words = .ok (config, some command)) :
    runProgram env words line now =
      ((config.grantOnce line command now).1, ending (config.grantOnce line command now).2) := by
  rw [runProgram, haccepted]
  dsimp only
  split <;> rename_i hgrant <;> rw [hgrant] <;> rfl

/-- The time of a single grant that is given is at most seven days. -/
theorem expires_of_grantOnce {grant : Grant}
    (hgrant : (config.grantOnce line command now).2 = .ok grant) :
    grant.request.expires ≤ longestGrant := by
  obtain ⟨hcheck, hsame, -, -⟩ := Granter.of_grant hgrant
  rw [hsame]
  exact Nat.le_trans (expires_of_check hcheck).2 (Nat.min_le_right _ _)

end Config

namespace Service

variable {ε : Type} {granted : Line ε × Except GrantFault Grant}

/-- The status tells how the granter decided. -/
theorem status_told :
    ((∃ grant, granted.2 = .ok grant) ↔ (told granted).2.status = 200) ∧
    ((∃ fault, granted.2 = .error (.policy fault)) ↔ (told granted).2.status = 400) ∧
    ((∃ fault, granted.2 = .error (.storage fault)) ↔ (told granted).2.status = 502) := by
  obtain ⟨after, outcome⟩ := granted
  cases outcome with
  | ok grant =>
      have hstatus : (told (after, .ok grant)).2.status = 200 := rfl
      simp [hstatus]
  | error fault =>
      cases fault with
      | policy fault =>
          have hstatus : (told (after, .error (.policy fault))).2.status = 400 := rfl
          simp [hstatus]
      | storage fault =>
          have hstatus : (told (after, .error (.storage fault))).2.status = 502 := rfl
          simp [hstatus]

/-- A grant is told as its record. -/
theorem read_told_of_ok {grant : Grant} (hgrant : granted.2 = .ok grant)
    (hexpires : grant.request.expires ≤ longestGrant) :
    Value.read (told granted).2.body = .ok grant.toValue.normal := by
  obtain ⟨after, outcome⟩ := granted
  cases hgrant
  exact Value.read_of_spelledBy (Grant.fits_toValue hexpires) grant.toValue.spelledBy_bytes

/-- A fault of the policy is told in its own words. -/
theorem read_told_of_policy {fault : PolicyFault} (hfault : granted.2 = .error (.policy fault)) :
    Value.read (told granted).2.body = .ok (ServiceError.badRequest fault.message).toValue := by
  obtain ⟨after, outcome⟩ := granted
  cases hfault
  exact ServiceError.read_answer rfl

end Service

/-- A command line that asks for a single grant and a request that says the same key and
content type come to the same, whatever the configuration, the storage and the time, if the
body of the request is no longer than the service takes. The storage hears the same; the
command line prints a grant exactly when the answer has the status 200, and both records are
read as the same value; a fault of the policy is answered with 400 and its text, and one of
the storage with 502. A longer body is answered with 413, whatever it says, and the storage
hears nothing. -/
theorem single_grant_is_answer_to_short_body {ε : Type} (config : Config)
    (command : GrantCommand) (request : ServiceRequest) (line : Line ε) (random : RandomBytes)
    (now : Instant) (hposts : request.Posts command) :
    let granted := config.grantOnce line command now
    let answered := config.service.answer line request random now
    (∀ env words, readSetup env words = .ok (config, some command) →
      runProgram env words line now = (granted.1, Config.ending granted.2)) ∧
    (request.body.length ≤ Service.largestBody →
      answered.1 = granted.1 ∧
      ((∃ grant, granted.2 = .ok grant) ↔ answered.2.status = 200) ∧
      ((∃ fault, granted.2 = .error (.policy fault)) ↔ answered.2.status = 400) ∧
      ((∃ fault, granted.2 = .error (.storage fault)) ↔ answered.2.status = 502) ∧
      (∀ grant, granted.2 = .ok grant → ∃ text v, Config.ending granted.2 = .printed text ∧
        Value.read (bytes text) = .ok v ∧ Value.read answered.2.body = .ok v) ∧
      ∀ fault, granted.2 = .error (.policy fault) → ∃ members,
        Value.read answered.2.body = .ok (.object members) ∧
        find? "error" members = some (.text fault.message)) ∧
    (Service.largestBody < request.body.length →
      answered.1 = line ∧ answered.2.status = 413) := by
  intro granted answered
  refine ⟨fun env words haccepted => Config.runProgram_of_command haccepted,
    fun hlength => ?_, fun hlength => ?_⟩
  · have htold : answered = Service.told granted :=
      hposts.answer_eq_told hlength config line random now
    obtain ⟨hok, hpolicy, hstorage⟩ := @Service.status_told ε granted
    rw [htold]
    refine ⟨Service.fst_told granted, hok, hpolicy, hstorage, fun grant hgrant => ?_,
      fun fault hfault => ⟨_, Service.read_told_of_policy hfault, rfl⟩⟩
    have hexpires : grant.request.expires ≤ longestGrant := Config.expires_of_grantOnce hgrant
    refine ⟨_, grant.toValue.normal, congrArg Config.ending hgrant, ?_,
      Service.read_told_of_ok hgrant hexpires⟩
    exact Value.read_of_spelledBy (Grant.fits_toValue hexpires) grant.toValue.spelledBy_pretty
  · obtain ⟨refusal, hstatus, hanswer⟩ :=
      hposts.answer_of_long hlength config.service line random now
    have hrefused : answered = (line, refusal) := hanswer
    rw [hrefused]
    exact ⟨rfl, hstatus⟩

/-- Where the storage takes a request for the bucket and accepts it, a permitted command is
granted. -/
theorem Config.grantOnce_of_loopback {ε : Type} {config : Config} {command : GrantCommand}
    {line : Line ε} {meanwhile : List ε} (hstorage : config.storage = loopback)
    (hbucket : config.bucket = "marketplace")
    (hcheck : config.policy.check (config.requestOf command) = .ok ())
    (hreachable : line.reachable = true)
    (hturn : line.turns.head? = some ⟨meanwhile, .reply ⟨200, [], none⟩⟩) :
    ∃ grant, (config.grantOnce line command leapBeforeYearZero).2 = .ok grant := by
  have hshort : (loopback.headAddress loopback.authority (config.requestOf command).bucket
      leapBeforeYearZero).written.length ≤ longestTarget := by
    rw [show (config.requestOf command).bucket = "marketplace" from hbucket]
    exact loopback.short_headAddress.1
  have hfound : ∃ status ∈ (line.turns.head?.getD Line.exhausted).answer.status?,
      isSuccess status = true := by
    rw [hturn]
    exact ⟨200, rfl, rfl⟩
  have hauthorized :=
    loopback.isSpoken.authorize_of_found hcheck hshort hreachable (Or.inl rfl) hfound
  rw [← hstorage] at hauthorized
  exact ⟨_, Granter.grant_of_authorize hcheck hauthorized⟩

/-- A command line that asks for a grant of a picture. -/
def pictureWords : List (List UInt8) :=
  [bytes "--grant-key=photos/crane.jpg", bytes "--content-type", bytes "image/jpeg"]

/-- The key and the content type of a picture. -/
def pictureCommand : GrantCommand := ⟨"photos/crane.jpg", "image/jpeg"⟩

/-- The picture is granted on a line that answers that the bucket is there. -/
theorem exists_config_of_pictureWords {ε : Type} {line : Line ε} {meanwhile : List ε}
    (hreachable : line.reachable = true)
    (hturn : line.turns.head? = some ⟨meanwhile, .reply ⟨200, [], none⟩⟩) :
    ∃ config, readSetup sparseEnvironment pictureWords = .ok (config, some pictureCommand) ∧
      ∃ grant, (config.grantOnce line pictureCommand leapBeforeYearZero).2 = .ok grant := by
  have hwords : Options.ofWords pictureWords =
      .ok { grantKey := some "photos/crane.jpg", contentType := some "image/jpeg" } := by
    decide +kernel
  have haccepted := readSetup_of_sparse hwords (fun _ _ => rfl) rfl sparseEnvironment_numbers
    (by decide)
  refine ⟨_, haccepted, ?_⟩
  exact Config.grantOnce_of_loopback rfl rfl (by decide +kernel) hreachable hturn

/-- A request with its members the other way round, and one that nobody asked for, is
answered with the grant that the command line prints. -/
theorem single_grant_is_answer_at_loopback :
    let words := [bytes "--grant-key=photos/crane.jpg", bytes "--content-type", bytes "image/jpeg"]
    let command : GrantCommand := ⟨"photos/crane.jpg", "image/jpeg"⟩
    let members : List (String × Value) :=
      [("contentType", .text "image/jpeg"), ("note", .null), ("key", .text "photos/crane.jpg")]
    let request : ServiceRequest :=
      ⟨"POST", "/uploads/grant", some "application/json", (Value.object members).bytes⟩
    let random : RandomBytes := ⟨List.replicate 16 0, rfl⟩
    let line : Line Unit := .ofTurns true [⟨[], .reply ⟨200, [], none⟩⟩]
    ∃ config text v, readSetup sparseEnvironment words = .ok (config, some command) ∧
      (runProgram sparseEnvironment words line leapBeforeYearZero).2 = .printed text ∧
      (config.service.answer line request random leapBeforeYearZero).2.status = 200 ∧
      Value.read (bytes text) = .ok v ∧
      Value.read (config.service.answer line request random leapBeforeYearZero).2.body = .ok v := by
  intro words command members request random line
  obtain ⟨config, (haccepted : readSetup sparseEnvironment words = .ok (config, some command)),
    grant, hgranted⟩ := @exists_config_of_pictureWords Unit line [] rfl rfl
  have hposts : request.Posts command := by
    refine ⟨by decide, rfl, by decide, members, (Value.object members).spelledBy_bytes, ?_⟩
    exact
      { bucket := Or.inl ⟨rfl, rfl⟩
        key := Or.inr rfl
        filename := Or.inl ⟨rfl, rfl⟩
        contentType := rfl
        expires := Or.inl ⟨rfl, rfl⟩
        count := nofun }
  obtain ⟨hrun, hshort, -⟩ := single_grant_is_answer_to_short_body config command request line
    random leapBeforeYearZero hposts
  obtain ⟨-, hok, -, -, hrecords, -⟩ := hshort (by decide)
  obtain ⟨text, v, hending, htext, hbody⟩ := hrecords _ hgranted
  refine ⟨config, text, v, haccepted, ?_, hok.1 ⟨_, hgranted⟩, htext, hbody⟩
  rw [hrun _ _ haccepted]
  exact hending

/-! ### Where the ways part -/

namespace GrantCommand

/-- The members that say the key and the content type of a command. -/
def members (command : GrantCommand) : List (String × Value) :=
  [("key", .text command.key), ("contentType", .text command.contentType)]

theorem describedBy_members (command : GrantCommand) :
    GrantBody.DescribedBy command.members command.body where
  bucket := Or.inl ⟨rfl, rfl⟩
  key := Or.inr rfl
  filename := Or.inl ⟨rfl, rfl⟩
  contentType := rfl
  expires := Or.inl ⟨rfl, rfl⟩
  count := nofun

/-- A plain way to post a command, with blanks before the object. -/
def paddedRequest (command : GrantCommand) (blanks : Nat) : ServiceRequest :=
  ⟨"POST", "/uploads/grant", some "application/json",
    List.replicate blanks (byteOf ' ') ++ (Value.object command.members).bytes⟩

theorem posts_paddedRequest (command : GrantCommand) (blanks : Nat) :
    (command.paddedRequest blanks).Posts command where
  route := show Service.route? "/uploads/grant" = some .grant by decide
  method := rfl
  json := show MediaType.isJson "application/json" = true by decide
  body := by
    have hblanks : IsBlanks (List.replicate blanks (byteOf ' ')) := fun b hb => by
      rw [List.eq_of_mem_replicate hb]
      decide
    exact ⟨command.members, (Value.object command.members).spelledBy_bytes.blanks_append hblanks,
      command.describedBy_members⟩

/-- With as many blanks as a body may have bytes the body is too long. -/
theorem largestBody_lt_paddedRequest (command : GrantCommand) :
    Service.largestBody < (command.paddedRequest Service.largestBody).body.length := by
  have hbracket : 0 < (Value.object command.members).bytes.length :=
    List.length_pos_iff.2 (List.cons_ne_nil _ _)
  rw [paddedRequest, List.length_append, List.length_replicate]
  omega

end GrantCommand

/-- Two mebibytes of blanks before the object: the command line prints a grant, and the
service says that the body is too long. -/
theorem padded_body_is_answered_otherwise :
    let request := pictureCommand.paddedRequest Service.largestBody
    let random : RandomBytes := ⟨List.replicate 16 0, rfl⟩
    let line : Line Unit := .ofTurns true [⟨[], .reply ⟨200, [], none⟩⟩]
    request.Posts pictureCommand ∧
      ∃ config, readSetup sparseEnvironment pictureWords = .ok (config, some pictureCommand) ∧
        (∃ text, (runProgram sparseEnvironment pictureWords line leapBeforeYearZero).2 =
          .printed text) ∧
        (config.service.answer line request random leapBeforeYearZero).2.status = 413 := by
  intro request random line
  obtain ⟨config, haccepted, grant, hgranted⟩ :=
    @exists_config_of_pictureWords Unit line [] rfl rfl
  have hposts := pictureCommand.posts_paddedRequest Service.largestBody
  obtain ⟨refusal, hstatus, hanswer⟩ := hposts.answer_of_long
    pictureCommand.largestBody_lt_paddedRequest config.service line random leapBeforeYearZero
  have hprinted : (runProgram sparseEnvironment pictureWords line leapBeforeYearZero).2 =
      .printed (grant.toValue.pretty ++ "\n") := by
    rw [Config.runProgram_of_command haccepted, hgranted]
    rfl
  refine ⟨hposts, config, haccepted, ⟨_, hprinted⟩, ?_⟩
  rw [hanswer]
  exact hstatus

end SignedAccess
