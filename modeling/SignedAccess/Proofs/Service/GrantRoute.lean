/-
# The route that gives grants

A request whose body can be read is answered by what the granter makes of one upload: the
grant itself, the wording of the policy, or no more than whether another attempt may
succeed. What a body leaves out comes from the defaults, and a key goes before a file name.
Everything else is answered without a look at the service or its line, but for the
readiness of the storage, and no request is worth more than one to the storage.
-/

import SignedAccess.Proofs.Service.BodyReading
import SignedAccess.Proofs.Upload.BucketCheck
import SignedAccess.Service.Router

namespace SignedAccess

open Json Time

/-! ### Requests that reach the storage -/

section Reach

variable {ε : Type} (line : Line ε) (now : Instant)

namespace Storage

theorem seesAtMostOne_checkBucket (storage : Storage) (bucket : String) :
    line.SeesAtMostOne (storage.checkBucket line bucket now).1 := by
  unfold checkBucket
  cases storage.sign (storage.headOrder bucket now) with
  | error fault => exact Or.inl rfl
  | ok address =>
      have hseen := line.seesAtMostOne_exchange manner ⟨"HEAD", address.toString, none, none⟩
      dsimp only
      split
      · rename_i hexchange
        rwa [hexchange] at hseen
      · rename_i hexchange
        rw [hexchange] at hseen
        split <;> exact hseen

/-- The address for the upload is signed without a further request. -/
theorem fst_authorize (storage : Storage) (request : UploadRequest) :
    (storage.authorize line request now).1 = (storage.checkBucket line request.bucket now).1 := by
  unfold authorize
  split <;> rename_i hchecked <;> rw [hchecked]

end Storage

namespace ControlPlane

theorem seesAtMostOne_authorize (plane : ControlPlane) (request : UploadRequest) :
    line.SeesAtMostOne (plane.authorize line request now).1 := by
  cases plane with
  | signing storage =>
      rw [authorize, storage.fst_authorize]
      exact storage.seesAtMostOne_checkBucket line now request.bucket
  | granting address => exact Or.inl rfl
  | failing kind detail => exact Or.inl rfl

theorem seesAtMostOne_probe (plane : ControlPlane) (bucket : String) :
    line.SeesAtMostOne (plane.probe line bucket now).1 := by
  cases plane with
  | signing storage => exact storage.seesAtMostOne_checkBucket line now bucket
  | granting address => exact Or.inl rfl
  | failing kind detail => exact Or.inl rfl

end ControlPlane

theorem Granter.seesAtMostOne_grant (granter : Granter) (request : UploadRequest) :
    line.SeesAtMostOne (granter.grant line request now).1 := by
  unfold grant
  cases granter.policy.check request with
  | error fault => exact Or.inl rfl
  | ok passed =>
      have hseen := granter.plane.seesAtMostOne_authorize line now request
      dsimp only
      split <;> rename_i hauthorized <;> rwa [hauthorized] at hseen

/-- A request that the policy rejects leaves the line as it was. -/
theorem Granter.fst_grant_of_policy {granter : Granter} {request : UploadRequest}
    {fault : PolicyFault} (hgrant : (granter.grant line request now).2 = .error (.policy fault)) :
    (granter.grant line request now).1 = line := by
  rw [grant, Granter.grant_eq_policy_iff.1 hgrant]

end Reach

/-! ### What a body asks for -/

namespace GrantBody

/-- The key that a body asks for: the one that it gives, or else one made from the file
name. -/
def key? (body : GrantBody) (front : String) (random : RandomBytes) : Option String :=
  body.key.or (body.filename.map fun filename => deriveKey front filename random)

theorem key?_eq_none_iff (body : GrantBody) {front : String} {random : RandomBytes} :
    body.key? front random = none ↔ body.key = none ∧ body.filename = none := by
  rw [key?, Option.or_eq_none_iff, Option.map_eq_none_iff]

/-- The upload that a body asks for under a key. -/
def upload (body : GrantBody) (defaults : GrantDefaults) (key : String) : UploadRequest where
  bucket := body.bucket.getD defaults.bucket
  key := key
  contentType := body.contentType
  expires := body.expires.getD defaults.expires

end GrantBody

/-- The answer to a request that the storage failed. -/
def ServiceAnswer.outage (retryable : Bool) : ServiceAnswer :=
  (⟨502, "could not authorize upload", retryable⟩ : ServiceError).answer

/-- The answer to a body from which no key can be had. -/
def ServiceAnswer.noKey : ServiceAnswer :=
  (ServiceError.badRequest "either key or filename is required").answer

namespace ServiceRequest

/-- The request asks for a grant, with a body that can be read. -/
structure AsksGrant (request : ServiceRequest) (body : GrantBody) : Prop where
  route : Service.route? request.target = some .grant
  method : request.method = "POST"
  body : Service.readBody request.contentType request.body = .ok body

/-- The request asks whether the storage can be used. -/
def AsksReadiness (request : ServiceRequest) : Prop :=
  Service.route? request.target = some .ready ∧ (request.method = "GET" ∨ request.method = "HEAD")

end ServiceRequest

namespace Service

theorem readBody_eq_ok_iff {contentType : Option String} {bs : List UInt8} {body : GrantBody} :
    readBody contentType bs = .ok body ↔
      contentType.any MediaType.isJson = true ∧ bs.length ≤ largestBody ∧
        GrantBody.record.readAll bs = .ok body := by
  unfold readBody
  cases contentType.any MediaType.isJson with
  | false => simp
  | true =>
      by_cases hlarge : largestBody < bs.length
      · simp [hlarge, Nat.not_le.2 hlarge]
      · rw [Bool.not_true, if_neg Bool.false_ne_true, if_neg hlarge]
        cases hread : GrantBody.record.readAll bs with
        | ok found => simp [Nat.le_of_not_lt hlarge]
        | error fault => cases fault <;> simp

/-- A body that cannot be read is refused with one of four statuses. -/
theorem status_of_readBody {contentType : Option String} {bs : List UInt8}
    {refusal : ServiceAnswer} (hread : readBody contentType bs = .error refusal) :
    refusal.status ∈ [400, 413, 415, 422] := by
  unfold readBody at hread
  split at hread
  · cases hread
    simp [ServiceAnswer.plain]
  · split at hread
    · cases hread
      simp [ServiceAnswer.plain]
    · split at hread <;> cases hread <;> simp [ServiceAnswer.plain]

section Create

variable {ε : Type} (service : Service) (line : Line ε) (random : RandomBytes) (now : Instant)
  {body : GrantBody}

theorem requestOf_eq (body : GrantBody) :
    service.requestOf body random =
      match body.key? service.defaults.keyFront random with
      | some key => .ok (body.upload service.defaults key)
      | none => .error (.badRequest "either key or filename is required") := by
  obtain ⟨bucket, key, filename, contentType, expires⟩ := body
  cases key <;> cases filename <;> rfl

/-- What the granter made of an upload, as it is told. -/
def told : Line ε × Except GrantFault Grant → Line ε × ServiceAnswer
  | (after, .ok grant) => (after, .json 200 grant.toValue)
  | (after, .error (.policy fault)) => (after, (ServiceError.badRequest fault.message).answer)
  | (after, .error (.storage fault)) => (after, .outage fault.isRetryable)

theorem fst_told (granted : Line ε × Except GrantFault Grant) : (told granted).1 = granted.1 := by
  obtain ⟨after, outcome⟩ := granted
  cases outcome with
  | ok grant => rfl
  | error fault => cases fault <;> rfl

theorem create_of_key? {key : String}
    (hkey : body.key? service.defaults.keyFront random = some key) :
    service.create line body random now =
      told (service.granter.grant line (body.upload service.defaults key) now) := by
  rw [create, requestOf_eq, hkey]
  dsimp only
  split
  · rename_i hgrant
    rw [hgrant]
    rfl
  · rename_i fault hgrant
    rw [hgrant]
    cases fault <;> rfl

theorem create_of_none (hkey : body.key? service.defaults.keyFront random = none) :
    service.create line body random now = (line, .noKey) := by
  rw [create, requestOf_eq, hkey]
  rfl

end Create

/-! ### Answers -/

section Answer

variable {ε : Type} (service : Service) (line : Line ε) {request : ServiceRequest}
  (random : RandomBytes) (now : Instant)

theorem answer_of_asksGrant {body : GrantBody} (h : request.AsksGrant body) :
    service.answer line request random now = service.create line body random now := by
  rw [answer, h.route]
  simp only [if_pos h.method, h.body]

/-- Without a grant to give and without a question about the storage the answer is known
from the request alone. -/
theorem answer_of_other (hgrant : ∀ body, ¬request.AsksGrant body)
    (hready : ¬request.AsksReadiness) :
    ∃ settled : ServiceAnswer, settled.status ∈ [200, 400, 404, 405, 413, 415, 422] ∧
      ∀ (service : Service) (line : Line ε) (random : RandomBytes) (now : Instant),
        service.answer line request random now = (line, settled) := by
  unfold answer
  cases hroute : route? request.target with
  | none => exact ⟨_, by decide, fun _ _ _ _ => rfl⟩
  | some route =>
      cases route with
      | grant =>
          by_cases hpost : request.method = "POST"
          · cases hread : readBody request.contentType request.body with
            | error refusal =>
                refine ⟨refusal, ?_, fun _ _ _ _ => by rw [if_pos hpost]⟩
                have hstatus := status_of_readBody hread
                simp only [List.mem_cons, List.not_mem_nil, or_false] at hstatus ⊢
                omega
            | ok body => exact absurd ⟨hroute, hpost, hread⟩ (hgrant body)
          · exact ⟨_, by decide, fun _ _ _ _ => if_neg hpost⟩
      | health =>
          by_cases hget : request.method = "GET"
          · exact ⟨_, by decide, fun _ _ _ _ => if_pos hget⟩
          · by_cases hhead : request.method = "HEAD"
            · exact ⟨_, by decide, fun _ _ _ _ => (if_neg hget).trans (if_pos hhead)⟩
            · exact ⟨_, by decide, fun _ _ _ _ => (if_neg hget).trans (if_neg hhead)⟩
      | ready =>
          have hget : request.method ≠ "GET" := fun h => hready ⟨hroute, Or.inl h⟩
          have hhead : request.method ≠ "HEAD" := fun h => hready ⟨hroute, Or.inr h⟩
          exact ⟨_, by decide, fun _ _ _ _ => (if_neg hget).trans (if_neg hhead)⟩

theorem seesAtMostOne_create (body : GrantBody) :
    line.SeesAtMostOne (service.create line body random now).1 := by
  cases hkey : body.key? service.defaults.keyFront random with
  | none =>
      rw [service.create_of_none line random now hkey]
      exact Or.inl rfl
  | some key =>
      rw [service.create_of_key? line random now hkey, fst_told]
      exact service.granter.seesAtMostOne_grant line now _

theorem seesAtMostOne_ready : line.SeesAtMostOne (service.ready line now).1 := by
  have hseen := service.granter.plane.seesAtMostOne_probe line now service.defaults.bucket
  unfold ready
  split <;> rename_i hprobe <;> rwa [hprobe] at hseen

theorem seesAtMostOne_answer (request : ServiceRequest) :
    line.SeesAtMostOne (service.answer line request random now).1 := by
  have hready := service.seesAtMostOne_ready line now
  by_cases hgrant : ∃ body, request.AsksGrant body
  · obtain ⟨body, hgrant⟩ := hgrant
    rw [service.answer_of_asksGrant line random now hgrant]
    exact service.seesAtMostOne_create line random now body
  · by_cases hasks : request.AsksReadiness
    · obtain ⟨hroute, hmethod⟩ := hasks
      rw [answer, hroute]
      dsimp only
      split
      · exact hready
      · rename_i hget
        rw [if_pos (hmethod.resolve_left hget)]
        exact hready
    · obtain ⟨settled, -, hsettled⟩ := @answer_of_other ε request (not_exists.1 hgrant) hasks
      rw [hsettled]
      exact Or.inl rfl

end Answer

end Service

/-- The answer to a grant request whose body can be read is settled by one upload: the key
that the body gives, or else one made from its file name, and for the rest what it says, or
else the defaults. Without a key there is an error and the storage hears nothing. With one
the answer is the grant that the granter gives, or the wording of the policy, and then the
storage hears nothing either, or an error that tells no more of the failure than whether
another attempt may succeed. A body that is written as an object is read exactly when its
five parts are of their kinds, whatever else it holds. Every other answer is known without
the service, but for the readiness of the storage, and no request is seen by the storage
more than once. -/
theorem grant_route_refines_granter {ε : Type} (service : Service) (line : Line ε)
    (request : ServiceRequest) (random : RandomBytes) (now : Instant) :
    let answered := service.answer line request random now
    (∀ body, request.AsksGrant body →
      (body.key = none ∧ body.filename = none → answered = (line, .noKey)) ∧
      (¬(body.key = none ∧ body.filename = none) →
        ∃ key, body.key? service.defaults.keyFront random = some key ∧
        let granted := service.granter.grant line (body.upload service.defaults key) now
        (∀ grant, granted.2 = .ok grant → answered = (granted.1, .json 200 grant.toValue)) ∧
        (∀ fault, granted.2 = .error (.policy fault) →
          answered = (line, (ServiceError.badRequest fault.message).answer)) ∧
        (∀ fault, granted.2 = .error (.storage fault) →
          answered = (granted.1, .outage fault.isRetryable)))) ∧
    (∀ members, Service.route? request.target = some .grant → request.method = "POST" →
      request.contentType.any MediaType.isJson = true →
      request.body.length ≤ Service.largestBody →
      (Value.object members).SpelledBy request.body →
      (∀ body, GrantBody.DescribedBy members body → request.AsksGrant body) ∧
      ((∀ m ∈ members, m.1 ∈ GrantBody.names → m.2.Fits (greatestDepth - 1)) →
        ∀ body, request.AsksGrant body → GrantBody.DescribedBy members body)) ∧
    ((∀ body, ¬request.AsksGrant body) → ¬request.AsksReadiness →
      ∃ settled : ServiceAnswer, settled.status ∈ [200, 400, 404, 405, 413, 415, 422] ∧
        answered = (line, settled) ∧
        ∀ (other : Service) (elsewhere : Line ε) (random : RandomBytes) (now : Instant),
          other.answer elsewhere request random now = (elsewhere, settled)) ∧
    line.SeesAtMostOne answered.1 := by
  intro answered
  refine ⟨fun body hasks => ?_, fun members hroute hpost hjson hlength hspells => ⟨?_, ?_⟩,
    fun hgrant hready => ?_, service.seesAtMostOne_answer line random now request⟩
  · have hcreate := service.answer_of_asksGrant line random now hasks
    refine ⟨fun hnone => ?_, fun hsome => ?_⟩
    · exact hcreate.trans (service.create_of_none line random now (body.key?_eq_none_iff.2 hnone))
    · obtain ⟨key, hkey⟩ := Option.ne_none_iff_exists'.1 fun hnone =>
        hsome (body.key?_eq_none_iff.1 hnone)
      refine ⟨key, hkey, ?_⟩
      intro granted
      have htold : answered = Service.told granted :=
        hcreate.trans (service.create_of_key? line random now hkey)
      have hpair : granted = (granted.1, granted.2) := rfl
      refine ⟨fun grant hgranted => ?_, fun fault hrejected => ?_, fun fault hfailed => ?_⟩
      · rw [htold, hpair, hgranted]
        rfl
      · have hline : granted.1 = line := Granter.fst_grant_of_policy line now hrejected
        rw [htold, hpair, hrejected, hline]
        rfl
      · rw [htold, hpair, hfailed]
        rfl
  · intro body hdescribed
    refine ⟨hroute, hpost, Service.readBody_eq_ok_iff.2 ⟨hjson, hlength, ?_⟩⟩
    exact (GrantBody.readAll_eq_ok_iff (fun m hm hname => hdescribed.fits hm hname _) hspells).2
      hdescribed
  · intro hfits body hasks
    obtain ⟨-, -, hread⟩ := Service.readBody_eq_ok_iff.1 hasks.body
    exact (GrantBody.readAll_eq_ok_iff hfits hspells).1 hread
  · obtain ⟨settled, hstatus, hsettled⟩ := @Service.answer_of_other ε request hgrant hready
    exact ⟨settled, hstatus, hsettled service line random now, hsettled⟩

/-- A body with a file name, a bucket that is null and a member that nobody asked for is
granted with the defaults, under a key that ends in what is left of the file name. -/
theorem grant_route_refines_granter_with_derived_key :
    let service : Service := ⟨⟨.granting loopback.endpoint, GrantPolicy.standard⟩,
      ⟨"marketplace", 900, "uploads/"⟩⟩
    let members : List (String × Value) := [("filename", .text "photos/lift 7.pdf"),
      ("tags", .array [.null, .text "new"]), ("bucket", .null),
      ("contentType", .text "application/pdf")]
    let request : ServiceRequest := ⟨"POST", "/uploads/grant?from=form", some "application/json",
      (Value.object members).bytes⟩
    let random : RandomBytes := ⟨List.replicate 16 0, rfl⟩
    let line : Line Unit := .ofTurns true []
    ∃ grant : Grant, service.answer line request random leapBeforeYearZero =
        (line, .json 200 grant.toValue) ∧
      grant.request = ⟨"marketplace", "uploads/00000000-0000-4000-8000-000000000000-lift_7.pdf",
        "application/pdf", 900⟩ := by
  intro service members request random line
  let body : GrantBody := ⟨none, none, some "photos/lift 7.pdf", "application/pdf", none⟩
  have hdescribed : GrantBody.DescribedBy members body :=
    { bucket := Or.inr rfl
      key := Or.inl ⟨rfl, rfl⟩
      filename := Or.inr rfl
      contentType := rfl
      expires := Or.inl ⟨rfl, rfl⟩
      count := nofun }
  obtain ⟨hgrants, hreads, -⟩ :=
    grant_route_refines_granter service line request random leapBeforeYearZero
  obtain ⟨hasks, -⟩ := hreads members (by decide) rfl (by decide)
    (by decide) (Value.object members).spelledBy_bytes
  obtain ⟨-, hkey⟩ := hgrants body (hasks body hdescribed)
  obtain ⟨key, hderived, hgranted, -⟩ := hkey nofun
  have hname : body.key? "uploads/" random =
      some "uploads/00000000-0000-4000-8000-000000000000-lift_7.pdf" := by decide
  obtain rfl := Option.some.inj (hname.symm.trans hderived)
  let upload := body.upload service.defaults
    "uploads/00000000-0000-4000-8000-000000000000-lift_7.pdf"
  have hcheck : GrantPolicy.standard.check upload = .ok () := by decide
  have hgrant : service.granter.grant line upload leapBeforeYearZero =
      (line, .ok ⟨loopback.endpoint, upload, leapBeforeYearZero⟩) := by
    rw [Granter.grant, hcheck]
    rfl
  refine ⟨⟨loopback.endpoint, upload, leapBeforeYearZero⟩, ?_, rfl⟩
  exact (hgranted _ (congrArg Prod.snd hgrant)).trans (by rw [congrArg Prod.fst hgrant])

end SignedAccess
