/-
# The secret key shows in signatures only

Take two storages that differ in their secret key alone, and make the same calls with the
same peers. Then both runs go the same way: peers see the same requests, callers get the
same grants, failures and answers, once the signatures in their texts are blanked.
`secret_shows_in_signatures_only` says this of every run.

What carries it: a signed address ends with its signature, after a question mark, so it is
read and written with the signature at its end whatever the digits are; signatures have
one length, so neither address is too long where the other is not; and the texts that hold
an address hold it as a whole.
-/

import Mathlib.Data.List.Forall2
import SignedAccess.Proofs.Address.Extension
import SignedAccess.Proofs.Text.Blanking
import SignedAccess.Proofs.Upload.BucketCheck
import SignedAccess.Service.Router

namespace SignedAccess

open Json Text Time

/-! ### Two runs -/

/-- Both fail or both succeed, and what they end with is related. -/
inductive InStep {φ α : Type} (faults : φ → φ → Prop) (values : α → α → Prop) :
    Except φ α → Except φ α → Prop
  | error {f g : φ} (h : faults f g) : InStep faults values (.error f) (.error g)
  | ok {a b : α} (h : values a b) : InStep faults values (.ok a) (.ok b)

theorem InStep.same {φ α : Type} {faults : φ → φ → Prop} {values : α → α → Prop}
    (hfaults : ∀ f, faults f f) (hvalues : ∀ a, values a a) (x : Except φ α) :
    InStep faults values x x := by
  cases x with
  | error f => exact .error (hfaults f)
  | ok a => exact .ok (hvalues a)

theorem InStep.cases {φ α : Type} {faults : φ → φ → Prop} {values : α → α → Prop}
    {x y : Except φ α} (h : InStep faults values x y) :
    (∃ f g, x = .error f ∧ y = .error g ∧ faults f g) ∨
      ∃ a b, x = .ok a ∧ y = .ok b ∧ values a b := by
  cases h with
  | error h => exact Or.inl ⟨_, _, rfl, rfl, h⟩
  | ok h => exact Or.inr ⟨_, _, rfl, rfl, h⟩

/-- Of two runs in step either both fail or both succeed, with what each leaves behind. -/
theorem InStep.cases_pair {σ φ α : Type} {states : σ → σ → Prop} {faults : φ → φ → Prop}
    {values : α → α → Prop} {x y : σ × Except φ α}
    (h : states x.1 y.1 ∧ InStep faults values x.2 y.2) :
    (∃ s t f g, x = (s, .error f) ∧ y = (t, .error g) ∧ states s t ∧ faults f g) ∨
      ∃ s t a b, x = (s, .ok a) ∧ y = (t, .ok b) ∧ states s t ∧ values a b := by
  obtain ⟨s, outcome⟩ := x
  obtain ⟨t, outcome'⟩ := y
  obtain ⟨hstates, houtcome⟩ := h
  cases houtcome with
  | error hfault => exact Or.inl ⟨s, t, _, _, rfl, rfl, hstates, hfault⟩
  | ok hvalue => exact Or.inr ⟨s, t, _, _, rfl, rfl, hstates, hvalue⟩

/-! ### Addresses that differ in their signature -/

theorem staysInTail_of_hexValue? {c : Char} (hc : (hexValue? c).isSome = true) :
    Address.staysInTail c = true := by
  refine forall_ascii (p := fun d => (hexValue? d).isSome = true →
    Address.staysInTail d = true) ?_ (lt_of_hexValue? hc) hc
  decide

/-- A signature after its name stays as it is at the end of an address. -/
theorem staysInTail_signature {signature : List Char}
    (hsignature : addressSignature.IsSignature signature) :
    ∀ c ∈ addressSignature.name ++ signature, Address.staysInTail c = true := by
  have hname : ∀ c ∈ addressSignature.name, Address.staysInTail c = true :=
    List.all_eq_true.1 (by decide)
  intro c hc
  rcases List.mem_append.1 hc with hin | hin
  · exact hname c hin
  · exact staysInTail_of_hexValue? (hsignature.digits c hin)

theorem isSignature_signature (order : SigningOrder) (credentials : Credentials)
    (host : List Char) : addressSignature.IsSignature (order.signature credentials host) where
  length := Digest.length_hexKeyed _ _
  digits := by
    refine forall_mem_toHex fun n hn => ?_
    simp [addressSignature, hexValue?_hexDigit (List.mem_range.1 hn)]

namespace Address

/-- The addresses differ in the signature at their end alone. -/
def Alike (a b : Address) : Prop :=
  ∃ (front : Address) (one two : List Char), front.HasTail ∧
    addressSignature.IsSignature one ∧ addressSignature.IsSignature two ∧
    a = front.extended (addressSignature.name ++ one) ∧
    b = front.extended (addressSignature.name ++ two)

theorem Alike.same_place {a b : Address} (h : a.Alike b) :
    b.scheme = a.scheme ∧ b.host? = a.host? ∧ b.port? = a.port? := by
  obtain ⟨front, one, two, -, -, -, rfl, rfl⟩ := h
  exact ⟨rfl, rfl, rfl⟩

theorem Alike.toString {a b : Address} (h : a.Alike b) : AlikeTexts a.toString b.toString := by
  obtain ⟨front, one, two, htail, hone, htwo, rfl, rfl⟩ := h
  simp only [AlikeTexts, Address.toString, String.toList_ofList, written_extended htail]
  exact .of_signatures _ hone htwo

theorem Alike.withoutFragment {a b : Address} (h : a.Alike b) :
    AlikeTexts (String.ofList a.writtenWithoutFragment)
      (String.ofList b.writtenWithoutFragment) := by
  obtain ⟨front, one, two, htail, hone, htwo, rfl, rfl⟩ := h
  simp only [AlikeTexts, String.toList_ofList, writtenWithoutFragment_extended htail]
  split
  · exact .refl _ _
  · exact .of_signatures _ hone htwo

end Address

/-- With two secret keys an address is signed or not in the same way. -/
theorem SigningOrder.inStep_sign (order : SigningOrder) (accessKey one two : String)
    (endpoint : Address) :
    InStep (· = ·) Address.Alike (order.sign ⟨accessKey, one⟩ endpoint)
      (order.sign ⟨accessKey, two⟩ endpoint) := by
  unfold sign
  cases hostHeader endpoint with
  | error fault => exact .error rfl
  | ok host =>
      let front := endpoint.origin?.getD "null".toList ++
        (order.path ++ '?' :: (order.query accessKey host ++ ['&']))
      have hmark : Address.HasMark front := ⟨'?', by simp [front], rfl⟩
      have htext : ∀ secret, order.addressText ⟨accessKey, secret⟩ endpoint host =
          front ++ (addressSignature.name ++ order.signature ⟨accessKey, secret⟩ host) := by
        intro secret
        have hname : addressSignature.name = "X-Amz-Signature".toList ++ ['='] := by decide
        rw [addressText_eq, hname]
        simp [front, signedQuery]
      obtain ⟨outcome, htail, hread⟩ := Address.exists_read_append hmark
      have hsigned := fun secret => isSignature_signature order ⟨accessKey, secret⟩ host
      have haddress : ∀ secret, Address.read (order.addressText ⟨accessKey, secret⟩ endpoint host) =
          outcome.map (·.extended (addressSignature.name ++
            order.signature ⟨accessKey, secret⟩ host)) := fun secret => by
        rw [htext]
        exact hread _ (by simp [Marking.name]) (staysInTail_signature (hsigned secret))
      simp only [bind, Except.bind, haddress]
      cases outcome with
      | error fault => exact .error rfl
      | ok address =>
          exact .ok ⟨address, _, _, htail address rfl, hsigned one, hsigned two, rfl, rfl⟩

/-! ### Requests that differ in their signature -/

/-- The texts of the faults differ in one signature at most. -/
structure ExchangeFault.Alike (fault other : ExchangeFault) : Prop where
  message : AlikeTexts fault.message other.message
  causes : fault.causes = other.causes

namespace ExchangeFault.Alike

variable {address other : String} (h : AlikeTexts address other)

include h

theorem wrongScheme : (ExchangeFault.wrongScheme address).Alike (.wrongScheme other) :=
  ⟨h.append "builder error for url (" ")", rfl⟩

theorem wrongTarget : (ExchangeFault.wrongTarget address).Alike (.wrongTarget other) :=
  ⟨h.append "builder error for url (" ")", rfl⟩

theorem notSent (link : LinkFault) :
    (ExchangeFault.notSent address link).Alike (.notSent other link) :=
  ⟨h.append "error sending request for url (" ")", by cases link <;> rfl⟩

theorem timedOut : (ExchangeFault.timedOut address).Alike (.timedOut other) :=
  ⟨h.append "error sending request for url (" ")", rfl⟩

end ExchangeFault.Alike

/-- The requests differ in the signature of their address alone. -/
structure Parcel.Alike (parcel other : Parcel) : Prop where
  address : parcel.address.Alike other.address
  rest : other = { parcel with address := other.address }

/-- What stands at the end of an address is no part of its user name. -/
theorem takeUserInfo_extended (a : Address) (tail : List Char) :
    takeUserInfo (a.extended tail) =
      ((takeUserInfo a).1.extended tail, (takeUserInfo a).2) := by
  have hauthority : (a.extended tail).authority = a.authority := rfl
  unfold takeUserInfo
  rw [hauthority]
  split
  · split
    · rfl
    · dsimp only
      split <;> rfl
  · rfl

theorem hasTail_takeUserInfo {a : Address} (htail : a.HasTail) : (takeUserInfo a).1.HasTail := by
  unfold takeUserInfo
  split
  · split
    · exact htail
    · dsimp only
      split <;> exact htail
  · exact htail

/-- Of what stands at the end of an address only the length counts for where requests go. -/
theorem isTarget_extended {a : Address} (htail : a.HasTail) {tail other : List Char}
    (hlength : tail.length = other.length) :
    isTarget (a.extended tail) = isTarget (a.extended other) := by
  simp only [isTarget, Address.host?_extended, Address.written_extended htail,
    List.length_append, hlength]

/-- With two signatures a request is made ready or not in the same way. -/
theorem Order.inStep_prepare {a b : Address} (h : a.Alike b) (method : String) :
    InStep ExchangeFault.Alike Parcel.Alike (Order.prepare ⟨method, a.toString, none, none⟩)
      (Order.prepare ⟨method, b.toString, none, none⟩) := by
  obtain ⟨front, one, two, htail, hone, htwo, rfl, rfl⟩ := h
  obtain ⟨outcome, hsome, hread⟩ := Address.exists_read_append (Address.hasMark_written htail)
  have hagain : ∀ {signature}, addressSignature.IsSignature signature →
      Address.read (front.extended (addressSignature.name ++ signature)).toString.toList =
        outcome.map (·.extended (addressSignature.name ++ signature)) := by
    intro signature hsignature
    rw [Address.toString, String.toList_ofList, Address.written_extended htail]
    exact hread _ (by simp [Marking.name]) (staysInTail_signature hsignature)
  unfold prepare
  simp only [hagain hone, hagain htwo]
  cases outcome with
  | error fault => exact .error ⟨AlikeTexts.refl _, rfl⟩
  | ok whole =>
      have hwhole := hsome whole rfl
      have hlength : (addressSignature.name ++ one).length =
          (addressSignature.name ++ two).length := by
        rw [List.length_append, List.length_append, hone.length, htwo.length]
      have halike : ∀ {a : Address}, a.HasTail →
          (a.extended (addressSignature.name ++ one)).Alike
            (a.extended (addressSignature.name ++ two)) :=
        fun ha => ⟨_, one, two, ha, hone, htwo, rfl, rfl⟩
      have hsent := halike (hasTail_takeUserInfo hwhole)
      simp only [Except.map, Address.host?_extended, takeUserInfo_extended,
        Address.scheme_extended, Option.map_none, Option.any_none, Bool.false_eq_true, if_false,
        isTarget_extended (hasTail_takeUserInfo hwhole) hlength]
      split
      · exact .error (.wrongScheme (halike hwhole).toString)
      · split
        · exact .error (.wrongScheme hsent.toString)
        · split
          · exact .error (.wrongTarget hsent.toString)
          · exact .ok ⟨hsent, rfl⟩

/-- The peer sees requests that differ in the signature of their address alone. -/
structure Sight.Alike (sight other : Sight) : Prop where
  address : AlikeTexts sight.address other.address
  rest : other = { sight with address := other.address }

/-- The lines differ in the signatures that their peers have seen alone. -/
structure Line.Alike {ε : Type} (line other : Line ε) : Prop where
  reachable : line.reachable = other.reachable
  answersSecure : line.answersSecure = other.answersSecure
  turns : line.turns = other.turns
  jar : line.jar = other.jar
  seen : List.Forall₂ Sight.Alike line.seen other.seen

namespace Line

variable {ε : Type} {line other : Line ε}

theorem alike_sight {manner : Manner} (hkeeps : manner.keepsCookies = false)
    {parcel second : Parcel} (h : parcel.Alike second) :
    (line.sight manner parcel).Alike (other.sight manner second) := by
  obtain ⟨-, hhost, hport⟩ := h.address.same_place
  refine ⟨h.address.withoutFragment, ?_⟩
  rw [h.rest]
  simp only [sight, hkeeps, hhost, hport]
  rfl

/-- The attempt to open a tunnel shows no signature. -/
theorem tunnelSight_eq {parcel second : Parcel} (h : parcel.Alike second) :
    tunnelSight second = tunnelSight parcel := by
  obtain ⟨-, hhost, hport⟩ := h.address.same_place
  simp only [tunnelSight, hhost, hport]

/-- An exchange takes its course whatever the signature is. -/
theorem inStep_exchange (hline : line.Alike other) {a b : Address} (h : a.Alike b)
    {manner : Manner} (hkeeps : manner.keepsCookies = false) (method : String) :
    let first := line.exchange manner ⟨method, a.toString, none, none⟩
    let second := other.exchange manner ⟨method, b.toString, none, none⟩
    first.1.Alike second.1 ∧ InStep ExchangeFault.Alike (· = ·) first.2.2 second.2.2 := by
  obtain ⟨fault, fault', hone, htwo, hfault⟩ | ⟨parcel, parcel', hone, htwo, hparcel⟩ :=
    (Order.inStep_prepare h method).cases
  · rw [exchange_of_error manner hone, exchange_of_error manner htwo]
    exact ⟨hline, .error hfault⟩
  · obtain ⟨reachable, answersSecure, turns, jar, seen⟩ := line
    obtain ⟨reachable', answersSecure', turns', jar', seen'⟩ := other
    obtain ⟨rfl, rfl, rfl, rfl, hseen⟩ := hline
    have haddress := hparcel.address.toString
    have hmethod : parcel'.method = parcel.method := by rw [hparcel.rest]
    unfold exchange
    simp only [hone, htwo, tunnels, hparcel.address.same_place.1, tunnelSight_eq hparcel, hmethod,
      hkeeps, Bool.false_eq_true, if_false]
    split
    · exact ⟨⟨rfl, rfl, rfl, rfl, hseen⟩, .error (.notSent haddress _)⟩
    · split
      · exact ⟨⟨rfl, rfl, rfl, rfl, .cons ⟨.refl _, rfl⟩ hseen⟩, .error (.notSent haddress _)⟩
      · cases (turns.head?.getD exhausted).answer with
        | reply reply =>
            exact ⟨⟨rfl, rfl, rfl, rfl, .cons (alike_sight hkeeps hparcel) hseen⟩, .ok rfl⟩
        | drop =>
            exact ⟨⟨rfl, rfl, rfl, rfl, .cons (alike_sight hkeeps hparcel) hseen⟩,
              .error (.notSent haddress _)⟩
        | silence =>
            exact ⟨⟨rfl, rfl, rfl, rfl, .cons (alike_sight hkeeps hparcel) hseen⟩,
              .error (.timedOut haddress)⟩

end Line

/-! ### The storage with another key -/

/-- The storage faults are of one kind and have texts that differ in one signature at
most. -/
structure StorageFault.Alike (fault other : StorageFault) : Prop where
  kind : fault.kind = other.kind
  detail : fault.detail = other.detail
  causes : List.Forall₂ AlikeTexts fault.causes other.causes

theorem StorageFault.Alike.refl (fault : StorageFault) : fault.Alike fault :=
  ⟨rfl, rfl, List.forall₂_same.2 fun text _ => .refl text⟩

theorem StorageFault.Alike.message_eq {fault other : StorageFault} (h : fault.Alike other) :
    fault.message = other.message := by
  rw [message, message, h.kind, h.detail]

theorem StorageFault.alike_ofExchange {fault other : ExchangeFault} (h : fault.Alike other) :
    (ofExchange fault).Alike (ofExchange other) where
  kind := rfl
  detail := rfl
  causes := .cons h.message (h.causes ▸ List.forall₂_same.2 fun text _ => .refl text)

namespace Storage

/-- The storage with another secret key. -/
def withSecret (storage : Storage) (secret : String) : Storage :=
  { storage with credentials := ⟨storage.credentials.accessKey, secret⟩ }

variable {ε : Type} (storage : Storage) (one two : String) {line other : Line ε}

theorem inStep_sign (order : SigningOrder) :
    InStep StorageFault.Alike Address.Alike ((storage.withSecret one).sign order)
      ((storage.withSecret two).sign order) := by
  unfold sign
  obtain ⟨fault, fault', hone, htwo, hfault⟩ | ⟨a, b, hone, htwo, haddress⟩ :=
    (order.inStep_sign storage.credentials.accessKey one two storage.endpoint).cases
  · simp only [withSecret, hone, htwo, hfault]
    exact .error (.refl _)
  · simp only [withSecret, hone, htwo]
    exact .ok haddress

theorem inStep_headOutcome (bucket : String) {outcome outcome' : Except ExchangeFault Reply}
    (h : InStep ExchangeFault.Alike (· = ·) outcome outcome') :
    InStep StorageFault.Alike (· = ·) (headOutcome bucket outcome)
      (headOutcome bucket outcome') := by
  cases h with
  | error hfault => exact .error (StorageFault.alike_ofExchange hfault)
  | ok hreply =>
      subst hreply
      exact .same StorageFault.Alike.refl (fun _ => rfl) _

theorem inStep_checkBucket (hline : line.Alike other) (bucket : String) (now : Instant) :
    let first := (storage.withSecret one).checkBucket line bucket now
    let second := (storage.withSecret two).checkBucket other bucket now
    first.1.Alike second.1 ∧ InStep StorageFault.Alike (· = ·) first.2 second.2 := by
  obtain ⟨fault, fault', hone, htwo, hfault⟩ | ⟨a, b, hone, htwo, haddress⟩ :=
    (storage.inStep_sign one two (storage.headOrder bucket now)).cases
  · have hunsigned : ∀ {secret fault} {line : Line ε},
        (storage.withSecret secret).sign (storage.headOrder bucket now) = .error fault →
        (storage.withSecret secret).checkBucket line bucket now = (line, .error fault) :=
      fun hsign => by rw [checkBucket]; exact hsign ▸ rfl
    rw [hunsigned hone, hunsigned htwo]
    exact ⟨hline, .error hfault⟩
  · have hkeeps : manner.keepsCookies = false := rfl
    have hboth := Line.inStep_exchange hline haddress hkeeps "HEAD"
    rcases hfirst : line.exchange manner ⟨"HEAD", a.toString, none, none⟩ with
      ⟨after, meanwhile, outcome⟩
    rcases hsecond : other.exchange manner ⟨"HEAD", b.toString, none, none⟩ with
      ⟨after', meanwhile', outcome'⟩
    rw [hfirst, hsecond] at hboth
    rw [checkBucket_of_exchange hone hfirst, checkBucket_of_exchange htwo hsecond]
    exact ⟨hboth.1, inStep_headOutcome bucket hboth.2⟩

theorem inStep_authorize (hline : line.Alike other) (request : UploadRequest) (now : Instant) :
    let first := (storage.withSecret one).authorize line request now
    let second := (storage.withSecret two).authorize other request now
    first.1.Alike second.1 ∧ InStep StorageFault.Alike Address.Alike first.2 second.2 := by
  obtain ⟨_, _, _, _, hfirst, hsecond, hafter, hfault⟩ | ⟨_, _, _, _, hfirst, hsecond, hafter, -⟩ :=
    InStep.cases_pair (storage.inStep_checkBucket one two hline request.bucket now)
  · simp only [authorize, hfirst, hsecond]
    exact ⟨hafter, .error hfault⟩
  · simp only [authorize, hfirst, hsecond]
    exact ⟨hafter, storage.inStep_sign one two (storage.uploadOrder request now)⟩

end Storage

/-! ### Grants and answers with another key -/

theorem Line.Alike.refl {ε : Type} (line : Line ε) : line.Alike line :=
  ⟨rfl, rfl, rfl, rfl, List.forall₂_same.2 fun _ _ => ⟨.refl _, rfl⟩⟩

/-- The control plane with another secret key, where it signs. -/
def ControlPlane.withSecret (plane : ControlPlane) (secret : String) : ControlPlane :=
  match plane with
  | .signing storage => .signing (storage.withSecret secret)
  | .granting address => .granting address
  | .failing kind detail => .failing kind detail

section

variable {ε : Type} (plane : ControlPlane) (one two : String) {line other : Line ε}
  (hline : line.Alike other)

include hline

theorem ControlPlane.inStep_authorize (request : UploadRequest) (now : Instant) :
    let first := (plane.withSecret one).authorize line request now
    let second := (plane.withSecret two).authorize other request now
    first.1.Alike second.1 ∧
      InStep StorageFault.Alike (fun a b => AlikeTexts a.toString b.toString)
        first.2 second.2 := by
  cases plane with
  | signing storage =>
      obtain ⟨_, _, _, _, hfirst, hsecond, hafter, hfault⟩ |
          ⟨_, _, _, _, hfirst, hsecond, hafter, haddress⟩ :=
        InStep.cases_pair (storage.inStep_authorize one two hline request now)
      · simp only [withSecret, authorize, hfirst, hsecond]
        exact ⟨hafter, .error hfault⟩
      · simp only [withSecret, authorize, hfirst, hsecond]
        exact ⟨hafter, .ok haddress.toString⟩
  | granting address => exact ⟨hline, .ok (.refl _)⟩
  | failing kind detail => exact ⟨hline, .error (.refl _)⟩

theorem ControlPlane.inStep_probe (bucket : String) (now : Instant) :
    let first := (plane.withSecret one).probe line bucket now
    let second := (plane.withSecret two).probe other bucket now
    first.1.Alike second.1 ∧ InStep StorageFault.Alike (· = ·) first.2 second.2 := by
  cases plane with
  | signing storage => exact storage.inStep_checkBucket one two hline bucket now
  | granting address => exact ⟨hline, .ok rfl⟩
  | failing kind detail => exact ⟨hline, .error (.refl _)⟩

end

/-- The grants differ in the signature of their address alone. -/
structure Grant.Alike (grant other : Grant) : Prop where
  address : AlikeTexts grant.address.toString other.address.toString
  request : grant.request = other.request
  issuedAt : grant.issuedAt = other.issuedAt

/-- The faults have texts that differ in one signature at most, and are of one kind. -/
inductive GrantFault.Alike : GrantFault → GrantFault → Prop
  | policy (fault : PolicyFault) : GrantFault.Alike (.policy fault) (.policy fault)
  | storage {fault other : StorageFault} (h : fault.Alike other) :
      GrantFault.Alike (.storage fault) (.storage other)

/-- The granter with another secret key. -/
def Granter.withSecret (granter : Granter) (secret : String) : Granter :=
  { granter with plane := granter.plane.withSecret secret }

theorem Granter.inStep_grant {ε : Type} (granter : Granter) (one two : String)
    {line other : Line ε} (hline : line.Alike other) (request : UploadRequest) (now : Instant) :
    let first := (granter.withSecret one).grant line request now
    let second := (granter.withSecret two).grant other request now
    first.1.Alike second.1 ∧ InStep GrantFault.Alike Grant.Alike first.2 second.2 := by
  simp only [grant, withSecret]
  cases granter.policy.check request with
  | error fault => exact ⟨hline, .error (.policy fault)⟩
  | ok _ =>
      obtain ⟨_, _, _, _, hfirst, hsecond, hafter, hfault⟩ |
          ⟨_, _, _, _, hfirst, hsecond, hafter, haddress⟩ :=
        InStep.cases_pair (granter.plane.inStep_authorize one two hline request now)
      · simp only [hfirst, hsecond]
        exact ⟨hafter, .error (.storage hfault)⟩
      · simp only [hfirst, hsecond]
        exact ⟨hafter, .ok ⟨haddress, rfl, rfl⟩⟩

/-- The answers differ in the signature in their body alone. -/
structure ServiceAnswer.Alike (answer other : ServiceAnswer) : Prop where
  body : addressSignatureBytes.Alike answer.body other.body
  rest : other = { answer with body := other.body }

theorem ServiceAnswer.Alike.refl (answer : ServiceAnswer) : answer.Alike answer :=
  ⟨Marking.Alike.refl _ _, rfl⟩

theorem ServiceError.ofGrantFault_eq {fault other : GrantFault} (h : fault.Alike other) :
    ServiceError.ofGrantFault fault = ServiceError.ofGrantFault other := by
  cases h with
  | policy fault => rfl
  | storage h => simp only [ofGrantFault, StorageFault.isRetryable, h.kind]

/-- A record that begins with a text holds this text as a whole. -/
theorem alike_object {s t : String} (h : AlikeTexts s t) (name : String)
    (next : String × Value) (rest : List (String × Value)) :
    addressSignature.Alike (Value.object ((name, .text s) :: next :: rest)).written
      (Value.object ((name, .text t) :: next :: rest)).written := by
  have hwritten : ∀ text, (Value.object ((name, .text text) :: next :: rest)).written =
      ('\x7b' :: textWritten name ++ [':']) ++
        (textWritten text ++ (',' :: membersWritten (next :: rest) ++ ['\x7d'])) := by
    intro text
    simp [Value.written, membersWritten]
  rw [hwritten, hwritten]
  exact ((alike_textWritten h).append_right _).append_left _

theorem Grant.Alike.answer {grant other : Grant} (h : grant.Alike other) :
    (ServiceAnswer.json 200 grant.toValue).Alike (.json 200 other.toValue) := by
  obtain ⟨address, request, issuedAt⟩ := grant
  obtain ⟨address', request', issuedAt'⟩ := other
  obtain ⟨haddress, rfl, rfl⟩ := h
  exact ⟨alike_encode (alike_object haddress "url" _ _), rfl⟩

namespace Service

/-- The service with another secret key. -/
def withSecret (service : Service) (secret : String) : Service :=
  { service with granter := service.granter.withSecret secret }

variable {ε : Type} (service : Service) (one two : String) {line other : Line ε}
  (hline : line.Alike other)

include hline

theorem alike_ready (now : Instant) :
    let first := (service.withSecret one).ready line now
    let second := (service.withSecret two).ready other now
    first.1.Alike second.1 ∧ first.2 = second.2 := by
  obtain ⟨_, _, _, _, hfirst, hsecond, hafter, hfault⟩ | ⟨_, _, _, _, hfirst, hsecond, hafter, -⟩ :=
    InStep.cases_pair
      (service.granter.plane.inStep_probe one two hline service.defaults.bucket now)
  · simp only [ready, withSecret, Granter.withSecret, hfirst, hsecond]
    refine ⟨hafter, ?_⟩
    simp only [readyValue, Option.map_some, hfault.message_eq, Option.isNone_some]
  · simp only [ready, withSecret, Granter.withSecret, hfirst, hsecond]
    exact ⟨hafter, trivial⟩

theorem alike_create (body : GrantBody) (random : RandomBytes) (now : Instant) :
    let first := (service.withSecret one).create line body random now
    let second := (service.withSecret two).create other body random now
    first.1.Alike second.1 ∧ first.2.Alike second.2 := by
  have hrequest : ∀ secret, (service.withSecret secret).requestOf body random =
      service.requestOf body random := fun _ => rfl
  simp only [create, hrequest]
  cases service.requestOf body random with
  | error fault => exact ⟨hline, .refl _⟩
  | ok request =>
      obtain ⟨_, _, _, _, hfirst, hsecond, hafter, hfault⟩ |
          ⟨_, _, _, _, hfirst, hsecond, hafter, hgrant⟩ :=
        InStep.cases_pair (service.granter.inStep_grant one two hline request now)
      · simp only [withSecret, hfirst, hsecond, ServiceError.ofGrantFault_eq hfault]
        exact ⟨hafter, .refl _⟩
      · simp only [withSecret, hfirst, hsecond]
        exact ⟨hafter, hgrant.answer⟩

theorem alike_answer (request : ServiceRequest) (random : RandomBytes) (now : Instant) :
    let first := (service.withSecret one).answer line request random now
    let second := (service.withSecret two).answer other request random now
    first.1.Alike second.1 ∧ first.2.Alike second.2 := by
  obtain ⟨hafter, hready⟩ := service.alike_ready one two hline now
  simp only [answer]
  cases route? request.target with
  | none => exact ⟨hline, .refl _⟩
  | some route =>
      cases route with
      | grant =>
          simp only
          split
          · split
            · exact ⟨hline, .refl _⟩
            · exact service.alike_create one two hline _ random now
          · exact ⟨hline, .refl _⟩
      | health =>
          simp only
          split
          · exact ⟨hline, .refl _⟩
          · split <;> exact ⟨hline, .refl _⟩
      | ready =>
          simp only
          split
          · exact ⟨hafter, hready ▸ .refl _⟩
          · split
            · exact ⟨hafter, hready ▸ .refl _⟩
            · exact ⟨hline, .refl _⟩

end Service

/-! ### What is blanked -/

/-- A request that a peer sees, with the signatures in its address blanked. -/
def Sight.blanked (sight : Sight) : Sight :=
  { sight with address := blankSignatures sight.address }

/-- A line with the signatures blanked that its peers have seen. -/
def Line.blanked {ε : Type} (line : Line ε) : Line ε :=
  { line with seen := line.seen.map Sight.blanked }

/-- What is asked of the upload side. -/
inductive UploadCall
  | grant (request : UploadRequest) (now : Instant)
  | authorize (request : UploadRequest) (now : Instant)
  | probe (bucket : String) (now : Instant)
  | serve (request : ServiceRequest) (random : RandomBytes) (now : Instant)

/-- What a call ends with. -/
inductive UploadResult
  | granted (outcome : Except GrantFault Grant)
  | authorized (outcome : Except StorageFault Address)
  | probed (outcome : Except StorageFault Unit)
  | served (answer : ServiceAnswer)

/-- What a caller sees of a result. -/
inductive ShownResult
  | grant (address : String) (request : UploadRequest) (issuedAt : Instant)
  | address (address : String)
  | found
  | rejected (fault : PolicyFault)
  | failed (kind : StorageFailure) (message : String) (causes : List String)
  | answer (answer : ServiceAnswer)

namespace UploadResult

/-- What a caller sees of a result, with all signatures in its texts blanked. -/
def blanked : UploadResult → ShownResult
  | .granted (.ok grant) =>
      .grant (blankSignatures grant.address.toString) grant.request grant.issuedAt
  | .granted (.error (.policy fault)) => .rejected fault
  | .granted (.error (.storage fault)) =>
      .failed fault.kind (blankSignatures (GrantFault.storage fault).message)
        ((GrantFault.storage fault).causes.map blankSignatures)
  | .authorized (.ok address) => .address (blankSignatures address.toString)
  | .authorized (.error fault) =>
      .failed fault.kind (blankSignatures fault.message) (fault.causes.map blankSignatures)
  | .probed (.ok ()) => .found
  | .probed (.error fault) =>
      .failed fault.kind (blankSignatures fault.message) (fault.causes.map blankSignatures)
  | .served answer => .answer { answer with body := addressSignatureBytes.blank answer.body }

end UploadResult

theorem Sight.Alike.blanked_eq {sight other : Sight} (h : sight.Alike other) :
    sight.blanked = other.blanked := by
  rw [blanked, blanked, h.rest, h.address.blank_eq]

/-- Rows that are related member by member are the same after a map that forgets what is
not related. -/
theorem map_eq_of_forall₂ {α β : Type} {related : α → α → Prop} {f : α → β}
    (hf : ∀ a b, related a b → f a = f b) {as bs : List α} (h : List.Forall₂ related as bs) :
    as.map f = bs.map f := by
  induction h with
  | nil => rfl
  | cons hfirst _ ih => rw [List.map_cons, List.map_cons, hf _ _ hfirst, ih]

theorem Line.Alike.blanked_eq {ε : Type} {line other : Line ε} (h : line.Alike other) :
    line.blanked = other.blanked := by
  have hseen := map_eq_of_forall₂ (fun _ _ hsight => Sight.Alike.blanked_eq hsight) h.seen
  rw [blanked, blanked, hseen, h.reachable, h.answersSecure, h.turns, h.jar]

theorem StorageFault.Alike.causes_blank_eq {fault other : StorageFault} (h : fault.Alike other) :
    fault.causes.map blankSignatures = other.causes.map blankSignatures :=
  map_eq_of_forall₂ (fun _ _ htext => AlikeTexts.blank_eq htext) h.causes

namespace UploadResult

theorem blanked_granted_eq {outcome other : Except GrantFault Grant}
    (h : InStep GrantFault.Alike Grant.Alike outcome other) :
    (granted outcome).blanked = (granted other).blanked := by
  cases h with
  | ok hgrant => simp only [blanked, hgrant.address.blank_eq, hgrant.request, hgrant.issuedAt]
  | error hfault =>
      cases hfault with
      | policy fault => rfl
      | @storage fault other hfault =>
          have hmessage : (GrantFault.storage fault).message = (GrantFault.storage other).message :=
            congrArg ("storage authorization failed: " ++ ·) hfault.message_eq
          have hcauses : (GrantFault.storage fault).causes.map blankSignatures =
              (GrantFault.storage other).causes.map blankSignatures :=
            congrArg₂ (fun text => List.cons (blankSignatures text)) hfault.message_eq
              hfault.causes_blank_eq
          rw [blanked, blanked, hfault.kind, hmessage, hcauses]

theorem blanked_authorized_eq {outcome other : Except StorageFault Address}
    (h : InStep StorageFault.Alike (fun a b => AlikeTexts a.toString b.toString) outcome other) :
    (authorized outcome).blanked = (authorized other).blanked := by
  cases h with
  | ok haddress => simp only [blanked, haddress.blank_eq]
  | error hfault =>
      simp only [blanked, hfault.kind, hfault.message_eq, hfault.causes_blank_eq]

theorem blanked_probed_eq {outcome other : Except StorageFault Unit}
    (h : InStep StorageFault.Alike (· = ·) outcome other) :
    (probed outcome).blanked = (probed other).blanked := by
  cases h with
  | ok hfound => rfl
  | error hfault =>
      simp only [blanked, hfault.kind, hfault.message_eq, hfault.causes_blank_eq]

theorem blanked_served_eq {answer other : ServiceAnswer} (h : answer.Alike other) :
    (served answer).blanked = (served other).blanked := by
  rw [blanked, blanked, h.rest, h.body.blank_eq]

end UploadResult

/-! ### Runs -/

namespace Service

variable {ε : Type} (service : Service)

/-- Make a call. -/
def call (line : Line ε) : UploadCall → Line ε × UploadResult
  | .grant request now => (service.granter.grant line request now).map id .granted
  | .authorize request now => (service.granter.plane.authorize line request now).map id .authorized
  | .probe bucket now => (service.granter.plane.probe line bucket now).map id .probed
  | .serve request random now => (service.answer line request random now).map id .served

/-- Make calls in a row. -/
def calls (line : Line ε) : List UploadCall → Line ε × List UploadResult
  | [] => (line, [])
  | call :: rest =>
      let (line, result) := service.call line call
      let (line, results) := calls line rest
      (line, result :: results)

/-- One call goes the same way with every secret key. -/
theorem alike_call (one two : String) {line other : Line ε} (hline : line.Alike other)
    (call : UploadCall) :
    let first := (service.withSecret one).call line call
    let second := (service.withSecret two).call other call
    first.1.Alike second.1 ∧ first.2.blanked = second.2.blanked := by
  have hgranter : ∀ secret,
      (service.withSecret secret).granter = service.granter.withSecret secret := fun _ => rfl
  have hplane : ∀ secret,
      (service.granter.withSecret secret).plane = service.granter.plane.withSecret secret :=
    fun _ => rfl
  cases call <;> simp only [Service.call, hgranter, hplane, Prod.map_fst, Prod.map_snd, id_eq]
  case grant request now =>
      obtain ⟨hafter, houtcome⟩ := service.granter.inStep_grant one two hline request now
      exact ⟨hafter, UploadResult.blanked_granted_eq houtcome⟩
  case authorize request now =>
      obtain ⟨hafter, houtcome⟩ := service.granter.plane.inStep_authorize one two hline request now
      exact ⟨hafter, UploadResult.blanked_authorized_eq houtcome⟩
  case probe bucket now =>
      obtain ⟨hafter, houtcome⟩ := service.granter.plane.inStep_probe one two hline bucket now
      exact ⟨hafter, UploadResult.blanked_probed_eq houtcome⟩
  case serve request random now =>
      obtain ⟨hafter, hanswer⟩ := service.alike_answer one two hline request random now
      exact ⟨hafter, UploadResult.blanked_served_eq hanswer⟩

theorem alike_calls (one two : String) {line other : Line ε} (hline : line.Alike other)
    (calls : List UploadCall) :
    let first := (service.withSecret one).calls line calls
    let second := (service.withSecret two).calls other calls
    first.1.Alike second.1 ∧
      first.2.map UploadResult.blanked = second.2.map UploadResult.blanked := by
  induction calls generalizing line other with
  | nil => exact ⟨hline, rfl⟩
  | cons call rest ih =>
      obtain ⟨hafter, hresult⟩ := service.alike_call one two hline call
      obtain ⟨hend, hresults⟩ := ih hafter
      refine ⟨hend, ?_⟩
      simp only [Service.calls, List.map_cons, hresult, hresults]

end Service

/-- Two runs of the upload side that differ in the secret key alone show the same, once the
signatures are blanked: what the peers have seen and what is left of their turns, and what
the caller of each grant, of each probe and of each request to the service gets, faults with
all their causes and bodies of answers included. The storage, the policy, the defaults and
the peers are any, and so are the calls, each at a time of its own. -/
theorem secret_shows_in_signatures_only {ε : Type} (service : Service) (one two : String)
    (line : Line ε) (calls : List UploadCall) :
    let first := (service.withSecret one).calls line calls
    let second := (service.withSecret two).calls line calls
    first.1.blanked = second.1.blanked ∧
      first.2.map UploadResult.blanked = second.2.map UploadResult.blanked := by
  obtain ⟨hend, hresults⟩ := service.alike_calls one two (.refl line) calls
  exact ⟨hend.blanked_eq, hresults⟩

end SignedAccess
