/-
# The course of a signed call

A signed call sends its request, perhaps one request for a new token, and perhaps its
request once more. Which of these it sends and what it returns hangs on the outcomes
alone, and on what others do to the session meanwhile. The exchanges of a call are read
off its journal and the line; each way in which they can go is one case of a `Course`,
and everything about the shape of a call follows from these cases.
-/

import Mathlib.Data.List.Forall2
import SignedAccess.Proofs.Backend.RefreshMoment
import SignedAccess.Proofs.Exchange.Sending

namespace SignedAccess

open Text

/-! ### Exchanges in a row -/

/-- An exchange as it went: what was sent, what others did meanwhile, and the outcome. -/
structure Exchanged (ε : Type) where
  order : Order
  meanwhile : List ε
  outcome : Except ExchangeFault Reply

/-- A peer has seen what an order asks for. -/
structure Sight.Shows (sight : Sight) (order : Order) (parcel : Parcel) : Prop where
  prepared : order.prepare = .ok parcel
  method : sight.method = parcel.method
  address : sight.address = String.ofList parcel.address.writtenWithoutFragment
  authorizations : sight.authorizations = parcel.authorizations.map Line.shown
  contentType : sight.contentType = parcel.contentType
  body : sight.body = parcel.body

namespace Line

variable {ε : Type}

/-- The line after orders that were sent in a row. -/
def after (line : Line ε) (manner : Manner) (orders : List Order) : Line ε :=
  orders.foldl (fun line order => (line.exchange manner order).1) line

/-- The exchange of an order. -/
def exchanged (line : Line ε) (manner : Manner) (order : Order) : Exchanged ε :=
  ⟨order, (line.exchange manner order).2.1, (line.exchange manner order).2.2⟩

/-- The exchanges of orders that are sent in a row. -/
def exchanges (line : Line ε) (manner : Manner) : List Order → List (Exchanged ε)
  | [] => []
  | order :: orders =>
      line.exchanged manner order :: (line.exchange manner order).1.exchanges manner orders

theorem after_append (line : Line ε) (manner : Manner) (orders more : List Order) :
    line.after manner (orders ++ more) = (line.after manner orders).after manner more :=
  List.foldl_append

theorem exchanges_append (line : Line ε) (manner : Manner) (orders more : List Order) :
    line.exchanges manner (orders ++ more) =
      line.exchanges manner orders ++ (line.after manner orders).exchanges manner more := by
  induction orders generalizing line with
  | nil => rfl
  | cons order orders ih => exact congrArg _ (ih _)

/-- Requests that can be sent are seen one after another, each as it was asked for. -/
theorem seen_after {line : Line ε} {manner : Manner} {orders : List Order}
    (hreachable : line.reachable = true)
    (hsendable : ∀ order ∈ orders, ∃ parcel, order.prepare = .ok parcel ∧
      (parcel.address.scheme = "http" ∨ line.answersSecure = true)) :
    ∃ sights, (line.after manner orders).seen = sights.reverse ++ line.seen ∧
      List.Forall₂ (fun sight order => ∃ parcel, Sight.Shows sight order parcel) sights orders := by
  induction orders generalizing line with
  | nil => exact ⟨[], rfl, .nil⟩
  | cons order orders ih =>
      obtain ⟨parcel, hprepare, hscheme⟩ := hsendable order List.mem_cons_self
      have hopen : line.tunnels parcel = false := by
        rw [tunnels_eq_false_iff]
        refine hscheme.imp_left fun hplain => ?_
        rw [hplain]
        decide
      have hseen := seen_exchange manner hprepare hreachable hopen
      obtain ⟨hkeeps, hsecure⟩ := line.keeps_exchange manner order
      obtain ⟨sights, hrest, hshows⟩ := ih (hkeeps.trans hreachable) fun later hlater =>
        hsecure ▸ hsendable later (List.mem_cons_of_mem _ hlater)
      refine ⟨line.sight manner parcel :: sights, ?_, .cons ⟨parcel, ?_⟩ hshows⟩
      · calc (line.after manner (order :: orders)).seen
            = sights.reverse ++ (line.exchange manner order).1.seen := hrest
          _ = (line.sight manner parcel :: sights).reverse ++ line.seen := by
              rw [hseen, List.reverse_cons, List.append_assoc, List.singleton_append]
      · exact ⟨hprepare, rfl, rfl, rfl, rfl, rfl⟩

end Line

/-! ### The ways of a call -/

/-- What the answer to a refresh brings, if it can be read. -/
def Exchanged.payload {ε : Type} (refresh : Exchanged ε) : Except BackendFault RefreshPayload :=
  readOutcome RefreshPayload.record.readAll refresh.outcome

/-- The answer blames the request. -/
def isRejected : Except ExchangeFault Reply → Bool
  | .ok reply => blamesRequest reply.status
  | .error _ => false

/-- A fault that was read off an answer is a rejection exactly when the answer blames the
request. -/
theorem isRejection_of_readOutcome {α : Type} {reader : List UInt8 → Except Json.Fault α}
    {outcome : Except ExchangeFault Reply} {fault : BackendFault}
    (hfault : readOutcome reader outcome = .error fault) :
    fault.isRejection = isRejected outcome := by
  cases outcome with
  | error failure =>
      cases hfault
      rfl
  | ok reply =>
      simp only [readOutcome] at hfault
      split at hfault
      · rename_i hsuccess
        have hblameless : blamesRequest reply.status = false := by
          simp only [isSuccess, Bool.and_eq_true, decide_eq_true_eq] at hsuccess
          have hlow : ¬400 ≤ reply.status := by omega
          simp [blamesRequest, hlow]
        split at hfault
        · cases hfault
        · cases hfault
          exact hblameless.symm
      · cases hfault
        simp only [isRejected, BackendFault.ofStatus]
        split
        · rename_i hunauthorized
          rw [hunauthorized]
          rfl
        · rfl

namespace BackendClient

section Course

variable {α : Type} (client : BackendClient) (store : Store) (request : SignedRequest)
  (reader : List UInt8 → Except Json.Fault α)

/-- The session took the token of a payload that a refresh under the ticket of the login
at the start brought. -/
def Applies (sent refresh : Exchanged SessionEvent) (payload : RefreshPayload) : Prop :=
  refresh.payload = .ok payload ∧
    ((store.run (sent.meanwhile ++ refresh.meanwhile)).completeRefresh ⟨store.generation⟩
      payload.token).2 = true

/-- A signed request was refused although someone was signed in, and a refresh with the
token of that moment followed. -/
structure Refreshes (sent refresh : Exchanged SessionEvent) : Prop where
  sentOrder : sent.order = client.signedOrder request store.session.token
  refused : isRefused sent.outcome = true
  authenticated : store.session.authenticated = true
  refreshOrder : refresh.order =
    client.refreshOrder (store.run sent.meanwhile).session.token

/-- The ways in which a call can go on after a refresh, by the exchanges that follow and
the result. -/
inductive Renewal (sent refresh : Exchanged SessionEvent) :
    List (Exchanged SessionEvent) → Except BackendFault α → Prop
  | rejected {fault} (hfault : refresh.payload = .error fault)
      (hrejected : isRejected refresh.outcome = true) :
      Renewal sent refresh [] (.error .unauthorized)
  | failed {fault} (hfault : refresh.payload = .error fault)
      (hrejected : isRejected refresh.outcome = false) :
      Renewal sent refresh [] (.error fault)
  | overtaken {payload} (hpayload : refresh.payload = .ok payload)
      (hstale : ¬Applies store sent refresh payload) :
      Renewal sent refresh [] (.error .unauthorized)
  | retried {again payload} (happlies : Applies store sent refresh payload)
      (hagain : again.order = client.signedOrder request (some payload.token)) :
      Renewal sent refresh [again]
        (if isRefused again.outcome then .error .unauthorized else readOutcome reader again.outcome)

/-- The ways in which a signed call can go, by its exchanges and its result. -/
inductive Course : List (Exchanged SessionEvent) → Except BackendFault α → Prop
  | answered {sent} (hsent : sent.order = client.signedOrder request store.session.token)
      (haccepted : isRefused sent.outcome = false) :
      Course [sent] (readOutcome reader sent.outcome)
  | signedOut {sent} (hsent : sent.order = client.signedOrder request store.session.token)
      (hrefused : isRefused sent.outcome = true) (hout : store.session.authenticated = false) :
      Course [sent] (.error .unauthorized)
  | renewed {sent refresh rest result} (hrefreshes : Refreshes client store request sent refresh)
      (hrenewal : Renewal client store request reader sent refresh rest result) :
      Course (sent :: refresh :: rest) result

/-- What a signed call does after its request was refused, under the ticket that was
issued before. -/
def renew (stage : Stage Store SessionEvent) (talk : Talk Store SessionEvent) (ticket : Ticket) :
    Talk Store SessionEvent × Except BackendFault α :=
  match client.refreshFor stage talk ticket with
  | (talk, .ok true) => client.retry stage talk request reader ticket
  | (talk, .ok false) => (talk, .error .unauthorized)
  | (talk, .error fault) =>
      if fault.isRejection then (signOut stage talk ticket, .error .unauthorized)
      else (talk, .error fault)

/-- A talk ended after orders that were sent in a row. -/
structure EndsAfter (start ending : Talk Store SessionEvent) (orders : List Order) : Prop where
  orders_eq : ending.journal.reverse.map (·.2) = start.journal.reverse.map (·.2) ++ orders
  line_eq : ending.line = start.line.after manner orders

/-- An exchange where a session is kept by itself. -/
theorem send_alone (talk : Talk Store SessionEvent) (order : Order) :
    send .alone talk order =
      (⟨talk.session.run (talk.line.exchanged manner order).meanwhile,
        (talk.line.exchange manner order).1, (talk.session, order) :: talk.journal⟩,
        (talk.line.exchanged manner order).outcome) := by
  unfold send Line.exchanged
  rcases talk.line.exchange manner order with ⟨line, doings, outcome⟩
  rfl

theorem endsAfter_self (talk : Talk Store SessionEvent) : EndsAfter talk talk [] where
  orders_eq := by simp
  line_eq := rfl

theorem endsAfter_send (talk : Talk Store SessionEvent) (order : Order) :
    EndsAfter talk (send .alone talk order).1 [order] where
  orders_eq := by simp [send_alone]
  line_eq := by rw [send_alone]; rfl

theorem EndsAfter.trans {start middle ending : Talk Store SessionEvent} {orders more : List Order}
    (hfirst : EndsAfter start middle orders) (hsecond : EndsAfter middle ending more) :
    EndsAfter start ending (orders ++ more) where
  orders_eq := by rw [hsecond.orders_eq, hfirst.orders_eq, List.append_assoc]
  line_eq := by rw [hsecond.line_eq, hfirst.line_eq, Line.after_append]

/-- Changes of the session exchange nothing. -/
theorem EndsAfter.of_session {start ending : Talk Store SessionEvent} {orders : List Order}
    (hends : EndsAfter start ending orders) (changed : Store) :
    EndsAfter start { ending with session := changed } orders :=
  ⟨hends.orders_eq, hends.line_eq⟩

theorem postRefresh_alone (talk : Talk Store SessionEvent) (token : Option AccessToken) :
    client.postRefresh .alone talk token =
      ((send .alone talk (client.refreshOrder token)).1,
        (talk.line.exchanged manner (client.refreshOrder token)).payload) := by
  unfold postRefresh Exchanged.payload refreshOrder
  rw [send_alone]

theorem refreshFor_of_fault {talk : Talk Store SessionEvent} {fault : BackendFault}
    (ticket : Ticket)
    (hfault : (talk.line.exchanged manner
      (client.refreshOrder talk.session.session.token)).payload = .error fault) :
    client.refreshFor .alone talk ticket =
      ((send .alone talk (client.refreshOrder talk.session.session.token)).1, .error fault) := by
  have htoken : Stage.alone.token talk.session = talk.session.session.token := rfl
  rw [refreshFor, postRefresh_alone, htoken, hfault]

/-- A payload is taken under the ticket, after what others did while it was fetched. -/
theorem refreshFor_of_payload {talk : Talk Store SessionEvent} {payload : RefreshPayload}
    (ticket : Ticket)
    (hpayload : (talk.line.exchanged manner
      (client.refreshOrder talk.session.session.token)).payload = .ok payload) :
    let posted := (send .alone talk (client.refreshOrder talk.session.session.token)).1
    let taken := posted.session.completeRefresh ticket payload.token
    client.refreshFor .alone talk ticket = ({ posted with session := taken.1 }, .ok taken.2) := by
  have htoken : Stage.alone.token talk.session = talk.session.session.token := rfl
  rw [refreshFor, postRefresh_alone, htoken, hpayload]
  simp only [Stage.alone]

theorem sendSigned_alone (talk : Talk Store SessionEvent) :
    let order := client.signedOrder request talk.session.session.token
    client.sendSigned .alone talk request =
      ((send .alone talk order).1, (talk.line.exchanged manner order).outcome) := by
  intro order
  have hsent : client.sendSigned .alone talk request = send .alone talk order := rfl
  rw [hsent, send_alone]

theorem retry_alone (talk : Talk Store SessionEvent) (ticket : Ticket) :
    let order := client.signedOrder request talk.session.session.token
    let again := talk.line.exchanged manner order
    client.retry .alone talk request reader ticket =
      if isRefused again.outcome then
        (signOut .alone (send .alone talk order).1 ticket, .error .unauthorized)
      else ((send .alone talk order).1, readOutcome reader again.outcome) := by
  intro order again
  rw [retry, sendSigned_alone]

section Renewal

variable {asked : Talk Store SessionEvent} {sent : Exchanged SessionEvent}

/-- A call whose refresh brings nothing ends there. -/
theorem renewal_of_fault {fault : BackendFault}
    (hfault : (asked.line.exchanged manner
      (client.refreshOrder asked.session.session.token)).payload = .error fault) :
    let order := client.refreshOrder asked.session.session.token
    let posted := (send .alone asked order).1
    let ending := client.renew request reader .alone asked ⟨store.generation⟩
    ∃ orders, EndsAfter posted ending.1 orders ∧ Renewal client store request reader sent
      (asked.line.exchanged manner order) (posted.line.exchanges manner orders) ending.2 := by
  intro order posted ending
  have hfor := client.refreshFor_of_fault ⟨store.generation⟩ hfault
  have hrejection := isRejection_of_readOutcome hfault
  have hending : ending = if isRejected (asked.line.exchanged manner order).outcome then
      (signOut .alone posted ⟨store.generation⟩, .error .unauthorized)
      else (posted, .error fault) := by
    unfold ending renew
    rw [hfor, ← hrejection]
  rw [hending]
  refine ⟨[], ?_⟩
  cases hrejected : isRejected (asked.line.exchanged manner order).outcome with
  | true => exact ⟨(endsAfter_self posted).of_session _, .rejected hfault hrejected⟩
  | false => exact ⟨endsAfter_self posted, .failed hfault hrejected⟩

/-- A call whose refresh brings a token ends there if the token is not taken, and
otherwise with its request and that token. -/
theorem renewal_of_payload (hsession : asked.session = store.run sent.meanwhile)
    {payload : RefreshPayload}
    (hpayload : (asked.line.exchanged manner
      (client.refreshOrder asked.session.session.token)).payload = .ok payload) :
    let order := client.refreshOrder asked.session.session.token
    let posted := (send .alone asked order).1
    let ending := client.renew request reader .alone asked ⟨store.generation⟩
    ∃ orders, EndsAfter posted ending.1 orders ∧ Renewal client store request reader sent
      (asked.line.exchanged manner order) (posted.line.exchanges manner orders) ending.2 := by
  intro order posted ending
  let refresh := asked.line.exchanged manner order
  have happlies : Applies store sent refresh payload ↔
      (posted.session.completeRefresh ⟨store.generation⟩ payload.token).2 = true := by
    rw [Applies, Store.run_append, ← hsession]
    simp only [posted, send_alone]
    exact and_iff_right hpayload
  rcases htaken : posted.session.completeRefresh ⟨store.generation⟩ payload.token with
    ⟨changed, taken⟩
  obtain ⟨renewed, hrenewed⟩ : ∃ talk : Talk Store SessionEvent,
    talk = { posted with session := changed } := ⟨_, rfl⟩
  have hends : EndsAfter posted renewed [] := hrenewed ▸ (endsAfter_self posted).of_session changed
  have hfor : client.refreshFor .alone asked ⟨store.generation⟩ = (renewed, .ok taken) := by
    have hboth := client.refreshFor_of_payload ⟨store.generation⟩ hpayload
    simp only at hboth
    rw [hboth, htaken, hrenewed]
  rw [htaken] at happlies
  cases taken with
  | false =>
      have hstale : ¬Applies store sent refresh payload :=
        fun happlied => absurd (happlies.1 happlied) Bool.false_ne_true
      have hending : ending = (renewed, .error .unauthorized) := by
        unfold ending renew
        rw [hfor]
      rw [hending]
      exact ⟨[], hends, .overtaken hpayload hstale⟩
  | true =>
      let retryOrder := client.signedOrder request (some payload.token)
      have htoken : renewed.session.session.token = some payload.token := by
        have hchanged : changed = posted.session.setToken payload.token :=
          (congrArg Prod.fst htaken).symm.trans
            (Store.completeRefresh_of_true (congrArg Prod.snd htaken))
        rw [hrenewed, hchanged]
        rfl
      have hretry := client.retry_alone request reader renewed ⟨store.generation⟩
      rw [htoken] at hretry
      have hagain : EndsAfter posted (send .alone renewed retryOrder).1 [retryOrder] :=
        hends.trans (endsAfter_send renewed retryOrder)
      have hexchanges : posted.line.exchanges manner [retryOrder] =
          [renewed.line.exchanged manner retryOrder] := by
        rw [hends.line_eq]
        rfl
      have hrenewal : Renewal client store request reader sent refresh
          [renewed.line.exchanged manner retryOrder] _ := .retried (happlies.2 rfl) rfl
      have hending : ending = if isRefused (renewed.line.exchanged manner retryOrder).outcome then
          (signOut .alone (send .alone renewed retryOrder).1 ⟨store.generation⟩,
            .error .unauthorized)
          else ((send .alone renewed retryOrder).1,
            readOutcome reader (renewed.line.exchanged manner retryOrder).outcome) := by
        unfold ending renew
        rw [hfor]
        exact hretry
      rw [hending]
      refine ⟨[retryOrder], ?_⟩
      rw [hexchanges]
      split
      · rename_i hrefusedAgain
        rw [if_pos hrefusedAgain] at hrenewal
        exact ⟨hagain.of_session _, hrenewal⟩
      · rename_i hanswered
        rw [if_neg hanswered] at hrenewal
        exact ⟨hagain, hrenewal⟩

end Renewal

/-- Every signed call goes one of these ways. -/
theorem course_of_sendJson (line : Line SessionEvent) :
    let call := client.sendJson .alone ⟨store, line, []⟩ request reader
    let orders := call.1.journal.reverse.map (·.2)
    call.1.line = line.after manner orders ∧
      Course client store request reader (line.exchanges manner orders) call.2 := by
  intro call orders
  let start : Talk Store SessionEvent := ⟨store, line, []⟩
  let order := client.signedOrder request store.session.token
  let sent := line.exchanged manner order
  let asked := (send .alone start order).1
  have hasked : EndsAfter start asked [order] := endsAfter_send start order
  have hsent : client.sendSigned .alone start request = (asked, sent.outcome) :=
    client.sendSigned_alone request start
  suffices hends : ∃ orders, EndsAfter start call.1 orders ∧
      Course client store request reader (line.exchanges manner orders) call.2 by
    obtain ⟨sentOrders, hcall, hcourse⟩ := hends
    have horders : orders = sentOrders := hcall.orders_eq
    rw [horders]
    exact ⟨hcall.line_eq, hcourse⟩
  cases hrefused : isRefused sent.outcome with
  | false =>
      have hcall : call = (asked, readOutcome reader sent.outcome) := by
        simp only [call, sendJson, start, hsent, hrefused, Bool.not_false, if_true]
      rw [hcall]
      exact ⟨[order], hasked, .answered rfl hrefused⟩
  | true =>
      cases hin : store.session.authenticated with
      | false =>
          have hticket : (Stage.alone.view store).beginRefresh = none :=
            if_neg (by simp [Stage.alone, hin])
          have hcall : call = (asked, .error .unauthorized) := by
            simp only [call, sendJson, start, hsent, hrefused, hticket, Bool.not_true,
              Bool.false_eq_true, if_false]
          rw [hcall]
          exact ⟨[order], hasked, .signedOut rfl hrefused hin⟩
      | true =>
          have hticket : (Stage.alone.view store).beginRefresh = some ⟨store.generation⟩ :=
            if_pos hin
          have hcall : call = client.renew request reader .alone asked ⟨store.generation⟩ := by
            simp only [call, sendJson, renew, start, hsent, hrefused, hticket, Bool.not_true,
              Bool.false_eq_true, if_false]
            rcases client.refreshFor .alone asked ⟨store.generation⟩ with ⟨talk, fault | taken⟩
            · rfl
            · cases taken <;> rfl
          have hsession : asked.session = store.run sent.meanwhile := by
            simp only [asked, send_alone]
            rfl
          have hrefreshes : Refreshes client store request sent
              (asked.line.exchanged manner (client.refreshOrder asked.session.session.token)) := by
            refine ⟨rfl, hrefused, hin, ?_⟩
            rw [← hsession]
            rfl
          let refreshOrder := client.refreshOrder asked.session.session.token
          let posted := (send .alone asked refreshOrder).1
          have hposted : EndsAfter start posted [order, refreshOrder] :=
            hasked.trans (endsAfter_send asked refreshOrder)
          have hrenew : ∃ orders, EndsAfter posted call.1 orders ∧
              Renewal client store request reader sent (asked.line.exchanged manner refreshOrder)
                (posted.line.exchanges manner orders) call.2 := by
            rw [hcall]
            cases hpayload : (asked.line.exchanged manner refreshOrder).payload with
            | error fault => exact client.renewal_of_fault store request reader hpayload
            | ok payload =>
                exact client.renewal_of_payload store request reader hsession hpayload
          obtain ⟨more, hmore, hrenewal⟩ := hrenew
          have hexchanges : line.exchanges manner ([order, refreshOrder] ++ more) =
              sent :: asked.line.exchanged manner refreshOrder ::
                posted.line.exchanges manner more := by
            have hline : (line.exchange manner order).1 = asked.line := hasked.line_eq.symm
            rw [Line.exchanges_append, ← hposted.line_eq, Line.exchanges, hline]
            rfl
          refine ⟨[order, refreshOrder] ++ more, hposted.trans hmore, ?_⟩
          rw [hexchanges]
          exact .renewed hrefreshes hrenewal

end Course

section Shape

variable {α : Type} {client : BackendClient} {store : Store} {request : SignedRequest}
  {reader : List UInt8 → Except Json.Fault α} {exchanges rest : List (Exchanged SessionEvent)}
  {sent refresh again : Exchanged SessionEvent} {result : Except BackendFault α}

variable (client store request reader exchanges sent result) in
/-- The shape of a signed call: which requests it exchanges, beginning with the one that
is sent first, and what it returns. -/
structure HasShape : Prop where
  first : exchanges[0]? = some sent
  atMostThree : exchanges.length ≤ 3
  firstOrder : sent.order = client.signedOrder request store.session.token
  refreshed_iff : exchanges[1]?.isSome = true ↔
    isRefused sent.outcome = true ∧ store.session.authenticated = true
  refreshOrder : ∀ refresh ∈ exchanges[1]?,
    refresh.order = client.refreshOrder (store.run sent.meanwhile).session.token
  retried_iff : ∀ refresh ∈ exchanges[1]?,
    (exchanges[2]?.isSome = true ↔ ∃ payload, Applies store sent refresh payload)
  retryOrder : ∀ refresh ∈ exchanges[1]?, ∀ again ∈ exchanges[2]?, ∀ payload,
    Applies store sent refresh payload →
      again.order = client.signedOrder request (some payload.token)
  result_of_answer : isRefused sent.outcome = false → result = readOutcome reader sent.outcome
  result_of_retry : ∀ again ∈ exchanges[2]?, isRefused again.outcome = false →
    result = readOutcome reader again.outcome
  result_of_failure : ∀ refresh ∈ exchanges[1]?, ∀ fault, refresh.payload = .error fault →
    isRejected refresh.outcome = false → result = .error fault
  result_otherwise : isRefused sent.outcome = true →
    (∀ again ∈ exchanges[2]?, isRefused again.outcome = true) →
    (∀ refresh ∈ exchanges[1]?, ∀ fault, refresh.payload = .error fault →
      isRejected refresh.outcome = true) →
    result = .error .unauthorized

theorem Applies.eq {payload other : RefreshPayload} (happlies : Applies store sent refresh payload)
    (hother : refresh.payload = .ok other) : payload = other :=
  Except.ok.inj (happlies.1.symm.trans hother)

theorem not_applies_of_fault {fault : BackendFault} (hfault : refresh.payload = .error fault) :
    ¬∃ payload, Applies store sent refresh payload := by
  rintro ⟨payload, hpayload, -⟩
  rw [hfault] at hpayload
  cases hpayload

namespace Renewal

variable (hrenewal : Renewal client store request reader sent refresh rest result)

include hrenewal

theorem length_le : rest.length ≤ 1 := by
  cases hrenewal <;> simp

/-- After a refresh the request is sent once more exactly when the token was taken. -/
theorem again_iff :
    rest[0]?.isSome = true ↔ ∃ payload, Applies store sent refresh payload := by
  cases hrenewal with
  | rejected hfault _ => simp [not_applies_of_fault hfault]
  | failed hfault _ => simp [not_applies_of_fault hfault]
  | overtaken hpayload hstale =>
      have hnone : ¬∃ payload, Applies store sent refresh payload := by
        rintro ⟨other, hother⟩
        exact hstale (hother.eq hpayload ▸ hother)
      simp [hnone]
  | retried happlies _ => exact ⟨fun _ => ⟨_, happlies⟩, fun _ => rfl⟩

theorem again_order (hagain : again ∈ rest[0]?) {payload : RefreshPayload}
    (happlies : Applies store sent refresh payload) :
    again.order = client.signedOrder request (some payload.token) := by
  cases hrenewal with
  | retried htaken horder =>
      cases hagain
      rw [happlies.eq htaken.1]
      exact horder
  | _ => cases hagain

theorem result_of_retry (hagain : again ∈ rest[0]?) (haccepted : isRefused again.outcome = false) :
    result = readOutcome reader again.outcome := by
  cases hrenewal with
  | retried _ _ =>
      cases hagain
      rw [haccepted]
      rfl
  | _ => cases hagain

theorem result_of_failure {fault : BackendFault} (hfault : refresh.payload = .error fault)
    (hrejected : isRejected refresh.outcome = false) : result = .error fault := by
  cases hrenewal with
  | rejected _ hother =>
      rw [hrejected] at hother
      cases hother
  | failed hother _ =>
      rw [hfault] at hother
      cases hother
      rfl
  | overtaken hpayload _ =>
      rw [hfault] at hpayload
      cases hpayload
  | retried happlies _ => exact absurd ⟨_, happlies⟩ (not_applies_of_fault hfault)

theorem result_otherwise (hagain : ∀ again ∈ rest[0]?, isRefused again.outcome = true)
    (hrejected : ∀ fault, refresh.payload = .error fault → isRejected refresh.outcome = true) :
    result = .error .unauthorized := by
  cases hrenewal with
  | rejected _ _ => rfl
  | failed hfault hother =>
      rw [hrejected _ hfault] at hother
      cases hother
  | overtaken _ _ => rfl
  | retried _ _ => rw [if_pos (hagain _ rfl)]

end Renewal

/-- Every way in which a signed call can go has the shape of one. -/
theorem Course.hasShape (hcourse : Course client store request reader exchanges result) :
    ∃ sent, HasShape client store request reader exchanges sent result := by
  cases hcourse with
  | @answered sent hsent haccepted =>
      refine ⟨sent, ?_⟩
      constructor
      case first => rfl
      case firstOrder => exact hsent
      case result_of_answer => exact fun _ => rfl
      all_goals simp [haccepted]
  | @signedOut sent hsent hrefused hout =>
      refine ⟨sent, ?_⟩
      constructor
      case first => rfl
      case firstOrder => exact hsent
      case result_of_answer => simp [hrefused]
      all_goals simp [hout]
  | @renewed sent refresh rest result hrefreshes hrenewal =>
      refine ⟨sent, ?_⟩
      have hsecond : ∀ {other}, other ∈ (sent :: refresh :: rest)[1]? → other = refresh :=
        fun hother => (Option.some.inj hother).symm
      constructor
      case first => rfl
      case atMostThree => exact Nat.add_le_add_right hrenewal.length_le 2
      case firstOrder => exact hrefreshes.sentOrder
      case refreshed_iff => simp [hrefreshes.refused, hrefreshes.authenticated]
      case refreshOrder =>
        intro other hother
        rw [hsecond hother]
        exact hrefreshes.refreshOrder
      case retried_iff =>
        intro other hother
        rw [hsecond hother]
        exact hrenewal.again_iff
      case retryOrder =>
        intro other hother again hagain payload
        rw [hsecond hother]
        exact hrenewal.again_order hagain
      case result_of_answer => simp [hrefreshes.refused]
      case result_of_retry => exact fun again hagain => hrenewal.result_of_retry hagain
      case result_of_failure =>
        intro other hother fault
        rw [hsecond hother]
        exact hrenewal.result_of_failure
      case result_otherwise =>
        exact fun _ hagain hrejected => hrenewal.result_otherwise hagain (hrejected refresh rfl)

end Shape

end BackendClient

end SignedAccess
