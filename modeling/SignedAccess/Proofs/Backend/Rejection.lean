/-
# When a call signs out

A signed call of someone who is signed in ends the login when the backend refuses it for
good: the request is refused, and then either the refresh is rejected or the request is
refused once more with the token that the refresh brought. Nothing else ends it. A backend
that cannot be reached, that fails itself or that answers what cannot be read leaves the
login alone, and the token is then the one before or the one that a refresh has brought.

Here nobody else changes the session while the call is under way, so what the call leaves
behind can be told from its exchanges. `Fate` has one case for each way, and
`fate_of_signedMoves` finds the case of every call.
-/

import SignedAccess.Proofs.Backend.Exchanges
import SignedAccess.Proofs.Session.Watching

namespace SignedAccess

open Text

namespace Store

/-! ### Nobody else changes the session -/

variable {store : Store}

/-- Which operations are announced does not hang on the token of who is signed in. -/
theorem announces_setToken (hin : store.session.authenticated = true) (token : AccessToken)
    (event : SessionEvent) :
    (store.setToken token).announces event = store.announces event := by
  have hboth : (store.setToken token).session.authenticated = true := hin
  cases event with
  | logout =>
      simp only [announces, isCleared_of_authenticated hin, isCleared_of_authenticated hboth]
  | completeRefresh ticket brought =>
      simp only [announces, completeRefresh_snd]
      rfl
  | logoutIfCurrent ticket =>
      simp only [announces, logoutIfCurrent_snd, isCleared_of_authenticated hin,
        isCleared_of_authenticated hboth]
      rfl
  | _ => rfl

/-- What changes nothing before the token of who is signed in is replaced changes nothing
afterwards. -/
theorem not_announced_setToken (hin : store.session.authenticated = true) (token : AccessToken)
    {events : List SessionEvent} (hquiet : store.announced events = false) :
    (store.setToken token).announced events = false := by
  induction events with
  | nil => rfl
  | cons event events ih =>
      rw [announced, Bool.or_eq_false_iff] at hquiet ⊢
      have hsame := announces_setToken hin token event
      have hhere : (store.setToken token).announces event = false := hsame.trans hquiet.1
      rw [apply_of_not_announces hquiet.1] at hquiet
      rw [apply_of_not_announces hhere]
      exact ⟨hhere, ih hquiet.2⟩

/-- The login of a ticket can be signed out while it is current. -/
theorem logoutIfCurrent_self (hin : store.session.authenticated = true) :
    store.logoutIfCurrent ⟨store.generation⟩ = (store.replace .cleared, true) :=
  if_pos ⟨rfl, isCleared_of_authenticated hin⟩

/-- A refresh of the current login is taken. -/
theorem completeRefresh_self (hin : store.session.authenticated = true) (token : AccessToken) :
    store.completeRefresh ⟨store.generation⟩ token = (store.setToken token, true) := by
  apply if_pos
  rw [isCurrent, hin, beq_self_eq_true, Bool.and_true]

end Store

/-! ### What a call leaves behind -/

/-- What a signed call makes of the store of someone who is signed in, by the exchanges of
the call, where nobody else changes the session. -/
inductive Fate (store : Store) : List (Exchanged SessionEvent) → Store → Prop
  | answered {sent} (haccepted : isRefused sent.outcome = false) : Fate store [sent] store
  | unrenewed {sent refresh fault} (hrefused : isRefused sent.outcome = true)
      (hfault : refresh.payload = .error fault) (hspared : isRejected refresh.outcome = false) :
      Fate store [sent, refresh] store
  | rejected {sent refresh} (hrefused : isRefused sent.outcome = true)
      (hrejected : isRejected refresh.outcome = true) :
      Fate store [sent, refresh] (store.replace .cleared)
  | renewed {sent refresh again payload} (hrefused : isRefused sent.outcome = true)
      (hpayload : refresh.payload = .ok payload) (haccepted : isRefused again.outcome = false) :
      Fate store [sent, refresh, again] (store.setToken payload.token)
  | refusedAgain {sent refresh again payload} (hrefused : isRefused sent.outcome = true)
      (hpayload : refresh.payload = .ok payload) (hagain : isRefused again.outcome = true) :
      Fate store [sent, refresh, again] ((store.setToken payload.token).replace .cleared)

/-- The backend refuses a signed call for good: it refuses the request, and then it rejects
the refresh, or it refuses the request once more after the refresh brought a token. -/
def RefusesForGood {ε : Type} (exchanges : List (Exchanged ε)) : Prop :=
  ∃ sent refresh, exchanges[0]? = some sent ∧ exchanges[1]? = some refresh ∧
    isRefused sent.outcome = true ∧
    (isRejected refresh.outcome = true ∨
      ∃ payload again, refresh.payload = .ok payload ∧ exchanges[2]? = some again ∧
        isRefused again.outcome = true)

namespace Fate

variable {store after : Store} {exchanges : List (Exchanged SessionEvent)}
  (hfate : Fate store exchanges after)

include hfate

/-- The login is gone exactly when the backend refused it for good. -/
theorem isCleared_iff (hin : store.session.authenticated = true) :
    after.session.isCleared = true ↔ RefusesForGood exchanges := by
  have hkept : store.session.isCleared ≠ true := by
    rw [Store.isCleared_of_authenticated hin]
    exact Bool.false_ne_true
  cases hfate with
  | answered haccepted =>
      refine iff_of_false hkept ?_
      rintro ⟨_, _, -, hnone, -⟩
      cases hnone
  | unrenewed hrefused hfault hspared =>
      refine iff_of_false hkept ?_
      rintro ⟨_, _, ⟨⟩, ⟨⟩, -, hrejected | ⟨_, _, -, hnone, -⟩⟩
      · exact Bool.false_ne_true (hspared.symm.trans hrejected)
      · cases hnone
  | rejected hrefused hrejected =>
      exact iff_of_true rfl ⟨_, _, rfl, rfl, hrefused, Or.inl hrejected⟩
  | @renewed _ _ _ payload hrefused hpayload haccepted =>
      have hin' : (store.setToken payload.token).session.authenticated = true := hin
      refine iff_of_false (by simp [Store.isCleared_of_authenticated hin']) ?_
      rintro ⟨_, _, ⟨⟩, ⟨⟩, -, hrejected | ⟨_, _, -, ⟨⟩, hagain⟩⟩
      · exact Bool.false_ne_true ((isRejected_of_readOutcome hpayload).symm.trans hrejected)
      · exact Bool.false_ne_true (haccepted.symm.trans hagain)
  | refusedAgain hrefused hpayload hagain =>
      exact iff_of_true rfl ⟨_, _, rfl, rfl, hrefused, Or.inr ⟨_, _, hpayload, rfl, hagain⟩⟩

/-- A login that is not gone is the one before, with its token or a new one. -/
theorem of_not_isCleared (hkept : after.session.isCleared = false) :
    after.generation = store.generation ∧
      (after.session = store.session ∨
        ∃ refresh payload, exchanges[1]? = some refresh ∧ refresh.payload = .ok payload ∧
          after.session = { store.session with token := some payload.token }) := by
  cases hfate with
  | answered _ => exact ⟨rfl, Or.inl rfl⟩
  | unrenewed _ _ _ => exact ⟨rfl, Or.inl rfl⟩
  | rejected _ _ => cases hkept
  | renewed _ hpayload _ => exact ⟨rfl, Or.inr ⟨_, _, rfl, hpayload, rfl⟩⟩
  | refusedAgain _ _ _ => cases hkept

end Fate

namespace BackendClient

variable (client : BackendClient) {talk : Talk Store SessionEvent} {store : Store}

/-- An errand on which nobody else changes the session leaves it alone. -/
theorem session_ask_of_quiet {errand : Errand}
    (hquiet : talk.session.announced (client.errandExchange talk errand).meanwhile = false) :
    (client.ask talk errand).1.session = talk.session := by
  rw [session_ask, Store.run_of_not_announced hquiet]

section Moves

variable (request : SignedRequest) (ticket : Ticket)

theorem retryMoves_eq :
    client.retryMoves talk request ticket = .ask (.signed request) ::
      if isRefused (client.errandExchange talk (.signed request)).outcome then
        [.own (.logoutIfCurrent ticket)]
      else [] := by
  rw [retryMoves, outcome_ask]

theorem renewMoves_of_fault {fault : BackendFault}
    (hfault : (client.errandExchange talk .renew).payload = .error fault) :
    client.renewMoves talk request ticket = .ask .renew ::
      if isRejected (client.errandExchange talk .renew).outcome then
        [.own (.logoutIfCurrent ticket)]
      else [] := by
  have hanswer : refreshPayload (client.ask talk .renew).2 = .error fault := by
    rw [outcome_ask]
    exact hfault
  have hrejection : fault.isRejection = isRejected (client.errandExchange talk .renew).outcome :=
    isRejection_of_readOutcome hfault
  simp only [renewMoves, hanswer, hrejection]

theorem renewMoves_of_payload {payload : RefreshPayload}
    (hpayload : (client.errandExchange talk .renew).payload = .ok payload)
    (htaken : ((client.ask talk .renew).1.session.completeRefresh ticket payload.token).2 = true) :
    client.renewMoves talk request ticket =
      .ask .renew :: .own (.completeRefresh ticket payload.token) ::
        client.retryMoves (happen (client.ask talk .renew).1
          (.completeRefresh ticket payload.token)) request ticket := by
  have hanswer : refreshPayload (client.ask talk .renew).2 = .ok payload := by
    rw [outcome_ask]
    exact hpayload
  simp only [renewMoves, hanswer, htaken, if_true]

end Moves

variable (request : SignedRequest)

/-- Where the login is signed out under its own ticket, it is gone. -/
theorem session_happen_signOut {ending : Talk Store SessionEvent} (hending : ending.session = store)
    (hin : store.session.authenticated = true) :
    (happen ending (.logoutIfCurrent ⟨store.generation⟩)).session = store.replace .cleared := by
  rw [session_happen, hending, Store.apply, Store.logoutIfCurrent_self hin]

/-- A request that is sent once more signs out when it is refused, and else changes nothing. -/
theorem retryMoves_of_quiet (hsession : talk.session = store)
    (hin : store.session.authenticated = true)
    (hquiet : store.announced
      (client.errandExchange talk (.signed request)).meanwhile = false) :
    let again := client.errandExchange talk (.signed request)
    let moves := client.retryMoves talk request ⟨store.generation⟩
    client.exchanges talk moves = [again] ∧
      (client.play talk moves).session =
        if isRefused again.outcome then store.replace .cleared else store := by
  intro again moves
  have hstays : (client.ask talk (.signed request)).1.session = store := by
    rw [client.session_ask_of_quiet (hsession ▸ hquiet), hsession]
  have hmoves : moves = _ := client.retryMoves_eq request _
  cases hrefused : isRefused again.outcome with
  | false =>
      rw [hrefused, if_neg Bool.false_ne_true] at hmoves
      rw [hmoves, exchanges_ask, play_ask, if_neg Bool.false_ne_true]
      exact ⟨rfl, hstays⟩
  | true =>
      rw [hrefused, if_pos rfl] at hmoves
      rw [hmoves, exchanges_ask, exchanges_own, play_ask, play_own, if_pos rfl]
      exact ⟨rfl, session_happen_signOut hstays hin⟩

/-- After a refused request the login goes the way of its refresh. -/
theorem fate_of_renewMoves {sent : Exchanged SessionEvent}
    (hrefused : isRefused sent.outcome = true) (hsession : talk.session = store)
    (hin : store.session.authenticated = true) :
    let moves := client.renewMoves talk request ⟨store.generation⟩
    (∀ exchange ∈ client.exchanges talk moves, store.announced exchange.meanwhile = false) →
      Fate store (sent :: client.exchanges talk moves) (client.play talk moves).session := by
  intro moves hquiet
  let refresh := client.errandExchange talk .renew
  have hstays : (client.ask talk .renew).1.session = store := by
    have hfirst : store.announced refresh.meanwhile = false := hquiet refresh List.mem_cons_self
    rw [client.session_ask_of_quiet (hsession ▸ hfirst), hsession]
  cases hpayload : refresh.payload with
  | error fault =>
      have hmoves : moves = _ := client.renewMoves_of_fault request _ hpayload
      cases hrejected : isRejected refresh.outcome with
      | false =>
          rw [hrejected, if_neg Bool.false_ne_true] at hmoves
          rw [hmoves, exchanges_ask, exchanges_nil, play_ask, play_nil, hstays]
          exact .unrenewed hrefused hpayload hrejected
      | true =>
          rw [hrejected, if_pos rfl] at hmoves
          rw [hmoves, exchanges_ask, exchanges_own, exchanges_nil, play_ask, play_own, play_nil,
            session_happen_signOut hstays hin]
          exact .rejected hrefused hrejected
  | ok payload =>
      have hcurrent : (client.ask talk .renew).1.session.completeRefresh ⟨store.generation⟩
          payload.token = (store.setToken payload.token, true) := by
        rw [hstays, Store.completeRefresh_self hin]
      have hmoves : moves = _ :=
        client.renewMoves_of_payload request _ hpayload (congrArg Prod.snd hcurrent)
      obtain ⟨taken, htaken⟩ : ∃ taken, taken = happen (client.ask talk .renew).1
        (.completeRefresh ⟨store.generation⟩ payload.token) := ⟨_, rfl⟩
      rw [← htaken] at hmoves
      have hnew : taken.session = store.setToken payload.token := by
        rw [htaken, session_happen, Store.apply, hcurrent]
      let again := client.errandExchange taken (.signed request)
      have hagain : store.announced again.meanwhile = false := by
        apply hquiet
        rw [hmoves, retryMoves_eq, exchanges_ask, exchanges_own, ← htaken, exchanges_ask]
        exact List.mem_cons_of_mem _ List.mem_cons_self
      obtain ⟨hexchanges, hending⟩ := client.retryMoves_of_quiet request hnew hin
        (Store.not_announced_setToken hin payload.token hagain)
      rw [hmoves, exchanges_ask, exchanges_own, play_ask, play_own, ← htaken]
      change client.exchanges taken (client.retryMoves taken request ⟨store.generation⟩) =
        [again] at hexchanges
      change (client.play taken (client.retryMoves taken request ⟨store.generation⟩)).session =
        if isRefused again.outcome then (store.setToken payload.token).replace .cleared
        else store.setToken payload.token at hending
      rw [hexchanges, hending]
      cases hanswer : isRefused again.outcome with
      | false => exact .renewed hrefused hpayload hanswer
      | true => exact .refusedAgain hrefused hpayload hanswer

/-- Every signed call of someone who is signed in goes one of these ways, where nobody else
changes the session. -/
theorem fate_of_signedMoves (hsession : talk.session = store)
    (hin : store.session.authenticated = true) :
    let moves := client.signedMoves talk request
    (∀ exchange ∈ client.exchanges talk moves, store.announced exchange.meanwhile = false) →
      Fate store (client.exchanges talk moves) (client.play talk moves).session := by
  intro moves hquiet
  let sent := client.errandExchange talk (.signed request)
  have hticket : talk.session.beginRefresh = some ⟨store.generation⟩ :=
    Store.beginRefresh_eq_some_iff.2 ⟨hsession ▸ hin, hsession ▸ rfl⟩
  have hmoves : moves = .ask (.signed request) ::
      if isRefused sent.outcome then
        client.renewMoves (client.ask talk (.signed request)).1 request ⟨store.generation⟩
      else [] := by
    simp only [moves, signedMoves, outcome_ask, hticket, sent]
  have hstays : (client.ask talk (.signed request)).1.session = store := by
    have hfirst : store.announced sent.meanwhile = false := by
      apply hquiet
      rw [hmoves, exchanges_ask]
      exact List.mem_cons_self
    rw [client.session_ask_of_quiet (hsession ▸ hfirst), hsession]
  cases hrefused : isRefused sent.outcome with
  | false =>
      rw [hrefused, if_neg Bool.false_ne_true] at hmoves
      rw [hmoves, exchanges_ask, exchanges_nil, play_ask, play_nil, hstays]
      exact .answered hrefused
  | true =>
      rw [hrefused, if_pos rfl] at hmoves
      rw [hmoves, exchanges_ask] at hquiet
      rw [hmoves, exchanges_ask, play_ask]
      exact client.fate_of_renewMoves request hrefused hstays hin fun exchange hmem =>
        hquiet exchange (List.mem_cons_of_mem _ hmem)

end BackendClient

/-! ### Signed calls -/

namespace TicketedCall

variable {α : Type}

/-- The exchanges of a call that begins with a store and a line. -/
def exchanges (call : TicketedCall α) (client : BackendClient) (store : Store)
    (line : Line SessionEvent) : List (Exchanged SessionEvent) :=
  line.exchanges BackendClient.manner
    ((call.run client .alone ⟨store, line, []⟩).journal.reverse.map (·.2))

theorem orders_exchanges (call : TicketedCall α) (client : BackendClient) (store : Store)
    (line : Line SessionEvent) :
    (call.exchanges client store line).map (·.order) =
      (call.run client .alone ⟨store, line, []⟩).journal.reverse.map (·.2) :=
  Line.orders_exchanges _ _ _

/-- The second exchange of a signed call is the refresh, and the others are those of its
request. -/
theorem order_of_exchanges {call : TicketedCall α} (hsigned : call.request?.isSome = true)
    {client : BackendClient} {store : Store} {line : Line SessionEvent} {i : Nat}
    {exchange : Exchanged SessionEvent}
    (hexchange : (call.exchanges client store line)[i]? = some exchange) :
    ∃ token, if i = 1 then exchange.order = client.refreshOrder token
      else call.request?.map (client.signedOrder · token) = some exchange.order := by
  have horder : ((call.exchanges client store line).map (·.order))[i]? = some exchange.order := by
    rw [List.getElem?_map, hexchange, Option.map_some]
  rw [orders_exchanges, List.getElem?_map, Option.map_eq_some_iff] at horder
  obtain ⟨⟨moment, order⟩, hsent, rfl⟩ := horder
  have hplace : call.refreshPlace = 1 := by
    cases call with
    | refresh => cases hsigned
    | _ => rfl
  have hentry := of_journal_run hsent
  rw [hplace] at hentry
  refine ⟨moment.session.token, ?_⟩
  split at hentry
  · rename_i hsecond
    rw [if_pos hsecond]
    exact hentry.2.2
  · rename_i hother
    rwa [if_neg hother]

/-- A signed call does the moves of its request. -/
theorem run_eq_play {call : TicketedCall α} {request : SignedRequest}
    (hsigned : call.request? = some request) (client : BackendClient)
    (talk : Talk Store SessionEvent) :
    call.run client .alone talk = client.play talk (client.signedMoves talk request) := by
  cases call with
  | send other reader =>
      obtain rfl : other = request := Option.some.inj hsigned
      exact client.sendJson_eq_play talk other reader
  | fetch path reader =>
      obtain rfl : ⟨"GET", path, none⟩ = request := Option.some.inj hsigned
      exact client.sendJson_eq_play talk _ reader
  | refresh => cases hsigned

end TicketedCall

end SignedAccess
