/-
# Logins and refreshes are all or nothing

A login and a refresh make one exchange, and change the session only after the whole answer
has been read. So where they fail, for whatever reason, the desk is as others have left it,
with every store and every receiver on it. A login that succeeds is the next login of its
store, so no ticket that was issued before is good from then on. A refresh that succeeds
puts in its token and nothing else.
-/

import SignedAccess.Proofs.Backend.Exchanges
import SignedAccess.Proofs.Session.Watching

namespace SignedAccess

open Json Text

/-! ### Tickets of earlier logins -/

namespace Store

theorem session_setToken (store : Store) (token : AccessToken) :
    (store.setToken token).session = { store.session with token := some token } := rfl

theorem generation_setToken (store : Store) (token : AccessToken) :
    (store.setToken token).generation = store.generation := rfl

/-- The ticket was issued in some run that has led to the store. -/
def HasIssued (store : Store) (ticket : Ticket) : Prop :=
  ∃ (start : Store) (events : List SessionEvent), start.run events = store ∧
    ⟨.beginRefresh, .ticket (some ticket)⟩ ∈ start.log events

/-- No ticket is ahead of its store. -/
theorem HasIssued.generation_le {store : Store} {ticket : Ticket}
    (hissued : store.HasIssued ticket) : ticket.generation ≤ store.generation := by
  obtain ⟨start, events, rfl, hmem⟩ := hissued
  obtain ⟨i, hentry⟩ := List.mem_iff_getElem?.1 hmem
  obtain ⟨-, hreply⟩ := apply_of_getElem?_log hentry
  obtain ⟨-, hticket⟩ := beginRefresh_eq_some_iff.1 (SessionReply.ticket.inj hreply)
  calc ticket.generation
      = (start.run (events.take i)).generation := congrArg Ticket.generation hticket
    _ ≤ ((start.run (events.take i)).run (events.drop i)).generation := generation_le_run _ _
    _ = (start.run events).generation := by rw [← run_append, List.take_append_drop]

/-- Nothing is done under the ticket, in the store and after whatever happens to it. -/
def Refuses (store : Store) (ticket : Ticket) : Prop :=
  ∀ events, let later := store.run events
    (∀ token, later.completeRefresh ticket token = (later, false)) ∧
      later.logoutIfCurrent ticket = (later, false)

theorem refuses_of_generation_lt {store : Store} {ticket : Ticket}
    (hpast : ticket.generation < store.generation) : store.Refuses ticket := by
  intro events later
  have hother : later.generation ≠ ticket.generation :=
    Nat.ne_of_gt (Nat.lt_of_lt_of_le hpast (generation_le_run store events))
  constructor
  · intro token
    have hstale : later.isCurrent ticket = false := by
      rw [isCurrent, beq_false_of_ne hother, Bool.false_and]
    rw [completeRefresh, hstale, if_neg Bool.false_ne_true]
  · rw [logoutIfCurrent, if_neg fun hcurrent => hother hcurrent.1]

/-- A login is the end of all tickets that were issued before. -/
theorem refuses_setAuth {store : Store} {ticket : Ticket} (hissued : store.HasIssued ticket)
    (user : User) (token : AccessToken) : (store.setAuth user token).Refuses ticket :=
  refuses_of_generation_lt (Nat.lt_succ_of_le hissued.generation_le)

end Store

/-! ### A store on a desk -/

namespace Desk

theorem acted_stage (number : Nat) (desk : Desk) (commands : List DeskCommand) :
    (Desk.stage number).acted desk commands = desk.run commands := rfl

section

variable {number : Nat} {desk : Desk} {store : Store}
  (hstore : desk.stores[number]? = some store)

include hstore

theorem view_stage : (Desk.stage number).view desk = store := by
  change desk.stores[number]?.getD .initial = store
  rw [hstore, Option.getD_some]

theorem token_stage : (Desk.stage number).token desk = store.session.token := by
  rw [Stage.token, view_stage hstore]

theorem change_stage (f : Store → Store) :
    (Desk.stage number).change f desk = desk.setStore number (f store) := by
  rw [Stage.change, view_stage hstore]
  rfl

/-- A refresh under a ticket puts in the token, or does nothing to the desk. -/
theorem put_stage_completeRefresh (ticket : Ticket) (token : AccessToken) :
    (Desk.stage number).put (store.completeRefresh ticket token).1 desk =
      if store.isCurrent ticket then desk.setStore number (store.setToken token) else desk := by
  have hput : (Desk.stage number).put (store.completeRefresh ticket token).1 desk =
      desk.setStore number (store.completeRefresh ticket token).1 := rfl
  rw [hput, ← Store.completeRefresh_snd store ticket token]
  cases htaken : (store.completeRefresh ticket token).2 with
  | true => rw [Store.completeRefresh_of_true htaken, if_pos rfl]
  | false =>
      rw [Store.completeRefresh_of_false htaken, if_neg Bool.false_ne_true,
        setStore_of_getElem? hstore]

end

end Desk

/-! ### One exchange and what follows -/

namespace BackendClient

section

variable {σ ε : Type} (client : BackendClient) (stage : Stage σ ε) (talk : Talk σ ε)
  {asked : Exchanged ε}

theorem send_of_exchanged {order : Order} (hasked : talk.line.exchanged manner order = asked) :
    send stage talk order =
      (⟨stage.acted talk.session asked.meanwhile, (talk.line.exchange manner order).1,
        (talk.session, order) :: talk.journal⟩, asked.outcome) := by
  subst hasked
  rfl

/-- A login fails and leaves the session to the others, or takes what the answer brings. -/
theorem login_cases (credentials : Value)
    (hasked : talk.line.exchanged manner ((Errand.login credentials).order client none) = asked) :
    let met := stage.acted talk.session asked.meanwhile
    let answer := readOutcome AuthPayload.record.readAll asked.outcome
    let login := client.login stage talk credentials
    (∃ fault, answer = .error fault ∧ login.2 = .error fault ∧ login.1.session = met) ∨
      ∃ payload, answer = .ok payload ∧ login.2 = .ok payload.user ∧
        login.1.session = stage.change (Store.setAuth payload.user payload.token) met := by
  have horder : (Errand.login credentials).order client none =
      ⟨"POST", client.url client.paths.login, none, some credentials⟩ := rfl
  rw [horder] at hasked
  simp only [login, send_of_exchanged stage talk hasked]
  cases readOutcome AuthPayload.record.readAll asked.outcome with
  | error fault => exact Or.inl ⟨fault, rfl, rfl, rfl⟩
  | ok payload => exact Or.inr ⟨payload, rfl, rfl, rfl⟩

/-- A refresh under a ticket fails and leaves the session to the others, or takes the token
that the answer brings if the ticket is still good. -/
theorem refreshFor_cases (ticket : Ticket)
    (hasked : talk.line.exchanged manner
      (Errand.renew.order client (stage.token talk.session)) = asked) :
    let met := stage.acted talk.session asked.meanwhile
    let answer := readOutcome RefreshPayload.record.readAll asked.outcome
    let refresh := client.refreshFor stage talk ticket
    (∃ fault, answer = .error fault ∧ refresh.2 = .error fault ∧ refresh.1.session = met) ∨
      ∃ payload, answer = .ok payload ∧
        let taken := (stage.view met).completeRefresh ticket payload.token
        refresh.2 = .ok taken.2 ∧ refresh.1.session = stage.put taken.1 met := by
  have horder : Errand.renew.order client (stage.token talk.session) =
      ⟨"POST", client.url client.paths.refresh, (stage.token talk.session).map (·.secret), none⟩ :=
    rfl
  rw [horder] at hasked
  simp only [refreshFor, postRefresh, send_of_exchanged stage talk hasked]
  cases readOutcome RefreshPayload.record.readAll asked.outcome with
  | error fault => exact Or.inl ⟨fault, rfl, rfl, rfl⟩
  | ok payload => exact Or.inr ⟨payload, rfl, rfl, rfl⟩

end

section

variable (client : BackendClient) {desk : Desk} {number : Nat} {store : Store}
  (hstore : desk.stores[number]? = some store) (line : Line DeskCommand)
  {asked : Exchanged DeskCommand}

include hstore

/-- A login on a desk fails and leaves the desk to the others, or is the next login of its
store. -/
theorem login_on_desk (credentials : Value)
    (hasked : line.exchanged manner ((Errand.login credentials).order client none) = asked) :
    let met := desk.run asked.meanwhile
    let before := store.run (desk.eventsOn number asked.meanwhile)
    let answer := readOutcome AuthPayload.record.readAll asked.outcome
    let login := client.login (Desk.stage number) ⟨desk, line, []⟩ credentials
    (∃ fault, answer = .error fault ∧ login.2 = .error fault ∧ login.1.session = met) ∨
      ∃ payload, answer = .ok payload ∧ login.2 = .ok payload.user ∧
        login.1.session = met.setStore number (before.setAuth payload.user payload.token) := by
  intro met before answer login
  have hmet : met.stores[number]? = some before := Desk.getElem?_run hstore asked.meanwhile
  rcases client.login_cases (Desk.stage number) ⟨desk, line, []⟩ credentials hasked with
    hfailed | ⟨payload, hanswer, hresult, hsession⟩
  · exact Or.inl hfailed
  · exact Or.inr ⟨payload, hanswer, hresult, hsession.trans (Desk.change_stage hmet _)⟩

/-- Without a login no refresh is sent. -/
theorem refresh_of_signedOut (hout : store.session.authenticated = false) :
    client.refresh (Desk.stage number) ⟨desk, line, []⟩ =
      (⟨desk, line, []⟩, .error .unauthorized) := by
  have hticket : ((Desk.stage number).view desk).beginRefresh = none := by
    rw [Desk.view_stage hstore, Store.beginRefresh, hout, if_neg Bool.false_ne_true]
  simp only [refresh, hticket]

/-- A refresh of a login on a desk fails and leaves the desk to the others, or puts in the
token that was brought if the login is still current. -/
theorem refresh_on_desk (hin : store.session.authenticated = true)
    (hasked : line.exchanged manner (Errand.renew.order client store.session.token) = asked) :
    let met := desk.run asked.meanwhile
    let before := store.run (desk.eventsOn number asked.meanwhile)
    let isCurrent := before.isCurrent ⟨store.generation⟩
    let answer := readOutcome RefreshPayload.record.readAll asked.outcome
    let refresh := client.refresh (Desk.stage number) ⟨desk, line, []⟩
    (∃ fault, answer = .error fault ∧ refresh.2 = .error fault ∧ refresh.1.session = met) ∨
      ∃ payload, answer = .ok payload ∧ refresh.2 = .ok isCurrent ∧
        refresh.1.session =
          if isCurrent then met.setStore number (before.setToken payload.token) else met := by
  intro met before isCurrent answer refresh
  have hmet : met.stores[number]? = some before := Desk.getElem?_run hstore asked.meanwhile
  have hticket : ((Desk.stage number).view desk).beginRefresh = some ⟨store.generation⟩ := by
    rw [Desk.view_stage hstore]
    exact Store.beginRefresh_eq_some_iff.2 ⟨hin, rfl⟩
  have hfor : refresh =
      client.refreshFor (Desk.stage number) ⟨desk, line, []⟩ ⟨store.generation⟩ := by
    simp only [refresh, BackendClient.refresh, hticket]
  rw [← Desk.token_stage hstore] at hasked
  rw [hfor]
  rcases client.refreshFor_cases (Desk.stage number) ⟨desk, line, []⟩ ⟨store.generation⟩ hasked with
    hfailed | ⟨payload, hanswer, hresult, hsession⟩
  · exact Or.inl hfailed
  · rw [Desk.acted_stage, Desk.view_stage hmet] at hresult hsession
    rw [Store.completeRefresh_snd] at hresult
    rw [Desk.put_stage_completeRefresh hmet] at hsession
    exact Or.inr ⟨payload, hanswer, hresult, hsession⟩

end

end BackendClient

/-! ### All or nothing -/

end SignedAccess
