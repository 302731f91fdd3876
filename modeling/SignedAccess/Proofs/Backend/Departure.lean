/-
# Signing out for good

A sign-out tells the backend, where there is a token to show, and then clears the session
whatever came of that. Others may act on the desk while the request is under way, and they
may even sign in; all they did stands but for the session, which is cleared at the end.

A cleared session has left behind every login that it ever had. So no ticket of these
logins is good again, also where the session was cleared already and the sign-out had
nothing to do.
-/

import SignedAccess.Proofs.Backend.AllOrNothing
import SignedAccess.Proofs.Backend.SignedOut

namespace SignedAccess

/-! ### Tickets of sessions that are signed out -/

namespace Store

variable {store : Store} {ticket : Ticket}

/-- A ticket that was issued has been issued, whatever happens afterwards. -/
theorem HasIssued.run (hissued : store.HasIssued ticket) (events : List SessionEvent) :
    (store.run events).HasIssued ticket := by
  obtain ⟨start, earlier, rfl, hmem⟩ := hissued
  refine ⟨start, earlier ++ events, run_append start earlier events, ?_⟩
  rw [log_append]
  exact List.mem_append_left _ hmem

/-- Where nobody is signed in, the logins for which tickets were issued are over. -/
theorem HasIssued.generation_lt (hissued : store.HasIssued ticket)
    (hout : store.session.authenticated = false) : ticket.generation < store.generation := by
  obtain ⟨start, events, rfl, hmem⟩ := hissued
  obtain ⟨i, hentry⟩ := List.mem_iff_getElem?.1 hmem
  obtain ⟨hevent, -⟩ := apply_of_getElem?_log hentry
  obtain ⟨hlt, -⟩ := List.getElem?_eq_some_iff.1 hevent
  obtain ⟨login, rest, hin, rfl, hrun, -⟩ := issued_run hlt hentry
  rw [List.take_length] at hrun
  rw [hrun] at hout ⊢
  have hcases := generation_run_cases hin rest
  split at hcases
  · rw [hcases.2] at hout
    cases hout
  · exact hcases

/-- A sign-out is the end of all tickets, also of a session that is cleared already. -/
theorem refuses_logout (hissued : store.HasIssued ticket) : store.logout.Refuses ticket := by
  have hafter : store.logout.HasIssued ticket := hissued.run [.logout]
  have hout : store.logout.session.authenticated = false := by
    rw [session_logout]
    rfl
  exact refuses_of_generation_lt (hafter.generation_lt hout)

theorem logout_logout (store : Store) : store.logout.logout = store.logout :=
  if_pos ((Session.isCleared_iff _).2 store.session_logout)

end Store

/-! ### The request of a sign-out -/

namespace BackendClient

/-- The requests that a sign-out makes: one that shows the token, where one is held. -/
def departures (client : BackendClient) (held : Option AccessToken) : List Order :=
  if held.isSome then [Errand.depart.order client held] else []

theorem length_departures_le (client : BackendClient) (held : Option AccessToken) :
    (client.departures held).length ≤ 1 := by
  unfold departures
  split <;> simp

section

variable {σ ε : Type} (client : BackendClient) (stage : Stage σ ε) (talk : Talk σ ε)

/-- A sign-out makes its requests, and clears the session that others have left. -/
theorem logout_eq {orders : List Order}
    (horders : client.departures (stage.token talk.session) = orders) :
    client.logout stage talk =
      ⟨stage.change Store.logout (stage.acted talk.session
          ((talk.line.exchanges manner orders).flatMap (·.meanwhile))),
        talk.line.after manner orders, orders.map (talk.session, ·) ++ talk.journal⟩ := by
  subst horders
  unfold logout departures
  cases stage.token talk.session with
  | none => rfl
  | some token =>
      rw [Option.isSome_some, if_pos rfl, Line.exchanges, Line.exchanges, List.flatMap_singleton]
      rfl

end

/-- The requests of a sign-out are seen once at most. -/
theorem seesAtMostOne_departures {ε : Type} (client : BackendClient) (line : Line ε)
    (held : Option AccessToken) :
    line.SeesAtMostOne (line.after manner (client.departures held)) := by
  unfold departures
  split
  · exact line.seesAtMostOne_exchange manner _
  · exact Or.inl rfl

end BackendClient

/-! ### Signed out -/

open BackendClient in
/-- A session is kept in a store on a desk. A sign-out makes one request, which shows the
token that the session holds, or none where it holds no token, and whatever becomes of the
request and whatever others do meanwhile, the session is cleared afterwards; the rest of the
desk is as others have left it. Every ticket that was issued before, also while the request
was under way, is refused from then on. A further sign-out changes nothing and makes no
request. -/
theorem logout_always_signs_out (client : BackendClient) (desk : Desk) (number : Nat)
    (store : Store) (line : Line DeskCommand) (hstore : desk.stores[number]? = some store) :
    let orders := client.departures store.session.token
    let meanwhile := (line.exchanges manner orders).flatMap (·.meanwhile)
    let before := store.run (desk.eventsOn number meanwhile)
    let ending := client.logout (Desk.stage number) ⟨desk, line, []⟩
    (ending.session = (desk.run meanwhile).setStore number before.logout ∧
      ending.session.stores[number]? = some before.logout ∧
      before.logout.session = .cleared) ∧
    (∀ ticket, store.HasIssued ticket ∨ before.HasIssued ticket →
      before.logout.Refuses ticket) ∧
    (orders.length ≤ 1 ∧ ending.journal = orders.map (desk, ·) ∧
      line.SeesAtMostOne ending.line) ∧
    (store.session.token = none → ending.journal = [] ∧ ending.line = line) ∧
    client.logout (Desk.stage number) ending = ending := by
  intro orders meanwhile before ending
  have hmet : (desk.run meanwhile).stores[number]? = some before :=
    Desk.getElem?_run hstore meanwhile
  have hending : ending = ⟨(desk.run meanwhile).setStore number before.logout,
      line.after manner orders, orders.map (desk, ·)⟩ := by
    have horders : client.departures ((Desk.stage number).token desk) = orders := by
      rw [Desk.token_stage hstore]
    have hlogout := client.logout_eq (Desk.stage number) ⟨desk, line, []⟩ horders
    rwa [Desk.acted_stage, Desk.change_stage hmet, List.append_nil] at hlogout
  have hleft : ending.session.stores[number]? = some before.logout := by
    rw [hending]
    exact List.getElem?_set_self (List.getElem?_eq_some_iff.1 hmet).1
  have hcleared : before.logout.session = .cleared := before.session_logout
  refine ⟨⟨by rw [hending], hleft, hcleared⟩, ?_, ⟨client.length_departures_le _, ?_, ?_⟩, ?_, ?_⟩
  · rintro ticket (hearlier | hissued)
    · exact Store.refuses_logout (hearlier.run _)
    · exact Store.refuses_logout hissued
  · rw [hending]
  · rw [hending]
    exact client.seesAtMostOne_departures line store.session.token
  · intro hnone
    have horders : orders = [] := by
      change client.departures store.session.token = []
      rw [hnone]
      rfl
    rw [hending, horders]
    exact ⟨rfl, rfl⟩
  · -- the cleared session holds no token, and signing it out puts back the store that is there
    have hnone : client.departures ((Desk.stage number).token ending.session) = [] := by
      rw [Desk.token_stage hleft, hcleared]
      rfl
    have hsame : (Desk.stage number).change Store.logout ending.session = ending.session := by
      rw [Desk.change_stage hleft, Store.logout_logout, Desk.setStore_of_getElem? hleft]
    exact (client.logout_eq (Desk.stage number) ending hnone).trans
      (congrArg (Talk.mk · ending.line ending.journal) hsame)

/-- Others sign in as somebody else while the backend is told of a sign-out, and the
connection breaks: the session is cleared all the same, and the ticket of the first login is
refused from then on. -/
theorem logout_ends_login_of_others :
    let client : BackendClient := ⟨"http://[::1]:9000", {}⟩
    let store := Store.initial.setAuth { id := "7" } ⟨"old"⟩
    let desk := Desk.ofClient.setStore 0 store
    let line : Line DeskCommand :=
      .ofTurns true [⟨[.through 0 (.setAuth (.ok { id := "8" }) ⟨"new"⟩)], .drop⟩]
    let ending := client.logout (Desk.stage 0) ⟨desk, line, []⟩
    (desk.stores[0]? = some store ∧ store.HasIssued ⟨1⟩) ∧ ending.line.turns.isEmpty = true ∧
      ∃ after, ending.session.stores[0]? = some after ∧ after.session = .cleared ∧
        after.Refuses ⟨1⟩ := by
  intro client store desk line ending
  have hstore : desk.stores[0]? = some store := rfl
  have hissued : store.HasIssued ⟨1⟩ := ⟨store, [.beginRefresh], rfl, List.mem_singleton.2 rfl⟩
  obtain ⟨⟨-, hleft, hcleared⟩, hrefuses, -⟩ :=
    logout_always_signs_out client desk 0 store line hstore
  exact ⟨⟨hstore, hissued⟩, by decide +kernel, _, hleft, hcleared,
    hrefuses ⟨1⟩ (Or.inl hissued)⟩

end SignedAccess
