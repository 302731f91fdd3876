/-
# Tickets of another store

A ticket holds a generation and nothing of the store that issued it. Every store counts
from zero, one for each sign-in and for each sign-out of a session that was not cleared,
and `LogEntry.loginChanges` counts this in a log. So a store takes a ticket for its own
when its log counts as many as the log of the issuing store did at the issue, whoever is
signed in there.

`ticket_accepted_iff_counts_agree` says this of runs on a desk, for a ticket from any
store that is shown to any store, with all that the two calls under a ticket do. Two
stores with one sign-in each are then enough for the token of one user to get into the
session of another, as `token_reaches_other_session` shows.
-/

import SignedAccess.Proofs.Session.Account
import SignedAccess.Proofs.Session.DeskRun
import SignedAccess.Proofs.Session.Ticket

namespace SignedAccess

namespace LogEntry

/-! ### Counting logins -/

/-- After the entry there is another login than before it, or none where there had been
something. -/
def changesLogin (found : Session) (entry : LogEntry) : Bool :=
  entry.signsIn || (entry.clears && !found.isCleared)

/-- How often a log changes the login, where it begins at a given session. -/
def loginChangesFrom (found : Session) : List LogEntry → Nat
  | [] => 0
  | entry :: log =>
      (if entry.changesLogin found then 1 else 0) + loginChangesFrom (entry.change found) log

/-- How often the log of a new store changes the login. -/
def loginChanges (log : List LogEntry) : Nat := loginChangesFrom .initial log

/-- A log in which someone signs in changes the login. -/
theorem loginChangesFrom_pos {found : Session} {log : List LogEntry} {entry : LogEntry}
    (hmem : entry ∈ log) (hsigns : entry.signsIn = true) : 0 < loginChangesFrom found log := by
  induction log generalizing found with
  | nil => cases hmem
  | cons first log ih =>
      rw [loginChangesFrom]
      rcases List.mem_cons.1 hmem with rfl | hlater
      · rw [changesLogin, hsigns, Bool.true_or, if_pos rfl]
        exact Nat.add_pos_left Nat.one_pos _
      · exact Nat.add_pos_right _ (ih hlater)

/-- A log that tells of someone signed in changes the login. -/
theorem loginChanges_pos {log : List LogEntry} (hin : (account log).authenticated = true) :
    0 < loginChanges log := by
  obtain ⟨entry, hmem, hsigns⟩ := List.any_eq_true.1 hin
  exact loginChangesFrom_pos (mem_of_mem_sinceCleared hmem) hsigns

end LogEntry

namespace Store

open LogEntry

/-- The generation counts the changes of the login. -/
theorem generation_apply (store : Store) (event : SessionEvent) :
    (store.apply event).1.generation =
      store.generation + if (store.entry event).changesLogin store.session then 1 else 0 := by
  cases event with
  | setAuth user token => rfl
  | setUser user => rfl
  | setToken token => rfl
  | logout =>
      cases hcleared : store.session.isCleared <;>
        simp [apply, logout, entry, changesLogin, signsIn, clears, hcleared, replace]
  | setLoading loading =>
      by_cases hidle : store.session.loading = loading ∨ loading = true <;>
        simp [apply, setLoading, entry, changesLogin, signsIn, clears, hidle, revise]
  | beginRefresh => rfl
  | completeRefresh ticket token =>
      cases hcurrent : store.isCurrent ticket <;>
        simp [apply, completeRefresh, entry, changesLogin, signsIn, clears, hcurrent, revise]
  | logoutIfCurrent ticket =>
      by_cases hcurrent : store.generation = ticket.generation ∧ store.session.isCleared = false
      · simp [apply, logoutIfCurrent, entry, changesLogin, signsIn, clears, hcurrent, replace]
      · simp [apply, logoutIfCurrent, entry, changesLogin, signsIn, clears, hcurrent]

theorem generation_run (store : Store) (events : List SessionEvent) :
    (store.run events).generation =
      store.generation + loginChangesFrom store.session (store.log events) := by
  induction events generalizing store with
  | nil => rfl
  | cons event events ih =>
      rw [run_cons, ih, generation_apply, session_apply, log_cons, loginChangesFrom, Nat.add_assoc]

/-- A store that began as a new one has the generation and the session that its log
tells of. -/
theorem run_initial (events : List SessionEvent) :
    (initial.run events).generation = loginChanges (initial.log events) ∧
      (initial.run events).session = account (initial.log events) := by
  have hstart : initial.session = account [] := rfl
  exact ⟨by rw [generation_run, loginChanges, initial, Nat.zero_add],
    session_run_eq_account hstart events⟩

end Store

namespace Desk

/-- The log of all that a run from the first desk performs on one store. -/
def logOf (number : Nat) (commands : List DeskCommand) : List LogEntry :=
  Store.initial.log (initial.eventsOn number commands)

/-- A store that a handle leads to, after a run from the first desk, is as its log tells. -/
theorem getElem?_run_initial {commands : List DeskCommand} {handle number : Nat}
    (htarget : (initial.run commands).target? handle = some number) :
    ∃ store, (initial.run commands).stores[number]? = some store ∧
      store.generation = LogEntry.loginChanges (logOf number commands) ∧
      store.session = LogEntry.account (logOf number commands) := by
  have hlt := hasTargets_initial.run commands number (mem_handles_of_target? htarget)
  have hstore := List.getElem?_eq_getElem hlt
  have hrun := hasTargets_initial.stores_run number commands
  have hfirst : initial.stores[number]?.getD .initial = .initial := by
    cases number <;> rfl
  rw [hstore, Option.getD_some, hfirst] at hrun
  refine ⟨_, hstore, ?_⟩
  rw [hrun]
  exact Store.run_initial _

/-- What a refresh completed under a ticket that lies on the desk answers. -/
theorem perform_completeRefresh {desk : Desk} {handle number : Nat} {store : Store}
    {name : String} {ticket : Ticket} (htarget : desk.target? handle = some number)
    (hstore : desk.stores[number]? = some store)
    (hticket : named? name desk.tickets = some ticket) (token : AccessToken) :
    desk.perform (.through handle (.completeRefresh name token)) =
      if store.generation = ticket.generation ∧ store.session.authenticated = true then
        .ok (desk.setStore number (store.setToken token), .verdict true)
      else .ok (desk, .verdict false) := by
  simp only [perform, htarget, hstore, performThrough, hticket]
  cases hverdict : (store.completeRefresh ticket token).2 with
  | true =>
      rw [Store.completeRefresh_of_true hverdict, if_pos]
      simpa [Store.isCurrent] using hverdict
  | false =>
      rw [Store.completeRefresh_of_false hverdict, setStore_of_getElem? hstore, if_neg]
      simpa [Store.isCurrent] using hverdict

/-- What a sign-out under a ticket that lies on the desk answers. -/
theorem perform_logoutIfCurrent {desk : Desk} {handle number : Nat} {store : Store}
    {name : String} {ticket : Ticket} (htarget : desk.target? handle = some number)
    (hstore : desk.stores[number]? = some store)
    (hticket : named? name desk.tickets = some ticket) :
    desk.perform (.through handle (.logoutIfCurrent name)) =
      if store.generation = ticket.generation ∧ store.session.isCleared = false then
        .ok (desk.setStore number (store.replace .cleared), .verdict true)
      else .ok (desk, .verdict false) := by
  simp only [perform, htarget, hstore, performThrough, hticket]
  split
  · rename_i hcurrent
    simp [Store.logoutIfCurrent, hcurrent]
  · rename_i hcurrent
    simp [Store.logoutIfCurrent, hcurrent, setStore_of_getElem? hstore]

/-- A ticket is put aside where someone is signed in. It holds the generation. -/
theorem issued_ticket {desk issued : Desk} {handle : Nat} {name : String} {ticket : Ticket}
    (hissued : desk.perform (.through handle (.beginRefresh name)) =
      .ok (issued, .ticket (some ticket))) :
    ∃ number store, desk.target? handle = some number ∧ desk.stores[number]? = some store ∧
      store.session.authenticated = true ∧ ticket = ⟨store.generation⟩ := by
  simp only [perform] at hissued
  split at hissued
  case h_2 => cases hissued
  case h_1 number htarget =>
    split at hissued
    case h_2 => cases hissued
    case h_1 store hstore =>
      simp only [performThrough] at hissued
      split at hissued
      case h_2 => cases hissued
      case h_1 given hgiven =>
        cases hissued
        obtain ⟨hin, hticket⟩ := Store.beginRefresh_eq_some_iff.1 hgiven
        exact ⟨number, store, htarget, hstore, hin, hticket⟩

end Desk

open LogEntry Desk in
/-- A ticket issued by any store of a desk and shown to any store later. The other store
takes it exactly when its own log has changed the login as often by then as the log of
the issuing store had at the issue, and when someone is signed in there or, for a
sign-out, its session is not cleared. What it takes puts the token into the session that
is there or clears that session; what it refuses leaves the desk as it was. A store in
which nobody ever signed in or out refuses every ticket. -/
theorem ticket_accepted_iff_counts_agree (before after : List DeskCommand) (own other : Nat)
    (home away : Nat) (name : String) (ticket : Ticket) (issued : Desk)
    (hhome : (Desk.initial.run before).target? own = some home)
    (hissued : (Desk.initial.run before).perform (.through own (.beginRefresh name)) =
      .ok (issued, .ticket (some ticket)))
    (haway : (issued.run after).target? other = some away)
    (hticket : named? name (issued.run after).tickets = some ticket) :
    let now := issued.run after
    let atIssue := loginChanges (logOf home before)
    let log := logOf away (before ++ .through own (.beginRefresh name) :: after)
    0 < atIssue ∧
      ∃ store, now.stores[away]? = some store ∧ store.session = account log ∧
        (∀ token, now.perform (.through other (.completeRefresh name token)) =
          if loginChanges log = atIssue ∧ (account log).authenticated = true then
            .ok (now.setStore away (store.setToken token), .verdict true)
          else .ok (now, .verdict false)) ∧
        now.perform (.through other (.logoutIfCurrent name)) =
          if loginChanges log = atIssue ∧ (account log).isCleared = false then
            .ok (now.setStore away (store.replace .cleared), .verdict true)
          else .ok (now, .verdict false) := by
  intro now atIssue log
  have hnow : now = Desk.initial.run (before ++ .through own (.beginRefresh name) :: after) := by
    rw [run_append, run_cons, act_of_ok hissued]
  obtain ⟨number, issuer, htarget, hissuer, hin, rfl⟩ := issued_ticket hissued
  obtain rfl : number = home := Option.some.inj (htarget.symm.trans hhome)
  obtain ⟨_, hsame, hcount, haccount⟩ := getElem?_run_initial hhome
  obtain rfl := Option.some.inj (hissuer.symm.trans hsame)
  change now.target? other = some away at haway
  rw [hnow] at haway
  obtain ⟨store, hstore, hgeneration, hsession⟩ := getElem?_run_initial haway
  rw [← hnow] at haway hstore
  change store.generation = loginChanges log at hgeneration
  change store.session = account log at hsession
  change issuer.generation = atIssue at hcount
  refine ⟨loginChanges_pos (haccount ▸ hin), store, hstore, hsession, fun token => ?_, ?_⟩
  · rw [perform_completeRefresh haway hstore hticket, hgeneration, hcount, hsession]
  · rw [perform_logoutIfCurrent haway hstore hticket, hgeneration, hcount, hsession]

open LogEntry Desk in
/-- One store counts two sign-ins and refuses a ticket that another issued after one. -/
theorem ticket_refused_where_counts_differ :
    let before : List DeskCommand := [.through 0 (.setAuth (.ok { id := "a" }) ⟨"ta"⟩), .create,
      .through 1 (.setAuth (.ok { id := "b" }) ⟨"tb"⟩)]
    let after : List DeskCommand := [.through 1 (.setAuth (.ok { id := "c" }) ⟨"tc"⟩)]
    let issued := (Desk.initial.run before).act (.through 0 (.beginRefresh "x"))
    let now := issued.run after
    ((Desk.initial.run before).target? 0 = some 0 ∧
      (Desk.initial.run before).perform (.through 0 (.beginRefresh "x")) =
        .ok (issued, .ticket (some ⟨1⟩)) ∧
      now.target? 1 = some 1 ∧ named? "x" now.tickets = some ⟨1⟩) ∧
      loginChanges (logOf 0 before) = 1 ∧
      loginChanges (logOf 1 (before ++ .through 0 (.beginRefresh "x") :: after)) = 2 ∧
      now.perform (.through 1 (.completeRefresh "x" ⟨"new"⟩)) = .ok (now, .verdict false) ∧
      now.perform (.through 1 (.logoutIfCurrent "x")) = .ok (now, .verdict false) := by
  intro before after issued now
  have hhome : (Desk.initial.run before).target? 0 = some 0 := by decide
  have hissued : (Desk.initial.run before).perform (.through 0 (.beginRefresh "x")) =
      .ok (issued, .ticket (some ⟨1⟩)) := rfl
  have haway : now.target? 1 = some 1 := by decide
  have hticket : named? "x" now.tickets = some ⟨1⟩ := by decide
  obtain ⟨-, store, -, -, hcomplete, hlogout⟩ := ticket_accepted_iff_counts_agree before after 0 1
    0 1 "x" ⟨1⟩ issued hhome hissued haway hticket
  have hone : loginChanges (logOf 0 before) = 1 := by decide
  have htwo : loginChanges (logOf 1 (before ++ .through 0 (.beginRefresh "x") :: after)) = 2 := by
    decide
  refine ⟨⟨hhome, hissued, haway, hticket⟩, hone, htwo, ?_, ?_⟩
  · rw [hcomplete, hone, htwo, if_neg (by decide)]
  · rw [hlogout, hone, htwo, if_neg (by decide)]

/-- Two stores with one sign-in each: the ticket of one lets a token into the session of
the other, and signs the other out. -/
theorem token_reaches_other_session :
    let now := Desk.initial.run [.through 0 (.setAuth (.ok { id := "a" }) ⟨"ta"⟩), .create,
      .through 1 (.setAuth (.ok { id := "b" }) ⟨"tb"⟩), .through 0 (.beginRefresh "x")]
    now.target? 0 = some 0 ∧ now.target? 1 = some 1 ∧
      (now.stores[1]?.map (·.session)) = some ⟨some { id := "b" }, some ⟨"tb"⟩, true, false⟩ ∧
      (∃ after, now.perform (.through 1 (.completeRefresh "x" ⟨"new"⟩)) =
          .ok (after, .verdict true) ∧
        after.stores[1]?.map (·.session) =
          some ⟨some { id := "b" }, some ⟨"new"⟩, true, false⟩) ∧
      ∃ after, now.perform (.through 1 (.logoutIfCurrent "x")) = .ok (after, .verdict true) ∧
        after.stores[1]?.map (·.session) = some .cleared := by
  intro now
  refine ⟨by decide, by decide, rfl, ⟨_, rfl, rfl⟩, ⟨_, rfl, rfl⟩⟩

end SignedAccess
