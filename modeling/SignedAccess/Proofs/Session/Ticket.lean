/-
# How long a ticket is good

A ticket is good from its issue until an entry of the log supersedes the login:
a sign-in, a sign-out, or the sign-out of a ticket's login that took effect.
`ticket_good_iff_undisturbed` says this of whole runs, with all other operations
in between and with any tickets in them: a refresh under the ticket is applied, a
sign-out under it takes effect, and a ticket issued later equals it, each exactly
when nothing in between supersedes the login. An applied refresh changes the
token alone, and a refused one leaves the desk with all its receivers as it was.
-/

import SignedAccess.Proofs.Session.Log
import SignedAccess.Session.Desk

namespace SignedAccess

/-- The entries strictly between two places of a log. -/
def LogEntry.between (log : List LogEntry) (i j : Nat) : List LogEntry :=
  (log.take j).drop (i + 1)

/-- No entry strictly between two places supersedes the login. -/
def LogEntry.isUndisturbed (log : List LogEntry) (i j : Nat) : Bool :=
  (LogEntry.between log i j).all (!·.supersedes)

/-- A command that is done under a ticket put aside before. -/
def StoreCommand.isTicketed : StoreCommand → Bool
  | .completeRefresh _ _ => true
  | .logoutIfCurrent _ => true
  | _ => false

namespace Store

/-! ### One call under a ticket -/

@[simp]
theorem completeRefresh_snd (store : Store) (ticket : Ticket) (token : AccessToken) :
    (store.completeRefresh ticket token).2 = store.isCurrent ticket := by
  unfold completeRefresh
  split <;> simp_all

@[simp]
theorem logoutIfCurrent_snd (store : Store) (ticket : Ticket) :
    (store.logoutIfCurrent ticket).2 =
      decide (store.generation = ticket.generation ∧ store.session.isCleared = false) := by
  unfold logoutIfCurrent
  split <;> simp_all

theorem completeRefresh_of_false {store : Store} {ticket : Ticket} {token : AccessToken}
    (hrefused : (store.completeRefresh ticket token).2 = false) :
    (store.completeRefresh ticket token).1 = store := by
  unfold completeRefresh at hrefused ⊢
  split <;> simp_all

theorem completeRefresh_of_true {store : Store} {ticket : Ticket} {token : AccessToken}
    (happlied : (store.completeRefresh ticket token).2 = true) :
    (store.completeRefresh ticket token).1 = store.setToken token := by
  unfold completeRefresh at happlied ⊢
  split
  · rfl
  · simp_all

theorem logoutIfCurrent_of_false {store : Store} {ticket : Ticket}
    (hrefused : (store.logoutIfCurrent ticket).2 = false) :
    (store.logoutIfCurrent ticket).1 = store := by
  unfold logoutIfCurrent at hrefused ⊢
  split <;> simp_all

/-! ### One login and a run after it -/

section

variable {store : Store} (hin : store.session.authenticated = true) (events : List SessionEvent)

include hin

theorem generation_run_eq_iff :
    (store.run events).generation = store.generation ↔
      (store.log events).all (!·.supersedes) = true := by
  have hcases := generation_run_cases hin events
  split at hcases
  · rename_i hkept
    exact iff_of_true hcases.1 hkept
  · rename_i hbroken
    exact iff_of_false (Nat.ne_of_gt hcases) hbroken

/-- In the generation of the login someone is still signed in. -/
theorem authenticated_run_of_generation_eq
    (hsame : (store.run events).generation = store.generation) :
    (store.run events).session.authenticated = true := by
  have hcases := generation_run_cases hin events
  split at hcases
  · exact hcases.2
  · omega

theorem completeRefresh_run_iff (token : AccessToken) :
    ((store.run events).completeRefresh ⟨store.generation⟩ token).2 = true ↔
      (store.log events).all (!·.supersedes) = true := by
  rw [← generation_run_eq_iff hin events, completeRefresh_snd, isCurrent, Bool.and_eq_true,
    beq_iff_eq]
  exact and_iff_left_of_imp (authenticated_run_of_generation_eq hin events)

theorem logoutIfCurrent_run_iff :
    ((store.run events).logoutIfCurrent ⟨store.generation⟩).2 = true ↔
      (store.log events).all (!·.supersedes) = true := by
  rw [← generation_run_eq_iff hin events, logoutIfCurrent_snd, decide_eq_true_eq]
  apply and_iff_left_of_imp
  intro hsame
  exact isCleared_of_authenticated (authenticated_run_of_generation_eq hin events hsame)

end

/-- A ticket is issued where someone is signed in, and holds the generation. -/
theorem beginRefresh_eq_some_iff {store : Store} {ticket : Ticket} :
    store.beginRefresh = some ticket ↔
      store.session.authenticated = true ∧ ticket = ⟨store.generation⟩ := by
  cases hin : store.session.authenticated with
  | false => simp [beginRefresh, hin]
  | true => simp [beginRefresh, hin, eq_comm]

/-! ### Places of a log -/

/-- What an entry of a log tells about the store in which it was made. -/
theorem apply_of_getElem?_log {start : Store} {events : List SessionEvent} {n : Nat}
    {event : SessionEvent} {reply : SessionReply}
    (hentry : (start.log events)[n]? = some ⟨event, reply⟩) :
    events[n]? = some event ∧ ((start.run (events.take n)).apply event).2 = reply := by
  rw [getElem?_log, Option.map_eq_some_iff] at hentry
  obtain ⟨other, hother, hmade⟩ := hentry
  rw [entry, LogEntry.mk.injEq] at hmade
  obtain ⟨rfl, hreply⟩ := hmade
  exact ⟨hother, hreply⟩

/-- The store one place further on. -/
theorem run_take_succ {events : List SessionEvent} {n : Nat} {event : SessionEvent}
    (hevent : events[n]? = some event) (start : Store) :
    start.run (events.take (n + 1)) = ((start.run (events.take n)).apply event).1 := by
  rw [List.take_add_one, hevent, run_append]
  rfl

/-- The stores at two places, with what happened between them. -/
theorem run_between (start : Store) (events : List SessionEvent) {i j : Nat} (hij : i < j) :
    let middle := (events.take j).drop (i + 1)
    start.run (events.take j) = (start.run (events.take (i + 1))).run middle ∧
      LogEntry.between (start.log events) i j =
        (start.run (events.take (i + 1))).log middle := by
  have hmin : min (i + 1) j = i + 1 := by omega
  have hfront : (events.take j).take (i + 1) = events.take (i + 1) := by
    rw [List.take_take, hmin]
  constructor
  · rw [← hfront, ← run_append, List.take_append_drop]
  · rw [LogEntry.between, take_log, drop_log, hfront]

/-- Where a ticket was issued someone was signed in, the ticket holds the
generation, and what follows is a run from there. -/
theorem issued_run {start : Store} {events : List SessionEvent} {i j : Nat} {ticket : Ticket}
    (hij : i < j)
    (hissued : (start.log events)[i]? = some ⟨.beginRefresh, .ticket (some ticket)⟩) :
    ∃ (store : Store) (middle : List SessionEvent), store.session.authenticated = true ∧
      ticket = ⟨store.generation⟩ ∧
      start.run (events.take j) = store.run middle ∧
      LogEntry.isUndisturbed (start.log events) i j =
        (store.log middle).all (!·.supersedes) := by
  obtain ⟨hevent, hreply⟩ := apply_of_getElem?_log hissued
  obtain ⟨hin, hticket⟩ := beginRefresh_eq_some_iff.1 (SessionReply.ticket.inj hreply)
  obtain ⟨hrun, hlog⟩ := run_between start events hij
  have hstay : start.run (events.take (i + 1)) = start.run (events.take i) :=
    run_take_succ hevent start
  rw [hstay] at hrun hlog
  exact ⟨_, _, hin, hticket, hrun, by rw [LogEntry.isUndisturbed, hlog]⟩

end Store

namespace Desk

/-- Putting back the store that is there changes nothing. -/
theorem setStore_of_getElem? {desk : Desk} {number : Nat} {store : Store}
    (hstore : desk.stores[number]? = some store) : desk.setStore number store = desk := by
  obtain ⟨hlt, rfl⟩ := List.getElem?_eq_some_iff.1 hstore
  simp [setStore]

/-- A refused call under a ticket leaves the desk as it was, receivers included. -/
theorem perform_of_refused {desk desk' : Desk} {handle : Nat} {command : StoreCommand}
    (hticketed : command.isTicketed = true)
    (hrefused : desk.perform (.through handle command) = .ok (desk', .verdict false)) :
    desk' = desk := by
  simp only [perform] at hrefused
  cases htarget : desk.target? handle with
  | none => simp [htarget] at hrefused
  | some number =>
      cases hstore : desk.stores[number]? with
      | none => simp [htarget, hstore] at hrefused
      | some store =>
          simp only [htarget, hstore] at hrefused
          cases command with
          | completeRefresh name token =>
              simp only [performThrough] at hrefused
              split at hrefused
              · simp only [Except.ok.injEq, Prod.mk.injEq, DeskReply.verdict.injEq] at hrefused
                obtain ⟨rfl, hverdict⟩ := hrefused
                rw [Store.completeRefresh_of_false hverdict, setStore_of_getElem? hstore]
              · cases hrefused
          | logoutIfCurrent name =>
              simp only [performThrough] at hrefused
              split at hrefused
              · simp only [Except.ok.injEq, Prod.mk.injEq, DeskReply.verdict.injEq] at hrefused
                obtain ⟨rfl, hverdict⟩ := hrefused
                rw [Store.logoutIfCurrent_of_false hverdict, setStore_of_getElem? hstore]
              · cases hrefused
          | _ => cases hticketed

end Desk

/-! ### Whole runs -/

open LogEntry in
/-- A ticket issued at one place of a run is good at a later place exactly when
nothing strictly between them supersedes the login: a refresh under it is
applied, a sign-out under it takes effect, and a ticket issued there equals it.
An applied refresh changes the token and nothing else of session and generation;
a call that is refused leaves session, generation, and every receiver alone. -/
theorem ticket_good_iff_undisturbed (events : List SessionEvent) (i j : Nat) (ticket : Ticket)
    (hij : i < j)
    (hissued : (Store.initial.log events)[i]? =
      some ⟨.beginRefresh, .ticket (some ticket)⟩) :
    let log := Store.initial.log events
    let before := Store.initial.run (events.take j)
    let after := Store.initial.run (events.take (j + 1))
    (∀ token reply, log[j]? = some ⟨.completeRefresh ticket token, reply⟩ →
      (reply = .verdict true ↔ isUndisturbed log i j = true) ∧
      (reply = .verdict true →
        after.session = { before.session with token := some token } ∧
          after.generation = before.generation) ∧
      (reply ≠ .verdict true → reply = .verdict false ∧ after = before)) ∧
    (∀ reply, log[j]? = some ⟨.logoutIfCurrent ticket, reply⟩ →
      (reply = .verdict true ↔ isUndisturbed log i j = true) ∧
      (reply ≠ .verdict true → reply = .verdict false ∧ after = before)) ∧
    (∀ other, log[j]? = some ⟨.beginRefresh, .ticket (some other)⟩ →
      (ticket = other ↔ isUndisturbed log i j = true)) ∧
    (∀ (desk desk' : Desk) (handle : Nat) (command : StoreCommand),
      command.isTicketed = true →
      desk.perform (.through handle command) = .ok (desk', .verdict false) → desk' = desk) := by
  intro log before after
  obtain ⟨store, middle, hin, rfl, hrun, hundisturbed⟩ := Store.issued_run hij hissued
  change before = store.run middle at hrun
  change isUndisturbed log i j = _ at hundisturbed
  rw [hundisturbed]
  refine ⟨?_, ?_, ?_, ?_⟩
  · intro token reply hentry
    obtain ⟨hevent, hreply⟩ := Store.apply_of_getElem?_log hentry
    have hafter : after = (before.completeRefresh ⟨store.generation⟩ token).1 :=
      Store.run_take_succ hevent Store.initial
    have hverdict : reply = .verdict (before.completeRefresh ⟨store.generation⟩ token).2 :=
      hreply.symm
    rw [hverdict, hafter, ← Store.completeRefresh_run_iff hin middle token, ← hrun]
    refine ⟨by simp, ?_, ?_⟩
    · intro happlied
      rw [Store.completeRefresh_of_true (by simpa using happlied)]
      exact ⟨rfl, rfl⟩
    · intro hrefused
      have hfalse : (before.completeRefresh ⟨store.generation⟩ token).2 = false := by
        simpa using hrefused
      exact ⟨by rw [hfalse], Store.completeRefresh_of_false hfalse⟩
  · intro reply hentry
    obtain ⟨hevent, hreply⟩ := Store.apply_of_getElem?_log hentry
    have hafter : after = (before.logoutIfCurrent ⟨store.generation⟩).1 :=
      Store.run_take_succ hevent Store.initial
    have hverdict : reply = .verdict (before.logoutIfCurrent ⟨store.generation⟩).2 :=
      hreply.symm
    rw [hverdict, hafter, ← Store.logoutIfCurrent_run_iff hin middle, ← hrun]
    refine ⟨by simp, ?_⟩
    intro hrefused
    have hfalse : (before.logoutIfCurrent ⟨store.generation⟩).2 = false := by
      simpa using hrefused
    exact ⟨by rw [hfalse], Store.logoutIfCurrent_of_false hfalse⟩
  · intro other hentry
    obtain ⟨-, hreply⟩ := Store.apply_of_getElem?_log hentry
    have hother := (Store.beginRefresh_eq_some_iff.1 (SessionReply.ticket.inj hreply)).2
    rw [hother, ← Store.generation_run_eq_iff hin middle, ← hrun, Ticket.mk.injEq]
    exact eq_comm
  · intro desk desk' handle command hticketed hrefused
    exact Desk.perform_of_refused hticketed hrefused

open LogEntry in
/-- A ticket outlives a change of the user and a foreign ticket that is refused,
and does not outlive a sign-out with another sign-in after it. -/
theorem ticket_good_until_logout :
    let events : List SessionEvent := [
      .setAuth { id := "a" } ⟨"t1"⟩, .beginRefresh, .setUser { id := "b" },
      .logoutIfCurrent ⟨9⟩, .completeRefresh ⟨1⟩ ⟨"t2"⟩, .logout,
      .setAuth { id := "c" } ⟨"t3"⟩, .logoutIfCurrent ⟨1⟩]
    let log := Store.initial.log events
    (1 < 4 ∧ 1 < 7 ∧ log[1]? = some ⟨.beginRefresh, .ticket (some ⟨1⟩)⟩) ∧
      isUndisturbed log 1 4 = true ∧ isUndisturbed log 1 7 = false := by
  intro events log
  have hissued : log[1]? = some ⟨.beginRefresh, .ticket (some ⟨1⟩)⟩ := rfl
  obtain ⟨happlied, -⟩ := ticket_good_iff_undisturbed events 1 4 ⟨1⟩ (by decide) hissued
  obtain ⟨-, hrefused, -⟩ := ticket_good_iff_undisturbed events 1 7 ⟨1⟩ (by decide) hissued
  refine ⟨⟨by decide, by decide, hissued⟩, ?_, ?_⟩
  · exact (happlied ⟨"t2"⟩ (.verdict true) rfl).1.1 rfl
  · have hverdict := (hrefused (.verdict false) rfl).1
    exact Bool.eq_false_iff.2 fun hgood => absurd (hverdict.2 hgood) (by decide)

end SignedAccess
