/-
# The log of a run

A run of operations on a store leaves a log: every operation with the answer
that it got. Some entries supersede the login at which an earlier ticket was
issued, and some clear the session. Both are told from the entry alone, without
a look at the store.

The main statement says what superseding has to do with the generation: from a
store where someone is signed in, the generation is the same after a run exactly
when no entry of its log supersedes the login.
-/

import SignedAccess.Session.Store

namespace SignedAccess

/-- An operation of a run and what it answered. -/
structure LogEntry where
  event : SessionEvent
  reply : SessionReply

namespace LogEntry

/-- After the entry the session is cleared, whatever it was before: a sign-out,
or the sign-out of a ticket's login that took effect. -/
def clears : LogEntry → Bool
  | ⟨.logout, _⟩ => true
  | ⟨.logoutIfCurrent _, .verdict true⟩ => true
  | _ => false

/-- The entry signs in. -/
def signsIn : LogEntry → Bool
  | ⟨.setAuth _ _, _⟩ => true
  | _ => false

/-- The login before the entry is not the current one after it. -/
def supersedes (entry : LogEntry) : Bool := entry.signsIn || entry.clears

end LogEntry

namespace Store

/-- The entry of one operation on a store. -/
def entry (store : Store) (event : SessionEvent) : LogEntry := ⟨event, (store.apply event).2⟩

/-- The log of a run. -/
def log (store : Store) : List SessionEvent → List LogEntry
  | [] => []
  | event :: events => store.entry event :: (store.apply event).1.log events

@[simp]
theorem log_nil (store : Store) : store.log [] = [] := rfl

@[simp]
theorem log_cons (store : Store) (event : SessionEvent) (events : List SessionEvent) :
    store.log (event :: events) = store.entry event :: (store.apply event).1.log events := rfl

theorem log_append (store : Store) (before after : List SessionEvent) :
    store.log (before ++ after) = store.log before ++ (store.run before).log after := by
  induction before generalizing store with
  | nil => rfl
  | cons event before ih => simp [ih]

/-- The log up to a place is the log of the operations up to it. -/
theorem take_log (store : Store) (events : List SessionEvent) (n : Nat) :
    (store.log events).take n = store.log (events.take n) := by
  induction events generalizing store n with
  | nil => simp
  | cons event events ih =>
      cases n with
      | zero => simp
      | succ n => simp [ih]

/-- The log from a place on is the log of the other operations from the store
that is reached there. -/
theorem drop_log (store : Store) (events : List SessionEvent) (n : Nat) :
    (store.log events).drop n = (store.run (events.take n)).log (events.drop n) := by
  induction events generalizing store n with
  | nil => simp
  | cons event events ih =>
      cases n with
      | zero => simp
      | succ n => simp [ih]

/-- The entry at a place is the one that its operation leaves in the store that
is reached there. -/
theorem getElem?_log (store : Store) (events : List SessionEvent) (n : Nat) :
    (store.log events)[n]? = events[n]?.map (store.run (events.take n)).entry := by
  induction events generalizing store n with
  | nil => simp
  | cons event events ih =>
      cases n with
      | zero => simp
      | succ n => simp [ih]

/-! ### What superseding does to the generation -/

/-- An entry that does not supersede leaves the generation alone, and whoever was
signed in still is. -/
theorem apply_of_not_supersedes {store : Store} {event : SessionEvent}
    (hkeeps : (store.entry event).supersedes = false) :
    (store.apply event).1.generation = store.generation ∧
      (store.apply event).1.session.authenticated = store.session.authenticated := by
  cases event with
  | setAuth user token => simp [entry, LogEntry.supersedes, LogEntry.signsIn] at hkeeps
  | setUser user => exact ⟨rfl, rfl⟩
  | setToken token => exact ⟨rfl, rfl⟩
  | logout => simp [entry, LogEntry.supersedes, LogEntry.clears] at hkeeps
  | setLoading loading =>
      by_cases hidle : store.session.loading = loading ∨ loading = true
      · simp [apply, setLoading, hidle]
      · simp [apply, setLoading, hidle, revise]
  | beginRefresh => exact ⟨rfl, rfl⟩
  | completeRefresh ticket token =>
      by_cases hcurrent : store.isCurrent ticket = true
      · simp [apply, completeRefresh, hcurrent, revise]
      · simp [apply, completeRefresh, hcurrent]
  | logoutIfCurrent ticket =>
      by_cases hcurrent : store.generation = ticket.generation ∧ store.session.isCleared = false
      · simp [entry, apply, logoutIfCurrent, hcurrent, LogEntry.supersedes, LogEntry.clears]
          at hkeeps
      · simp [apply, logoutIfCurrent, hcurrent]

/-- No operation takes the generation back. -/
theorem generation_le_apply (store : Store) (event : SessionEvent) :
    store.generation ≤ (store.apply event).1.generation := by
  cases event with
  | setAuth user token => exact Nat.le_succ _
  | setUser user => exact Nat.le_refl _
  | setToken token => exact Nat.le_refl _
  | logout =>
      simp only [apply, logout]
      split
      · exact Nat.le_refl _
      · exact Nat.le_succ _
  | setLoading loading =>
      simp only [apply, setLoading]
      split <;> exact Nat.le_refl _
  | beginRefresh => exact Nat.le_refl _
  | completeRefresh ticket token =>
      simp only [apply, completeRefresh]
      split <;> exact Nat.le_refl _
  | logoutIfCurrent ticket =>
      simp only [apply, logoutIfCurrent]
      split
      · exact Nat.le_succ _
      · exact Nat.le_refl _

/-- No run takes the generation back. -/
theorem generation_le_run (store : Store) (events : List SessionEvent) :
    store.generation ≤ (store.run events).generation := by
  induction events generalizing store with
  | nil => exact Nat.le_refl _
  | cons event events ih =>
      exact Nat.le_trans (generation_le_apply store event) (ih (store.apply event).1)

/-- Who is signed in holds a session that is not cleared. -/
theorem isCleared_of_authenticated {store : Store} (hin : store.session.authenticated = true) :
    store.session.isCleared = false := by
  simp [Session.isCleared, hin]

/-- Where someone is signed in, an entry that supersedes begins a new generation. -/
theorem generation_of_supersedes {store : Store} {event : SessionEvent}
    (hin : store.session.authenticated = true)
    (hsupersedes : (store.entry event).supersedes = true) :
    (store.apply event).1.generation = store.generation + 1 := by
  have huncleared := isCleared_of_authenticated hin
  cases event with
  | setAuth user token => rfl
  | logout => simp [apply, logout, huncleared, replace]
  | logoutIfCurrent ticket =>
      by_cases hcurrent : store.generation = ticket.generation
      · simp [apply, logoutIfCurrent, hcurrent, huncleared, replace]
      · simp [entry, apply, logoutIfCurrent, hcurrent, LogEntry.supersedes, LogEntry.signsIn,
          LogEntry.clears] at hsupersedes
  | _ => simp [entry, apply, LogEntry.supersedes, LogEntry.signsIn, LogEntry.clears] at hsupersedes

/-- From a store where someone is signed in, a run that no entry supersedes keeps
the generation and the login; any other run ends in a later generation. -/
theorem generation_run_cases {store : Store} (hin : store.session.authenticated = true)
    (events : List SessionEvent) :
    if (store.log events).all (!·.supersedes) then
      (store.run events).generation = store.generation ∧
        (store.run events).session.authenticated = true
    else store.generation < (store.run events).generation := by
  induction events generalizing store with
  | nil => simpa using hin
  | cons event events ih =>
      rw [log_cons, List.all_cons, run_cons]
      cases hevent : (store.entry event).supersedes with
      | false =>
          obtain ⟨hgeneration, hlogin⟩ := apply_of_not_supersedes hevent
          rw [hin] at hlogin
          simpa [hgeneration] using ih hlogin
      | true =>
          have hnext := generation_of_supersedes hin hevent
          have hlater := generation_le_run (store.apply event).1 events
          simp only [Bool.not_true, Bool.false_and, Bool.false_eq_true, if_false]
          omega

end Store

end SignedAccess
