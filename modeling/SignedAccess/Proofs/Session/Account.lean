/-
# What a log tells of the session

A session is what its log says: the user is the one of the last entry that brought
one since the session was last cleared, and so is the token; someone is signed in
when an entry since then signed in; and the session loads until the first entry
that ends loading. `LogEntry.account` computes this from the log alone, and
`session_run_eq_account` says that every run from a new store ends in just that
session.
-/

import SignedAccess.Proofs.Session.Log

namespace SignedAccess

namespace LogEntry

/-- The entries after the last one that cleared the session. -/
def sinceCleared (log : List LogEntry) : List LogEntry :=
  (log.reverse.takeWhile (!·.clears)).reverse

/-- The user that an entry brings. -/
def user? : LogEntry → Option User
  | ⟨.setAuth user _, _⟩ => some user
  | ⟨.setUser user, _⟩ => some user
  | _ => none

/-- The token that an entry brings. That of a refresh counts if it was applied. -/
def token? : LogEntry → Option AccessToken
  | ⟨.setAuth _ token, _⟩ => some token
  | ⟨.setToken token, _⟩ => some token
  | ⟨.completeRefresh _ token, .verdict true⟩ => some token
  | _ => none

/-- After the entry the session does not load. -/
def endsLoading : LogEntry → Bool
  | ⟨.setLoading false, _⟩ => true
  | entry => entry.supersedes

/-- The session after an entry, told from the entry and the session before it. -/
def change (entry : LogEntry) (session : Session) : Session :=
  if entry.clears then .cleared
  else {
    user := entry.user?.or session.user
    token := entry.token?.or session.token
    authenticated := session.authenticated || entry.signsIn
    loading := session.loading && !entry.endsLoading }

/-- The session that a log tells of. -/
def account (log : List LogEntry) : Session where
  user := ((sinceCleared log).filterMap user?).getLast?
  token := ((sinceCleared log).filterMap token?).getLast?
  authenticated := (sinceCleared log).any signsIn
  loading := !log.any endsLoading

theorem sinceCleared_concat (log : List LogEntry) (entry : LogEntry) :
    sinceCleared (log ++ [entry]) =
      if entry.clears then [] else sinceCleared log ++ [entry] := by
  cases hclears : entry.clears <;> simp [sinceCleared, hclears]

theorem endsLoading_of_clears {entry : LogEntry} (hclears : entry.clears = true) :
    entry.endsLoading = true := by
  unfold endsLoading
  split
  · rfl
  · simp [supersedes, hclears]

theorem endsLoading_of_signsIn {entry : LogEntry} (hsigns : entry.signsIn = true) :
    entry.endsLoading = true := by
  unfold endsLoading
  split
  · rfl
  · simp [supersedes, hsigns]

/-- One more entry changes what the log tells as it changes the session. -/
theorem account_concat (log : List LogEntry) (entry : LogEntry) :
    account (log ++ [entry]) = entry.change (account log) := by
  cases hclears : entry.clears with
  | true =>
      simp [account, change, sinceCleared_concat, hclears, endsLoading_of_clears hclears,
        Session.cleared]
  | false =>
      cases huser : entry.user? <;> cases htoken : entry.token? <;>
        simp [account, change, sinceCleared_concat, hclears, huser, htoken]

end LogEntry

namespace Store

open LogEntry

/-- One operation changes the session as its entry tells. -/
theorem session_apply (store : Store) (event : SessionEvent) :
    (store.apply event).1.session = (store.entry event).change store.session := by
  cases event with
  | setAuth user token =>
      simp [apply, entry, setAuth, replace, change, clears, user?, token?, signsIn, endsLoading,
        supersedes]
  | setUser user =>
      simp [apply, entry, setUser, revise, change, clears, user?, token?, signsIn, endsLoading,
        supersedes]
  | setToken token =>
      simp [apply, entry, setToken, revise, change, clears, user?, token?, signsIn, endsLoading,
        supersedes]
  | logout =>
      have hentry : (store.entry .logout).change store.session = .cleared := rfl
      rw [hentry]
      cases hcleared : store.session.isCleared with
      | false => simp [apply, logout, hcleared, replace]
      | true => simpa [apply, logout, hcleared] using (Session.isCleared_iff _).1 hcleared
  | setLoading loading =>
      cases loading <;> cases hloading : store.session.loading <;>
        simp [apply, entry, setLoading, revise, change, clears, user?, token?, signsIn,
          endsLoading, supersedes, hloading]
      all_goals rw [← hloading]
  | beginRefresh =>
      simp [apply, entry, change, clears, user?, token?, signsIn, endsLoading, supersedes]
  | completeRefresh ticket token =>
      cases hcurrent : store.isCurrent ticket <;>
        simp [apply, entry, completeRefresh, hcurrent, revise, change, clears, user?, token?,
          signsIn, endsLoading, supersedes]
  | logoutIfCurrent ticket =>
      by_cases hcurrent : store.generation = ticket.generation ∧ store.session.isCleared = false
      · simp [apply, entry, logoutIfCurrent, hcurrent, replace, change, clears]
      · simp [apply, entry, logoutIfCurrent, hcurrent, change, clears, user?, token?, signsIn,
          endsLoading, supersedes]

/-- A run from a store whose session is the one that a log tells of ends in the
session that the longer log tells of. -/
theorem session_run_eq_account {store : Store} {log : List LogEntry}
    (haccount : store.session = account log) (events : List SessionEvent) :
    (store.run events).session = account (log ++ store.log events) := by
  induction events generalizing store log with
  | nil => simpa using haccount
  | cons event events ih =>
      have hnext : (store.apply event).1.session = account (log ++ [store.entry event]) := by
        rw [session_apply, account_concat, haccount]
      rw [run_cons, ih hnext, log_cons, List.append_assoc, List.singleton_append]

end Store

namespace LogEntry

/-! ### What every account is like -/

theorem mem_of_mem_sinceCleared {log : List LogEntry} {entry : LogEntry}
    (hmem : entry ∈ sinceCleared log) : entry ∈ log := by
  have hrev := (List.takeWhile_sublist _).mem (List.mem_reverse.1 hmem)
  exact List.mem_reverse.1 hrev

/-- Where a log tells of someone signed in, it tells of user and token too, and
loading is over. -/
theorem account_of_authenticated {log : List LogEntry}
    (hin : (account log).authenticated = true) :
    (account log).user.isSome = true ∧ (account log).token.isSome = true ∧
      (account log).loading = false := by
  obtain ⟨entry, hmem, hsigns⟩ := List.any_eq_true.1 hin
  have hends : log.any endsLoading = true :=
    List.any_eq_true.2 ⟨entry, mem_of_mem_sinceCleared hmem, endsLoading_of_signsIn hsigns⟩
  obtain ⟨event, reply⟩ := entry
  cases event with
  | setAuth user token =>
      have huser : user ∈ (sinceCleared log).filterMap user? :=
        List.mem_filterMap.2 ⟨_, hmem, rfl⟩
      have htoken : token ∈ (sinceCleared log).filterMap token? :=
        List.mem_filterMap.2 ⟨_, hmem, rfl⟩
      refine ⟨?_, ?_, by simp [account, hends]⟩
      · exact List.getLast?_isSome.2 (List.ne_nil_of_mem huser)
      · exact List.getLast?_isSome.2 (List.ne_nil_of_mem htoken)
  | _ => cases hsigns

/-- A log tells of a session that is still resolving exactly when nothing has
ended loading. -/
theorem phase_account_eq_resolving_iff {log : List LogEntry} :
    (account log).phase = .resolving ↔ (account log).loading = true := by
  cases hin : (account log).authenticated with
  | true => simp [Session.phase, hin, (account_of_authenticated hin).2.2]
  | false => cases hloading : (account log).loading <;> simp [Session.phase, hin, hloading]

/-- Loading that has ended does not come back with more entries. -/
theorem loading_account_append {log : List LogEntry} (hended : (account log).loading = false)
    (more : List LogEntry) : (account (log ++ more)).loading = false := by
  simp only [account, Bool.not_eq_false'] at hended ⊢
  rw [List.any_append, hended, Bool.true_or]

end LogEntry

open LogEntry in
/-- A run from a new store ends in the session that its log tells of. So who is
signed in has a user and a token and loads no more, and a session that has left
the resolving phase does not come back to it. -/
theorem session_eq_account (events : List SessionEvent) :
    let session := (Store.initial.run events).session
    session = account (Store.initial.log events) ∧
      (session.authenticated = true →
        session.user.isSome = true ∧ session.token.isSome = true ∧ session.loading = false) ∧
      (session.phase ≠ .resolving →
        ∀ more, (Store.initial.run (events ++ more)).session.phase ≠ .resolving) := by
  intro session
  have hstart : Store.initial.session = account [] := rfl
  have haccount : session = account (Store.initial.log events) :=
    Store.session_run_eq_account hstart events
  refine ⟨haccount, ?_, ?_⟩
  · intro hin
    rw [haccount] at hin ⊢
    exact account_of_authenticated hin
  · intro hleft more
    rw [haccount, Ne, phase_account_eq_resolving_iff, Bool.not_eq_true] at hleft
    rw [Store.session_run_eq_account hstart (events ++ more), Ne, phase_account_eq_resolving_iff,
      Bool.not_eq_true, List.nil_append, Store.log_append]
    exact loading_account_append hleft _

end SignedAccess
