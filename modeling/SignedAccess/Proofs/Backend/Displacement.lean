/-
# Calls whose login is gone

A call that refreshes under a ticket was begun for one login. Others may sign in
or out while its requests are under way, and from then on the call must leave the
session to them. `session_of_displaced_call` says so of every such call: the
session afterwards is the one at the moment of the displacement, changed by what
others did from then on and by nothing else.
-/

import SignedAccess.Proofs.Backend.Shown

namespace SignedAccess

open SessionChange

/-- An operation that puts an end to the login in a store: a sign-in, or a
sign-out of a session that is not cleared yet. -/
def SessionEvent.displaces (store : Store) : SessionEvent → Bool
  | .setAuth _ _ => true
  | .logout => !store.session.isCleared
  | _ => false

theorem SessionEvent.generation_lt_of_displaces {store : Store} {event : SessionEvent}
    (hdisplaces : event.displaces store = true) :
    store.generation < (store.apply event).1.generation := by
  cases event with
  | setAuth user token => exact Nat.lt_succ_self _
  | logout =>
      have huncleared : store.session.isCleared = false := by
        simpa [displaces] using hdisplaces
      simp [Store.apply, Store.logout, huncleared, Store.replace]
  | _ => cases hdisplaces

/-- After others have displaced the login, what the call puts is what is there. -/
theorem Follows.idle_of_displaced {store : Store} {line : Line SessionEvent}
    {talk : Talk WatchedSession SessionEvent}
    (hfollows : Follows ⟨store.generation⟩ store line talk)
    {before after : List SessionChange} {event : SessionEvent}
    (hchanges : talk.session.changes = before ++ .others event :: after)
    (hdisplaces : event.displaces (store.replay before) = true) :
    (∀ middle put rest, after = middle ++ .own put :: rest →
        put = (store.replay (before ++ [.others event])).replay middle) ∧
      talk.session.store = (store.replay (before ++ [.others event])).run (othersIn after) := by
  have hsplit : talk.session.changes = (before ++ [.others event]) ++ after := by
    rw [hchanges, List.append_assoc, List.singleton_append]
  have hunder := hfollows.under
  rw [hsplit, ownUnder_append] at hunder
  have hpast : store.generation < (store.replay (before ++ [.others event])).generation := by
    have hearlier := generation_le_replay (ownUnder_append.1 hunder.1).1
    have hlater := SessionEvent.generation_lt_of_displaces hdisplaces
    rw [Store.replay_append]
    exact Nat.lt_of_le_of_lt hearlier hlater
  constructor
  · rintro middle put rest rfl
    obtain ⟨hmiddle, hallows, -⟩ := ownUnder_append.1 hunder.2
    have hstays := generation_le_replay hmiddle
    exact hallows.idle_of_ne (Nat.ne_of_gt (Nat.lt_of_lt_of_le hpast hstays))
  · rw [hfollows.replayed, hsplit, Store.replay_append]
    exact replay_eq_run_of_lt hunder.2 hpast

/-- Watch the session during a call under a ticket. The call ends as it does when
nobody watches, and others have done what stands in the turns that it used. Once
one of their operations has displaced the login, the call makes no further change:
whatever it puts is what is there already, and the session ends as the store at
that moment after the rest of what others do. -/
theorem session_of_displaced_call {α : Type} (client : BackendClient) (call : TicketedCall α)
    (store : Store) (line : Line SessionEvent) :
    let ending := call.run client .watched ⟨.start store, line, []⟩
    let changes := ending.session.changes
    (call.run client .alone ⟨store, line, []⟩).session = ending.session.store ∧
    (∃ used, ending.line.turns = line.turns.drop used ∧
      othersIn changes = (line.turns.take used).flatMap (·.meanwhile)) ∧
    ∀ before event after, changes = before ++ .others event :: after →
      event.displaces (store.replay before) = true →
      let moment := store.replay (before ++ [.others event])
      (∀ middle put rest, after = middle ++ .own put :: rest → put = moment.replay middle) ∧
        ending.session.store = moment.run (othersIn after) := by
  intro ending changes
  have hfollows : Follows ⟨store.generation⟩ store line ending := Follows.run client store line call
  have hshown := Stage.shows_watched.run client call ⟨.start store, line, []⟩
  refine ⟨congrArg Talk.session hshown, hfollows.turns, ?_⟩
  intro before event after hchanges hdisplaces
  exact hfollows.idle_of_displaced hchanges hdisplaces

end SignedAccess
