/-
# The timeline of a call

While a call is under way its session is changed by others and by the call
itself. A watched session keeps both kinds of changes in their order, so the
timeline tells what happened when. `Follows` is what every part of a call keeps:
the session is the one that its timeline leads to, what others did is what stands
in the turns that were used, and the call itself has changed the session only as
a ticket allows.
-/

import SignedAccess.Proofs.Backend.Call
import SignedAccess.Proofs.Session.Ticket

namespace SignedAccess

/-! ### Timelines -/

/-- One change of a session: an operation of others, or a store that the call
put in the place of the one before. -/
inductive SessionChange
  | others (event : SessionEvent)
  | own (put : Store)

namespace SessionChange

/-- The store after a change. -/
def apply (store : Store) : SessionChange → Store
  | .others event => (store.apply event).1
  | .own put => put

/-- What others did. -/
def event? : SessionChange → Option SessionEvent
  | .others event => some event
  | .own _ => none

/-- The operations of others in a timeline. -/
def othersIn (changes : List SessionChange) : List SessionEvent := changes.filterMap event?

@[simp]
theorem othersIn_append (before after : List SessionChange) :
    othersIn (before ++ after) = othersIn before ++ othersIn after :=
  List.filterMap_append

@[simp]
theorem othersIn_map_others (events : List SessionEvent) :
    othersIn (events.map .others) = events := by
  induction events with
  | nil => rfl
  | cons event events ih => exact congrArg (event :: ·) ih

end SessionChange

open SessionChange

/-- The store to which a timeline leads. -/
def Store.replay (store : Store) (changes : List SessionChange) : Store :=
  changes.foldl SessionChange.apply store

namespace Store

@[simp]
theorem replay_nil (store : Store) : store.replay [] = store := rfl

@[simp]
theorem replay_cons (store : Store) (change : SessionChange) (changes : List SessionChange) :
    store.replay (change :: changes) = (change.apply store).replay changes := rfl

theorem replay_append (store : Store) (before after : List SessionChange) :
    store.replay (before ++ after) = (store.replay before).replay after := by
  simp [replay, List.foldl_append]

theorem replay_map_others (store : Store) (events : List SessionEvent) :
    store.replay (events.map .others) = store.run events := by
  induction events generalizing store with
  | nil => rfl
  | cons event events ih => exact ih (store.apply event).1

end Store

/-- A session with the changes that were made to it, the earliest first. -/
structure WatchedSession where
  store : Store
  changes : List SessionChange

/-- A session before anything happens to it. -/
def WatchedSession.start (store : Store) : WatchedSession := ⟨store, []⟩

/-- A session that is kept by itself and watched. -/
def Stage.watched : Stage WatchedSession SessionEvent where
  view watch := watch.store
  put store watch := ⟨store, watch.changes ++ [.own store]⟩
  act watch event := ⟨(watch.store.apply event).1, watch.changes ++ [.others event]⟩

theorem Stage.acted_watched (watch : WatchedSession) (events : List SessionEvent) :
    Stage.watched.acted watch events =
      ⟨watch.store.run events, watch.changes ++ events.map .others⟩ := by
  induction events generalizing watch with
  | nil => simp [Stage.acted]
  | cons event events ih =>
      have hstep : Stage.watched.acted watch (event :: events) =
          Stage.watched.acted (Stage.watched.act watch event) events := rfl
      rw [hstep, ih]
      simp [Stage.watched]

/-! ### Changes under a ticket -/

/-- A change that a ticket allows: none, unless the ticket's generation is the
current one. -/
structure Ticket.Allows (ticket : Ticket) (store put : Store) : Prop where
  idle_of_ne : store.generation ≠ ticket.generation → put = store
  generation_le : store.generation ≤ put.generation

theorem Ticket.allows_completeRefresh (ticket : Ticket) (token : AccessToken) (store : Store) :
    ticket.Allows store (store.completeRefresh ticket token).1 where
  idle_of_ne hother := by
    apply Store.completeRefresh_of_false
    simp [Store.isCurrent, hother]
  generation_le := Store.generation_le_apply store (.completeRefresh ticket token)

theorem Ticket.allows_logoutIfCurrent (ticket : Ticket) (store : Store) :
    ticket.Allows store (store.logoutIfCurrent ticket).1 where
  idle_of_ne hother := by
    apply Store.logoutIfCurrent_of_false
    simp [hother]
  generation_le := Store.generation_le_apply store (.logoutIfCurrent ticket)

/-- Every own change in a timeline from a store is one that the ticket allows. -/
def OwnUnder (ticket : Ticket) : Store → List SessionChange → Prop
  | _, [] => True
  | store, .others event :: changes => OwnUnder ticket (store.apply event).1 changes
  | store, .own put :: changes => ticket.Allows store put ∧ OwnUnder ticket put changes

theorem ownUnder_append {ticket : Ticket} {store : Store} {before after : List SessionChange} :
    OwnUnder ticket store (before ++ after) ↔
      OwnUnder ticket store before ∧ OwnUnder ticket (store.replay before) after := by
  induction before generalizing store with
  | nil => simp [OwnUnder]
  | cons change before ih =>
      cases change with
      | others event => exact ih
      | own put =>
          simp only [List.cons_append, OwnUnder, Store.replay_cons, SessionChange.apply, ih,
            and_assoc]

theorem ownUnder_map_others (ticket : Ticket) (store : Store) (events : List SessionEvent) :
    OwnUnder ticket store (events.map .others) := by
  induction events generalizing store with
  | nil => exact trivial
  | cons event events ih => exact ih (store.apply event).1

/-- No timeline under a ticket takes the generation back. -/
theorem generation_le_replay {ticket : Ticket} {store : Store} {changes : List SessionChange}
    (hunder : OwnUnder ticket store changes) :
    store.generation ≤ (store.replay changes).generation := by
  induction changes generalizing store with
  | nil => exact Nat.le_refl _
  | cons change changes ih =>
      cases change with
      | others event => exact Nat.le_trans (Store.generation_le_apply store event) (ih hunder)
      | own put => exact Nat.le_trans hunder.1.generation_le (ih hunder.2)

/-- Once the generation has passed that of the ticket, the timeline is the run of
what others do. -/
theorem replay_eq_run_of_lt {ticket : Ticket} {store : Store} {changes : List SessionChange}
    (hunder : OwnUnder ticket store changes) (hpast : ticket.generation < store.generation) :
    store.replay changes = store.run (othersIn changes) := by
  induction changes generalizing store with
  | nil => rfl
  | cons change changes ih =>
      cases change with
      | others event =>
          exact ih hunder (Nat.lt_of_lt_of_le hpast (Store.generation_le_apply store event))
      | own put =>
          obtain rfl := hunder.1.idle_of_ne (Nat.ne_of_gt hpast)
          exact ih hunder.2 hpast

/-! ### What the parts of a call keep -/

/-- A talk on a watched session that began with a store and a line and has been
changed only as a ticket allows. -/
structure Follows (ticket : Ticket) (store : Store) (line : Line SessionEvent)
    (talk : Talk WatchedSession SessionEvent) : Prop where
  replayed : talk.session.store = store.replay talk.session.changes
  under : OwnUnder ticket store talk.session.changes
  turns : ∃ used, talk.line.turns = line.turns.drop used ∧
    othersIn talk.session.changes = (line.turns.take used).flatMap (·.meanwhile)

namespace Follows

open BackendClient

variable {ticket : Ticket} {store : Store} {line : Line SessionEvent}
  {talk : Talk WatchedSession SessionEvent}

theorem start (ticket : Ticket) (store : Store) (line : Line SessionEvent) :
    Follows ticket store line ⟨.start store, line, []⟩ where
  replayed := rfl
  under := trivial
  turns := ⟨0, rfl, rfl⟩

theorem send (hfollows : Follows ticket store line talk) (order : Order) :
    Follows ticket store line (BackendClient.send .watched talk order).1 := by
  obtain ⟨n, hrest, hothers⟩ := hfollows.turns
  obtain ⟨m, -, hleft, hdoings, -⟩ := talk.line.exchange_turns manner order
  simp only [BackendClient.send, Stage.acted_watched]
  refine ⟨?_, ?_, n + m, ?_, ?_⟩
  · simp only [Store.replay_append, Store.replay_map_others, hfollows.replayed]
  · exact ownUnder_append.2 ⟨hfollows.under, ownUnder_map_others _ _ _⟩
  · simp only [hleft, hrest, List.drop_drop]
  · simp only [othersIn_append, othersIn_map_others, hothers, hdoings, hrest, List.take_add,
      List.flatMap_append]

theorem put (hfollows : Follows ticket store line talk) {next : Store}
    (hallows : ticket.Allows talk.session.store next) :
    Follows ticket store line { talk with session := Stage.watched.put next talk.session } := by
  obtain ⟨n, hrest, hothers⟩ := hfollows.turns
  refine ⟨?_, ?_, n, hrest, ?_⟩
  · simp [Stage.watched, Store.replay_append, SessionChange.apply]
  · refine ownUnder_append.2 ⟨hfollows.under, ?_, trivial⟩
    rwa [← hfollows.replayed]
  · have hown : othersIn [.own next] = [] := rfl
    simp only [Stage.watched, othersIn_append, hown, List.append_nil, hothers]

/-- What a talk follows is kept by the steps of a call that begins with the store. -/
theorem keeps (store : Store) (line : Line SessionEvent) :
    Stage.watched.Keeps store.beginRefresh (Follows ⟨store.generation⟩ store line) where
  send _ order hfollows := hfollows.send order
  complete talk ticket token hissued hfollows := by
    obtain ⟨-, rfl⟩ := Store.beginRefresh_eq_some_iff.1 hissued
    exact hfollows.put (Ticket.allows_completeRefresh _ token talk.session.store)
  signOut talk ticket hissued hfollows := by
    obtain ⟨-, rfl⟩ := Store.beginRefresh_eq_some_iff.1 hissued
    exact hfollows.put (Ticket.allows_logoutIfCurrent _ talk.session.store)

theorem run {α : Type} (client : BackendClient) (store : Store) (line : Line SessionEvent)
    (call : TicketedCall α) :
    Follows ⟨store.generation⟩ store line (call.run client .watched ⟨.start store, line, []⟩) :=
  Stage.Keeps.run client (keeps store line) (start _ store line) call

end Follows

end SignedAccess
