/-
# The store of one session

A store holds the current session, a generation and a version. The generation
counts the logins and the effective sign-outs; a ticket remembers the
generation at which a refresh began, so a refresh that ends after a sign-out or
another login is told apart and dropped. The version counts the changes that
observers are told about, and a receiver remembers the version it saw last.

Both are plain numbers here. The generation of a running program has 64 bits and
stops the program, or starts again at zero, after `2 ^ 64` logins and sign-outs;
what is said of generations holds of it for all runs with fewer of them.
-/

import SignedAccess.Session.Basic

namespace SignedAccess

/-- The proof that a refresh began under a certain login. -/
structure Ticket where
  /-- The generation at the time, a number below `2 ^ 64` in a running program. -/
  generation : Nat
  deriving DecidableEq, Repr

/-- The current session and how often it has changed. -/
structure Store where
  session : Session
  /-- How many logins and effective sign-outs there were. A running program counts them in
  64 bits, so this is its counter as long as there are fewer than `2 ^ 64`. -/
  generation : Nat
  version : Nat
  deriving Repr, Inhabited

namespace Store

/-- A new store: the session is still resolving. -/
def initial : Store := ⟨.initial, 0, 0⟩

/-- Another session of the same login, announced to observers. -/
def revise (store : Store) (session : Session) : Store :=
  { store with session, version := store.version + 1 }

/-- The session of another login or of none, announced to observers. -/
def replace (store : Store) (session : Session) : Store :=
  ⟨session, store.generation + 1, store.version + 1⟩

/-- Sign in. -/
def setAuth (user : User) (token : AccessToken) (store : Store) : Store :=
  store.replace ⟨some user, some token, true, false⟩

/-- Change the user alone. -/
def setUser (user : User) (store : Store) : Store :=
  store.revise { store.session with user := some user }

/-- Change the token alone. -/
def setToken (token : AccessToken) (store : Store) : Store :=
  store.revise { store.session with token := some token }

/-- Sign out. A session that is already cleared stays as it is, unannounced. -/
def logout (store : Store) : Store :=
  if store.session.isCleared then store else store.replace .cleared

/-- End loading. Loading cannot be taken up again. -/
def setLoading (loading : Bool) (store : Store) : Store :=
  if store.session.loading = loading ∨ loading = true then store
  else store.revise { store.session with loading := false }

/-- The ticket for a refresh of the current login, if there is one. -/
def beginRefresh (store : Store) : Option Ticket :=
  if store.session.authenticated then some ⟨store.generation⟩ else none

/-- A refresh begun with a ticket may still be applied. -/
def isCurrent (store : Store) (ticket : Ticket) : Bool :=
  store.generation == ticket.generation && store.session.authenticated

/-- Put in the token that a refresh brought, unless the ticket is stale. -/
def completeRefresh (ticket : Ticket) (token : AccessToken) (store : Store) : Store × Bool :=
  if store.isCurrent ticket then
    (store.revise { store.session with token := some token }, true)
  else (store, false)

/-- Sign out the login that a ticket was issued for, unless it is gone. -/
def logoutIfCurrent (ticket : Ticket) (store : Store) : Store × Bool :=
  if store.generation = ticket.generation ∧ store.session.isCleared = false then
    (store.replace .cleared, true)
  else (store, false)

end Store

/-- An operation on a store. -/
inductive SessionEvent
  | setAuth (user : User) (token : AccessToken)
  | setUser (user : User)
  | setToken (token : AccessToken)
  | logout
  | setLoading (loading : Bool)
  | beginRefresh
  | completeRefresh (ticket : Ticket) (token : AccessToken)
  | logoutIfCurrent (ticket : Ticket)

/-- What an operation answers. -/
inductive SessionReply
  | done
  | ticket (issued : Option Ticket)
  | verdict (effective : Bool)
  deriving DecidableEq, Repr

/-- A store after one operation, and the answer. -/
def Store.apply (store : Store) : SessionEvent → Store × SessionReply
  | .setAuth user token => (store.setAuth user token, .done)
  | .setUser user => (store.setUser user, .done)
  | .setToken token => (store.setToken token, .done)
  | .logout => (store.logout, .done)
  | .setLoading loading => (store.setLoading loading, .done)
  | .beginRefresh => (store, .ticket store.beginRefresh)
  | .completeRefresh ticket token =>
      let (store, effective) := store.completeRefresh ticket token
      (store, .verdict effective)
  | .logoutIfCurrent ticket =>
      let (store, effective) := store.logoutIfCurrent ticket
      (store, .verdict effective)

/-- A store after operations in a row. -/
def Store.run (store : Store) (events : List SessionEvent) : Store :=
  events.foldl (fun store event => (store.apply event).1) store

@[simp]
theorem Store.run_nil (store : Store) : store.run [] = store := rfl

@[simp]
theorem Store.run_cons (store : Store) (event : SessionEvent) (events : List SessionEvent) :
    store.run (event :: events) = (store.apply event).1.run events := rfl

theorem Store.run_append (store : Store) (before after : List SessionEvent) :
    store.run (before ++ after) = (store.run before).run after := by
  simp [Store.run, List.foldl_append]

/-- The last version that an observer has seen. -/
structure Receiver where
  seen : Nat
  deriving DecidableEq, Repr

/-- What polling for a change answers. -/
inductive Notice
  | ready
  | pending
  | closed
  deriving DecidableEq, Repr

/-- The name of a notice. -/
def Notice.name : Notice → String
  | .ready => "ready"
  | .pending => "pending"
  | .closed => "closed"

namespace Receiver

/-- A new observer has seen everything so far. -/
def subscribe (store : Store) : Receiver := ⟨store.version⟩

/-- There is a change that has not been seen. Nothing more is to come from a
store that nobody holds any longer, so there it is false. -/
def hasChanged (receiver : Receiver) (store : Store) (isHeld : Bool) : Bool :=
  isHeld && receiver.seen != store.version

/-- The observer after looking at the store. -/
def look (_ : Receiver) (store : Store) : Receiver := ⟨store.version⟩

/-- Poll for a change. One that has not been seen is reported, even when nobody
holds the store any longer, and counts as seen from then on. -/
def poll (receiver : Receiver) (store : Store) (isHeld : Bool) : Receiver × Notice :=
  if receiver.seen ≠ store.version then (receiver.look store, .ready)
  else (receiver, if isHeld then .pending else .closed)

end Receiver

end SignedAccess
