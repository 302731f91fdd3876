/-
# Many stores and their handles

A desk keeps every store ever made, the handles through which they are reached,
and the tickets and receivers that were put aside under a name. Several handles
may lead to one store. A store whose handles are all gone keeps its state for
its receivers, but nothing can change it any more.

A command names its handle by number and its tickets and receivers by name.
`Desk.perform` answers it, or says what is missing and leaves the desk as it
was.
-/

import SignedAccess.Session.Store

namespace SignedAccess

open Json

/-- Stores, handles and what was put aside. -/
structure Desk where
  stores : List Store
  handles : List (Option Nat)
  tickets : List (String × Ticket)
  /-- Receivers, each with the number of the store that it watches. -/
  receivers : List (String × Nat × Receiver)
  /-- The stores that are also held from outside the desk. -/
  lent : List Nat
  deriving Inhabited

namespace Desk

/-- One store with one handle. -/
def initial : Desk := ⟨[.initial], [some 0], [], [], []⟩

/-- The number of the store that a handle leads to. -/
def target? (desk : Desk) (handle : Nat) : Option Nat := (desk.handles[handle]?).join

/-- The store that a handle leads to. -/
def store? (desk : Desk) (handle : Nat) : Option Store :=
  (desk.target? handle).bind (desk.stores[·]?)

/-- Somebody still holds the store. -/
def isHeld (desk : Desk) (number : Nat) : Bool :=
  desk.handles.contains (some number) || desk.lent.contains number

/-- The desk with another state of one store. -/
def setStore (desk : Desk) (number : Nat) (store : Store) : Desk :=
  { desk with stores := desk.stores.set number store }

/-- The entry under a name. -/
def named? {α : Type} (name : String) (entries : List (String × α)) : Option α :=
  (entries.find? (·.1 == name)).map (·.2)

/-- The entries with one put under a name in place of an earlier one. -/
def putNamed {α : Type} (name : String) (a : α) (entries : List (String × α)) :
    List (String × α) :=
  (name, a) :: entries.filter (·.1 != name)

end Desk

/-- Why a command did nothing. -/
inductive DeskFault
  | noManager
  | noTicket
  | noReceiver
  | unknown
  | badUser (fault : Mismatch)
  deriving Repr

/-- The wording of a fault. -/
def DeskFault.message : DeskFault → String
  | .noManager => "no manager"
  | .noTicket => "no ticket"
  | .noReceiver => "no receiver"
  | .unknown => "unknown op"
  | .badUser fault => fault.message

/-- What is done to one store through a handle. -/
inductive StoreCommand
  | clone
  | setAuth (user : Except Mismatch User) (token : AccessToken)
  | setUser (user : Except Mismatch User)
  | setToken (token : AccessToken)
  | logout
  | setLoading (loading : Bool)
  | read
  | beginRefresh (name : String)
  | completeRefresh (name : String) (token : AccessToken)
  | logoutIfCurrent (name : String)
  | subscribe (name : String)
  | unknown

/-- What is asked of a desk. -/
inductive DeskCommand
  | create
  | drop (handle : Nat)
  | through (handle : Nat) (command : StoreCommand)
  | sameTicket (name other : String)
  | hasChanged (name : String)
  | current (name : String)
  | changed (name : String)

/-- What a desk answers. -/
inductive DeskReply
  | done
  | handle (number : Nat)
  | ticket (issued : Option Ticket)
  | verdict (b : Bool)
  | notice (n : Notice)
  | session (s : Session)
  | glimpse (s : Session)

namespace Desk

/-- A command done to the store that a handle leads to. -/
def performThrough (desk : Desk) (number : Nat) (store : Store) :
    StoreCommand → Except DeskFault (Desk × DeskReply)
  | .clone =>
      .ok ({ desk with handles := desk.handles ++ [some number] }, .handle desk.handles.length)
  | .setAuth (.ok user) token => .ok (desk.setStore number (store.setAuth user token), .done)
  | .setAuth (.error fault) _ => .error (.badUser fault)
  | .setUser (.ok user) => .ok (desk.setStore number (store.setUser user), .done)
  | .setUser (.error fault) => .error (.badUser fault)
  | .setToken token => .ok (desk.setStore number (store.setToken token), .done)
  | .logout => .ok (desk.setStore number store.logout, .done)
  | .setLoading loading => .ok (desk.setStore number (store.setLoading loading), .done)
  | .read => .ok (desk, .glimpse store.session)
  | .beginRefresh name =>
      match store.beginRefresh with
      | some ticket =>
          .ok ({ desk with tickets := putNamed name ticket desk.tickets }, .ticket (some ticket))
      | none => .ok (desk, .ticket none)
  | .completeRefresh name token =>
      match named? name desk.tickets with
      | some ticket =>
          let (store, effective) := store.completeRefresh ticket token
          .ok (desk.setStore number store, .verdict effective)
      | none => .error .noTicket
  | .logoutIfCurrent name =>
      match named? name desk.tickets with
      | some ticket =>
          let (store, effective) := store.logoutIfCurrent ticket
          .ok (desk.setStore number store, .verdict effective)
      | none => .error .noTicket
  | .subscribe name =>
      let receivers := putNamed name (number, Receiver.subscribe store) desk.receivers
      .ok ({ desk with receivers }, .done)
  | .unknown => .error .unknown

/-- The receiver under a name, with its store. -/
def watching (desk : Desk) (name : String) : Except DeskFault (Nat × Receiver × Store) :=
  match named? name desk.receivers with
  | some (number, receiver) =>
      match desk.stores[number]? with
      | some store => .ok (number, receiver, store)
      | none => .error .noReceiver
  | none => .error .noReceiver

/-- A command done to the desk. -/
def perform (desk : Desk) : DeskCommand → Except DeskFault (Desk × DeskReply)
  | .create =>
      .ok ({ desk with
              stores := desk.stores ++ [.initial]
              handles := desk.handles ++ [some desk.stores.length] },
            .handle desk.handles.length)
  | .drop handle => .ok ({ desk with handles := desk.handles.set handle none }, .done)
  | .through handle command =>
      match desk.target? handle with
      | some number =>
          match desk.stores[number]? with
          | some store => desk.performThrough number store command
          | none => .error .noManager
      | none => .error .noManager
  | .sameTicket name other =>
      .ok (desk, .verdict (decide (named? name desk.tickets = named? other desk.tickets)))
  | .hasChanged name => do
      let (number, receiver, store) ← desk.watching name
      .ok (desk, .verdict (receiver.hasChanged store (desk.isHeld number)))
  | .current name => do
      let (number, receiver, store) ← desk.watching name
      let receivers := putNamed name (number, receiver.look store) desk.receivers
      .ok ({ desk with receivers }, .session store.session)
  | .changed name => do
      let (number, receiver, store) ← desk.watching name
      let (receiver, notice) := receiver.poll store (desk.isHeld number)
      let receivers := putNamed name (number, receiver) desk.receivers
      .ok ({ desk with receivers }, .notice notice)

end Desk

end SignedAccess
