/-
# Where a session is kept

Code that keeps a session up to date sees one store. Others may reach the same
store in ways of their own: by its operations, or by commands to a desk on
which it lies among other stores. A stage says how the store is seen and put
back, and what the doings of others do.
-/

import SignedAccess.Session.Desk

namespace SignedAccess

/-- Where a session is kept, and what others do there. -/
structure Stage (σ ε : Type) where
  view : σ → Store
  put : Store → σ → σ
  act : σ → ε → σ

/-- A session that is kept by itself, where others perform its operations. -/
def Stage.alone : Stage Store SessionEvent where
  view store := store
  put store _ := store
  act store event := (store.apply event).1

namespace Stage

variable {σ ε : Type}

/-- The stage after the doings of others. -/
def acted (stage : Stage σ ε) (s : σ) (doings : List ε) : σ := doings.foldl stage.act s

/-- The stage after a change of the session. -/
def change (stage : Stage σ ε) (f : Store → Store) (s : σ) : σ :=
  stage.put (f (stage.view s)) s

/-- The token that the session holds. -/
def token (stage : Stage σ ε) (s : σ) : Option AccessToken := (stage.view s).session.token

end Stage

/-- A session that is kept on a desk, where others give commands. A command
that fails does nothing. -/
def Desk.stage (number : Nat) : Stage Desk DeskCommand where
  view desk := desk.stores[number]?.getD .initial
  put store desk := desk.setStore number store
  act desk command :=
    match desk.perform command with
    | .ok (desk, _) => desk
    | .error _ => desk

/-- The desk on which a client keeps its session, with one handle to it. The
client holds the session too, so it outlives the handle. -/
def Desk.ofClient : Desk := { Desk.initial with lent := [0] }

end SignedAccess
