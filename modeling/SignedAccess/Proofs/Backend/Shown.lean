/-
# One stage shown on another

A stage can keep more than another one needs: a watched session keeps its
timeline beside the store. Where a function forgets the difference, and seeing,
putting, and the doings of others agree before and after it, a call does the same
on both stages. So what is told of a call on a watched session is told of the same
call on a session that nobody watches.
-/

import SignedAccess.Proofs.Backend.Timeline

namespace SignedAccess

variable {α σ τ ε : Type}

/-- A function shows one stage on another. -/
structure Stage.Shows (f : σ → τ) (stage : Stage σ ε) (shown : Stage τ ε) : Prop where
  view_eq : ∀ s, shown.view (f s) = stage.view s
  put_eq : ∀ store s, f (stage.put store s) = shown.put store (f s)
  act_eq : ∀ s event, f (stage.act s event) = shown.act (f s) event

/-- A watched session without its timeline is a session kept by itself. -/
theorem Stage.shows_watched : Stage.Shows WatchedSession.store Stage.watched Stage.alone where
  view_eq _ := rfl
  put_eq _ _ := rfl
  act_eq _ _ := rfl

/-- The talk whose session is shown on another stage. -/
def Talk.map (f : σ → τ) (talk : Talk σ ε) : Talk τ ε where
  session := f talk.session
  line := talk.line
  journal := talk.journal.map fun (s, order) => (f s, order)

namespace Stage.Shows

variable {f : σ → τ} {stage : Stage σ ε} {shown : Stage τ ε}
  (hshows : Stage.Shows f stage shown)

include hshows

theorem acted (s : σ) (events : List ε) : f (stage.acted s events) = shown.acted (f s) events := by
  induction events generalizing s with
  | nil => rfl
  | cons event events ih =>
      calc
        _ = f (stage.acted (stage.act s event) events) := rfl
        _ = shown.acted (shown.act (f s) event) events := by rw [ih, hshows.act_eq]
        _ = _ := rfl

theorem token (s : σ) : shown.token (f s) = stage.token s := by
  simp only [Stage.token, hshows.view_eq]

theorem send (talk : Talk σ ε) (order : Order) :
    BackendClient.send shown (talk.map f) order =
      ((BackendClient.send stage talk order).1.map f, (BackendClient.send stage talk order).2) := by
  simp [BackendClient.send, Talk.map, hshows.acted]

theorem update (g : Store → Store) (talk : Talk σ ε) :
    BackendClient.update shown g (talk.map f) = (BackendClient.update stage g talk).map f := by
  simp [BackendClient.update, Stage.change, Talk.map, hshows.view_eq, hshows.put_eq]

variable (client : BackendClient)

theorem sendSigned (talk : Talk σ ε) (request : SignedRequest) :
    client.sendSigned shown (talk.map f) request =
      ((client.sendSigned stage talk request).1.map f,
        (client.sendSigned stage talk request).2) := by
  have htoken : shown.token (talk.map f).session = stage.token talk.session :=
    hshows.token talk.session
  simp only [BackendClient.sendSigned, htoken, hshows.send]

theorem postRefresh (talk : Talk σ ε) (token : Option AccessToken) :
    client.postRefresh shown (talk.map f) token =
      ((client.postRefresh stage talk token).1.map f,
        (client.postRefresh stage talk token).2) := by
  simp only [BackendClient.postRefresh, hshows.send]

theorem refreshFor (talk : Talk σ ε) (ticket : Ticket) :
    client.refreshFor shown (talk.map f) ticket =
      ((client.refreshFor stage talk ticket).1.map f,
        (client.refreshFor stage talk ticket).2) := by
  have htoken : shown.token (talk.map f).session = stage.token talk.session :=
    hshows.token talk.session
  simp only [BackendClient.refreshFor, htoken, hshows.postRefresh]
  obtain ⟨posted, outcome⟩ := client.postRefresh stage talk (stage.token talk.session)
  cases outcome with
  | error fault => rfl
  | ok payload => simp [Talk.map, hshows.view_eq, hshows.put_eq]

theorem retry (talk : Talk σ ε) (request : SignedRequest)
    (reader : List UInt8 → Except Json.Fault α) (ticket : Ticket) :
    client.retry shown (talk.map f) request reader ticket =
      ((client.retry stage talk request reader ticket).1.map f,
        (client.retry stage talk request reader ticket).2) := by
  simp only [BackendClient.retry, hshows.sendSigned]
  split
  · simp only [BackendClient.signOut, hshows.update]
  · rfl

theorem sendJson (talk : Talk σ ε) (request : SignedRequest)
    (reader : List UInt8 → Except Json.Fault α) :
    client.sendJson shown (talk.map f) request reader =
      ((client.sendJson stage talk request reader).1.map f,
        (client.sendJson stage talk request reader).2) := by
  have hview : shown.view (talk.map f).session = stage.view talk.session :=
    hshows.view_eq talk.session
  simp only [BackendClient.sendJson, hview, hshows.sendSigned]
  split
  · rfl
  · cases (stage.view talk.session).beginRefresh with
    | none => rfl
    | some ticket =>
        simp only [hshows.refreshFor]
        obtain ⟨refreshed, outcome⟩ :=
          client.refreshFor stage (client.sendSigned stage talk request).1 ticket
        cases outcome with
        | ok applied =>
            cases applied with
            | true => exact hshows.retry client refreshed request reader ticket
            | false => rfl
        | error fault =>
            dsimp only
            split
            · simp only [BackendClient.signOut, hshows.update]
            · rfl

theorem refresh (talk : Talk σ ε) :
    client.refresh shown (talk.map f) =
      ((client.refresh stage talk).1.map f, (client.refresh stage talk).2) := by
  have hview : shown.view (talk.map f).session = stage.view talk.session :=
    hshows.view_eq talk.session
  simp only [BackendClient.refresh, hview]
  cases (stage.view talk.session).beginRefresh with
  | none => rfl
  | some ticket => exact hshows.refreshFor client talk ticket

theorem run (call : TicketedCall α) (talk : Talk σ ε) :
    call.run client shown (talk.map f) = (call.run client stage talk).map f := by
  cases call with
  | send request reader => simp only [TicketedCall.run, hshows.sendJson]
  | fetch path reader => simp only [TicketedCall.run, BackendClient.getJson, hshows.sendJson]
  | refresh => simp only [TicketedCall.run, hshows.refresh]

end Stage.Shows

end SignedAccess
