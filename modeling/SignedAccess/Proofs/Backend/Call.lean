/-
# Calls under a ticket

A call that refreshes changes the session in two ways only: it puts in the token that
a refresh brought, and it signs out, both under the ticket that was issued when the
call began. Otherwise it exchanges requests, while others act on the session. So a
property that exchanges and these two changes keep holds after every such call, if it
holds before.
-/

import SignedAccess.Backend.Client

namespace SignedAccess

/-! ### Exchanges -/

/-- An exchange uses at most one turn, and what others do meanwhile is what stands
there. One that is answered uses a turn. -/
theorem Line.exchange_turns {ε : Type} (line : Line ε) (manner : Manner) (order : Order) :
    ∃ used ≤ 1, (line.exchange manner order).1.turns = line.turns.drop used ∧
      (line.exchange manner order).2.1 = (line.turns.take used).flatMap (·.meanwhile) ∧
      ∀ reply, (line.exchange manner order).2.2 = .ok reply → used = 1 := by
  unfold Line.exchange
  cases order.prepare with
  | error fault => exact ⟨0, Nat.zero_le 1, rfl, rfl, nofun⟩
  | ok parcel =>
      dsimp only
      split
      · exact ⟨0, Nat.zero_le 1, rfl, rfl, nofun⟩
      · split
        · exact ⟨0, Nat.zero_le 1, rfl, rfl, nofun⟩
        · refine ⟨1, Nat.le_refl 1, ?_⟩
          cases line.turns with
          | nil => exact ⟨rfl, rfl, fun _ _ => rfl⟩
          | cons turn turns => cases hanswer : turn.answer <;> simp [hanswer]

/-! ### Calls -/

/-- The calls that change the session under a ticket alone. -/
inductive TicketedCall (α : Type)
  | send (request : SignedRequest) (reader : List UInt8 → Except Json.Fault α)
  | fetch (path : String) (reader : List UInt8 → Except Json.Fault α)
  | refresh

/-- The talk after a call. -/
def TicketedCall.run {α σ ε : Type} (call : TicketedCall α) (client : BackendClient)
    (stage : Stage σ ε) (talk : Talk σ ε) : Talk σ ε :=
  match call with
  | .send request reader => (client.sendJson stage talk request reader).1
  | .fetch path reader => (client.getJson stage talk path reader).1
  | .refresh => (client.refresh stage talk).1

/-- A property of talks that exchanges keep, and the two changes of the session under
the ticket that was issued, if one was. -/
structure Stage.Keeps {σ ε : Type} (stage : Stage σ ε) (issued : Option Ticket)
    (P : Talk σ ε → Prop) : Prop where
  send : ∀ talk order, P talk → P (BackendClient.send stage talk order).1
  complete : ∀ talk ticket token, issued = some ticket → P talk →
    P { talk with
      session := stage.put ((stage.view talk.session).completeRefresh ticket token).1 talk.session }
  signOut : ∀ talk ticket, issued = some ticket → P talk →
    P (BackendClient.signOut stage talk ticket)

namespace Stage.Keeps

variable {α σ ε : Type} {stage : Stage σ ε} {issued : Option Ticket} {P : Talk σ ε → Prop}
  {talk : Talk σ ε} (client : BackendClient)

theorem refreshFor (hkeeps : stage.Keeps issued P) {ticket : Ticket}
    (hissued : issued = some ticket) (hbefore : P talk) :
    P (client.refreshFor stage talk ticket).1 := by
  have hposted : P (client.postRefresh stage talk (stage.token talk.session)).1 :=
    hkeeps.send _ _ hbefore
  unfold BackendClient.refreshFor
  split
  · rename_i hpost
    rwa [hpost] at hposted
  · rename_i posted payload hpost
    rw [hpost] at hposted
    exact hkeeps.complete posted ticket payload.token hissued hposted

theorem retry (hkeeps : stage.Keeps issued P) {ticket : Ticket} (hissued : issued = some ticket)
    (hbefore : P talk) (request : SignedRequest) (reader : List UInt8 → Except Json.Fault α) :
    P (client.retry stage talk request reader ticket).1 := by
  have hsent : P (client.sendSigned stage talk request).1 := hkeeps.send _ _ hbefore
  simp only [BackendClient.retry]
  split
  · exact hkeeps.signOut _ ticket hissued hsent
  · exact hsent

theorem sendJson (hkeeps : stage.Keeps (stage.view talk.session).beginRefresh P)
    (hbefore : P talk) (request : SignedRequest) (reader : List UInt8 → Except Json.Fault α) :
    P (client.sendJson stage talk request reader).1 := by
  have hsent : P (client.sendSigned stage talk request).1 := hkeeps.send _ _ hbefore
  simp only [BackendClient.sendJson]
  split
  · exact hsent
  · split
    · exact hsent
    · rename_i ticket hissued
      have hrefreshed := hkeeps.refreshFor client hissued hsent
      split
      · rename_i hrefresh
        rw [hrefresh] at hrefreshed
        exact hkeeps.retry client hissued hrefreshed request reader
      · rename_i hrefresh
        rwa [hrefresh] at hrefreshed
      · rename_i hrefresh
        rw [hrefresh] at hrefreshed
        split
        · exact hkeeps.signOut _ ticket hissued hrefreshed
        · exact hrefreshed

/-- What the steps of a call keep holds after the call. -/
theorem run (hkeeps : stage.Keeps (stage.view talk.session).beginRefresh P) (hbefore : P talk)
    (call : TicketedCall α) : P (call.run client stage talk) := by
  cases call with
  | send request reader => exact hkeeps.sendJson client hbefore request reader
  | fetch path reader => exact hkeeps.sendJson client hbefore ⟨"GET", path, none⟩ reader
  | refresh =>
      simp only [TicketedCall.run, BackendClient.refresh]
      split
      · exact hbefore
      · rename_i ticket hissued
        exact hkeeps.refreshFor client hissued hbefore

/-- Asking what the backend remembers is one exchange or two. -/
theorem remembered (hkeeps : stage.Keeps issued P) (hbefore : P talk) :
    P (client.remembered stage talk).1 := by
  have hposted : P (client.postRefresh stage talk none).1 := hkeeps.send _ _ hbefore
  unfold BackendClient.remembered
  split
  · rename_i hpost
    rwa [hpost] at hposted
  · rename_i hpost
    rwa [hpost] at hposted
  · rename_i posted token hpost
    rw [hpost] at hposted
    have hfetched : P (client.fetchMe stage posted token).1 := hkeeps.send _ _ hposted
    split
    · rename_i hfetch
      rwa [hfetch] at hfetched
    · rename_i hfetch
      rwa [hfetch] at hfetched

end Stage.Keeps

end SignedAccess
