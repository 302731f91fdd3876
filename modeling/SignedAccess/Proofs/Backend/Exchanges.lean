/-
# The exchanges of moves

A client that does moves in a row makes one exchange for every errand among them.
`BackendClient.exchanges` lists these exchanges, and they are the ones that its journal and
its line tell of. So what is shown of the moves of a call holds of the exchanges that the
call has made.

What others do while a session is asked about is the only thing that happens to it, as long
as the client makes no change of its own.
-/

import SignedAccess.Proofs.Backend.Chronicle

namespace SignedAccess

open Json

/-! ### Outcomes -/

/-- The outcome is an answer that does what was asked, and its body is read as this. -/
def Brings {α : Type} (reader : List UInt8 → Except Fault α)
    (outcome : Except ExchangeFault Reply) (a : α) : Prop :=
  ∃ reply body, outcome = .ok reply ∧ isSuccess reply.status = true ∧ reply.body = some body ∧
    reader body = .ok a

/-- What is read off an outcome is what it brings. -/
theorem readOutcome_eq_ok_iff {α : Type} {reader : List UInt8 → Except Fault α}
    {outcome : Except ExchangeFault Reply} {a : α} :
    readOutcome reader outcome = .ok a ↔ Brings reader outcome a := by
  constructor
  · intro hread
    cases outcome with
    | error fault => cases hread
    | ok reply =>
        simp only [readOutcome] at hread
        split at hread
        · rename_i hsuccess
          split at hread
          · rename_i found hfound
            cases hread
            obtain ⟨body, hbody, hreader⟩ := Option.map_eq_some_iff.1 hfound
            exact ⟨reply, body, rfl, hsuccess, hbody, hreader⟩
          · cases hread
        · cases hread
  · rintro ⟨reply, body, rfl, hsuccess, hbody, hreader⟩
    simp only [readOutcome, hsuccess, hbody, hreader, if_true, Option.map_some]

/-- An outcome is read as the fault that nobody is signed in exactly when it is an answer
that refuses the request. -/
theorem readOutcome_eq_unauthorized_iff {α : Type} {reader : List UInt8 → Except Fault α}
    {outcome : Except ExchangeFault Reply} :
    readOutcome reader outcome = .error .unauthorized ↔ isRefused outcome = true := by
  cases outcome with
  | error fault => simp [readOutcome, isRefused]
  | ok reply =>
      simp only [readOutcome, isRefused, beq_iff_eq]
      cases hsuccess : isSuccess reply.status with
      | true =>
          have hother : reply.status ≠ 401 := by
            intro hstatus
            rw [hstatus] at hsuccess
            cases hsuccess
          rw [if_pos rfl]
          split <;> simp [hother]
      | false =>
          rw [if_neg Bool.false_ne_true, Except.error.injEq]
          by_cases hstatus : reply.status = 401 <;> simp [BackendFault.ofStatus, hstatus]

/-- An answer that blames the request brings nothing. -/
theorem isRejected_of_readOutcome {α : Type} {reader : List UInt8 → Except Fault α}
    {outcome : Except ExchangeFault Reply} {a : α} (hread : readOutcome reader outcome = .ok a) :
    isRejected outcome = false := by
  obtain ⟨reply, body, rfl, hsuccess, -⟩ := readOutcome_eq_ok_iff.1 hread
  simp only [isSuccess, Bool.and_eq_true, decide_eq_true_eq] at hsuccess
  simp only [isRejected, blamesRequest, Bool.and_eq_false_iff, decide_eq_false_iff_not]
  omega

/-! ### Orders in a row -/

/-- The exchanges of orders are in the order of these. -/
theorem Line.orders_exchanges {ε : Type} (line : Line ε) (manner : Manner) (orders : List Order) :
    (line.exchanges manner orders).map (·.order) = orders := by
  induction orders generalizing line with
  | nil => rfl
  | cons order orders ih => exact congrArg (order :: ·) (ih _)

/-- Peers see no more requests than are sent. -/
theorem Line.length_seen_after {ε : Type} (line : Line ε) (manner : Manner) (orders : List Order) :
    (line.after manner orders).seen.length ≤ line.seen.length + orders.length := by
  induction orders generalizing line with
  | nil => exact Nat.le_refl _
  | cons order orders ih =>
      have hone : (line.exchange manner order).1.seen.length ≤ line.seen.length + 1 := by
        rcases line.seesAtMostOne_exchange manner order with hnone | ⟨sight, hsight⟩
        · rw [hnone]
          exact Nat.le_succ _
        · rw [hsight, List.length_cons]
      calc (line.after manner (order :: orders)).seen.length
          ≤ (line.exchange manner order).1.seen.length + orders.length := ih _
        _ ≤ line.seen.length + 1 + orders.length := Nat.add_le_add_right hone _
        _ = line.seen.length + (order :: orders).length := by
            rw [List.length_cons, Nat.add_assoc, Nat.add_comm 1]

namespace BackendClient

variable (client : BackendClient) (talk : Talk Store SessionEvent)

/-! ### Moves -/

/-- The exchange that is made on an errand. -/
def errandExchange (errand : Errand) : Exchanged SessionEvent :=
  talk.line.exchanged manner (errand.order client talk.session.session.token)

/-- The exchanges that are made with moves in a row. -/
def exchanges (talk : Talk Store SessionEvent) : List Move → List (Exchanged SessionEvent)
  | [] => []
  | .ask errand :: moves =>
      client.errandExchange talk errand :: exchanges (client.ask talk errand).1 moves
  | .own event :: moves => exchanges (happen talk event) moves
  | .others event :: moves => exchanges (happen talk event) moves

@[simp]
theorem exchanges_nil : client.exchanges talk [] = [] := rfl

@[simp]
theorem exchanges_ask (errand : Errand) (moves : List Move) :
    client.exchanges talk (.ask errand :: moves) =
      client.errandExchange talk errand :: client.exchanges (client.ask talk errand).1 moves := rfl

@[simp]
theorem exchanges_own (event : SessionEvent) (moves : List Move) :
    client.exchanges talk (.own event :: moves) = client.exchanges (happen talk event) moves := rfl

theorem play_ask (errand : Errand) (moves : List Move) :
    client.play talk (.ask errand :: moves) = client.play (client.ask talk errand).1 moves := rfl

theorem play_own (event : SessionEvent) (moves : List Move) :
    client.play talk (.own event :: moves) = client.play (happen talk event) moves := rfl

theorem session_happen (event : SessionEvent) :
    (happen talk event).session = (talk.session.apply event).1 := rfl

@[simp]
theorem session_ask (errand : Errand) :
    (client.ask talk errand).1.session =
      talk.session.run (client.errandExchange talk errand).meanwhile := by
  rw [ask, send_alone]
  rfl

@[simp]
theorem outcome_ask (errand : Errand) :
    (client.ask talk errand).2 = (client.errandExchange talk errand).outcome := by
  rw [ask, send_alone]
  rfl

theorem line_ask (errand : Errand) :
    (client.ask talk errand).1.line =
      (talk.line.exchange manner (client.errandExchange talk errand).order).1 := by
  rw [ask, send_alone]
  rfl

/-- The orders of moves are those of their exchanges. -/
theorem endsAfter_play (moves : List Move) :
    EndsAfter talk (client.play talk moves) ((client.exchanges talk moves).map (·.order)) := by
  induction moves generalizing talk with
  | nil => exact endsAfter_self talk
  | cons move moves ih =>
      cases move with
      | ask errand => exact (endsAfter_send talk _).trans (ih (client.ask talk errand).1)
      | own event => exact ((endsAfter_self talk).of_session _).trans (ih (happen talk event))
      | others event => exact ((endsAfter_self talk).of_session _).trans (ih (happen talk event))

/-- The exchanges of moves are those of their orders on the line. -/
theorem exchanges_orders (moves : List Move) :
    talk.line.exchanges manner ((client.exchanges talk moves).map (·.order)) =
      client.exchanges talk moves := by
  induction moves generalizing talk with
  | nil => rfl
  | cons move moves ih =>
      cases move with
      | ask errand =>
          have hrest := ih (client.ask talk errand).1
          rw [line_ask] at hrest
          exact congrArg (client.errandExchange talk errand :: ·) hrest
      | own event => exact ih (happen talk event)
      | others event => exact ih (happen talk event)

/-- What the journal and the line tell of moves that begin a talk. -/
theorem exchanges_play (store : Store) (line : Line SessionEvent) (moves : List Move) :
    line.exchanges manner ((client.play ⟨store, line, []⟩ moves).journal.reverse.map (·.2)) =
      client.exchanges ⟨store, line, []⟩ moves := by
  rw [(client.endsAfter_play ⟨store, line, []⟩ moves).orders_eq]
  exact client.exchanges_orders ⟨store, line, []⟩ moves

/-- Errands alone leave the session to what others do. -/
theorem session_play_asks (errands : List Errand) :
    (client.play talk (errands.map .ask)).session =
      talk.session.run ((client.exchanges talk (errands.map .ask)).flatMap (·.meanwhile)) := by
  induction errands generalizing talk with
  | nil => rfl
  | cons errand errands ih =>
      rw [List.map_cons, play_ask, exchanges_ask, List.flatMap_cons, Store.run_append,
        ← session_ask]
      exact ih (client.ask talk errand).1

end BackendClient

end SignedAccess
