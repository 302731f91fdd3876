/-
# Calls after a sign-out

Others may sign out while a call is under way. A cleared session takes in nothing
that comes under a ticket, so a call that refreshes under a ticket leaves it cleared,
whatever the backend answers. The call that restores a session at the start has no
ticket: what the backend remembers is put in as a new login, and a sign-out that came
first does not count.
-/

import SignedAccess.Proofs.Backend.Call
import SignedAccess.Proofs.Session.Ticket

namespace SignedAccess

open Text

/-! ### A cleared session -/

/-- The operation brings a user or a token. -/
def SessionEvent.brings : SessionEvent → Bool
  | .setAuth _ _ => true
  | .setUser _ => true
  | .setToken _ => true
  | _ => false

/-- There is a sign-out among the operations, and none that follows it brings a user
or a token. -/
def EndsSignedOut (events : List SessionEvent) : Prop :=
  ∃ before after, events = before ++ .logout :: after ∧
    ∀ event ∈ after, event.brings = false

theorem not_endsSignedOut_nil : ¬EndsSignedOut [] := by
  rintro ⟨before, after, hsplit, -⟩
  exact absurd hsplit.symm (List.append_ne_nil_of_right_ne_nil before (List.cons_ne_nil _ _))

/-- The last sign-out is in the second part, or in the first and nothing is brought in
the second. -/
theorem EndsSignedOut.of_append {before after : List SessionEvent}
    (hends : EndsSignedOut (before ++ after)) :
    EndsSignedOut after ∨ EndsSignedOut before ∧ ∀ event ∈ after, event.brings = false := by
  obtain ⟨front, back, hsplit, hbrings⟩ := hends
  rcases List.append_eq_append_iff.1 hsplit with ⟨middle, -, hafter⟩ | ⟨middle, hbefore, hback⟩
  · exact Or.inl ⟨middle, back, hafter, hbrings⟩
  · cases middle with
    | nil => exact Or.inl ⟨[], back, hback.symm, hbrings⟩
    | cons event rest =>
        obtain ⟨rfl, rfl⟩ := List.cons.inj hback
        refine Or.inr ⟨⟨front, rest, hbefore, ?_⟩, ?_⟩
        · intro later hlater
          exact hbrings later (List.mem_append_left after hlater)
        · intro later hlater
          exact hbrings later (List.mem_append_right rest hlater)

namespace Store

theorem session_logout (store : Store) : store.logout.session = .cleared := by
  by_cases hcleared : store.session.isCleared = true
  · rw [logout, if_pos hcleared]
    exact (Session.isCleared_iff _).1 hcleared
  · rw [logout, if_neg hcleared]
    rfl

section

variable {store : Store} (hcleared : store.session = .cleared)

include hcleared

theorem completeRefresh_of_cleared (ticket : Ticket) (token : AccessToken) :
    (store.completeRefresh ticket token).1 = store := by
  apply completeRefresh_of_false
  simp [isCurrent, hcleared, Session.cleared]

theorem logoutIfCurrent_of_cleared (ticket : Ticket) :
    (store.logoutIfCurrent ticket).1 = store := by
  apply logoutIfCurrent_of_false
  simp [(Session.isCleared_iff _).2 hcleared]

theorem setLoading_of_cleared (loading : Bool) : store.setLoading loading = store := by
  cases loading with
  | false => simp [setLoading, hcleared, Session.cleared]
  | true => simp [setLoading]

/-- Nothing happens to a cleared session until a user or a token is brought. -/
theorem apply_of_cleared {event : SessionEvent} (hbrings : event.brings = false) :
    (store.apply event).1 = store := by
  cases event with
  | logout => exact if_pos ((Session.isCleared_iff _).2 hcleared)
  | setLoading loading => exact setLoading_of_cleared hcleared loading
  | beginRefresh => rfl
  | completeRefresh ticket token => exact completeRefresh_of_cleared hcleared ticket token
  | logoutIfCurrent ticket => exact logoutIfCurrent_of_cleared hcleared ticket
  | _ => cases hbrings

theorem run_of_cleared {events : List SessionEvent}
    (hbrings : ∀ event ∈ events, event.brings = false) : store.run events = store := by
  induction events with
  | nil => rfl
  | cons event events ih =>
      have hstays := apply_of_cleared hcleared (hbrings event List.mem_cons_self)
      rw [run_cons, hstays]
      exact ih fun later hlater => hbrings later (List.mem_cons_of_mem event hlater)

end

theorem session_run_of_endsSignedOut (store : Store) {events : List SessionEvent}
    (hends : EndsSignedOut events) : (store.run events).session = .cleared := by
  obtain ⟨before, after, rfl, hbrings⟩ := hends
  have hout := session_logout (store.run before)
  have hrun : store.run (before ++ .logout :: after) = ((store.run before).logout).run after :=
    run_append store before (.logout :: after)
  rw [hrun, run_of_cleared hout hbrings]
  exact hout

end Store

/-! ### What others have done so far -/

/-- What others have done while a line went on from one state to another. -/
def Line.doingsUntil {ε : Type} (line after : Line ε) : List ε :=
  (line.turns.take (line.turns.length - after.turns.length)).flatMap (·.meanwhile)

theorem Line.doingsUntil_of_append {ε : Type} {line after : Line ε} {used : List (Turn ε)}
    (hturns : used ++ after.turns = line.turns) :
    line.doingsUntil after = used.flatMap (·.meanwhile) := by
  simp [doingsUntil, ← hturns]

@[simp]
theorem Line.doingsUntil_self {ε : Type} (line : Line ε) : line.doingsUntil line = [] := by
  simp [doingsUntil]

theorem Line.doingsUntil_of_isEmpty {ε : Type} {line after : Line ε}
    (hempty : after.turns.isEmpty = true) :
    line.doingsUntil after = line.turns.flatMap (·.meanwhile) := by
  apply doingsUntil_of_append
  rw [List.isEmpty_iff.1 hempty, List.append_nil]

/-- A talk that goes on from a line and, where others have signed out for good since
then, has a cleared session. -/
structure StaysSignedOut (line : Line SessionEvent) (talk : Talk Store SessionEvent) : Prop where
  turns : talk.line.turns <:+ line.turns
  cleared : EndsSignedOut (line.doingsUntil talk.line) → talk.session.session = .cleared

namespace StaysSignedOut

open BackendClient

variable {line : Line SessionEvent} {talk : Talk Store SessionEvent}

theorem start (talk : Talk Store SessionEvent) : StaysSignedOut talk.line talk where
  turns := List.suffix_rfl
  cleared := by
    intro hends
    rw [Line.doingsUntil_self] at hends
    exact absurd hends not_endsSignedOut_nil

/-- Others may sign out during an exchange, or bring something. -/
theorem send (hstays : StaysSignedOut line talk) (order : Order) :
    StaysSignedOut line (BackendClient.send .alone talk order).1 := by
  obtain ⟨used, hused⟩ := hstays.turns
  obtain ⟨n, -, hrest, hdoings, -⟩ := talk.line.exchange_turns manner order
  have hturns : (used ++ talk.line.turns.take n) ++ (talk.line.exchange manner order).1.turns =
      line.turns := by
    rw [hrest, List.append_assoc, List.take_append_drop, hused]
  have hbefore := Line.doingsUntil_of_append hused
  have hafter : line.doingsUntil (talk.line.exchange manner order).1 =
      line.doingsUntil talk.line ++ (talk.line.exchange manner order).2.1 := by
    rw [Line.doingsUntil_of_append hturns, hbefore, hdoings, List.flatMap_append]
  refine ⟨⟨_, hturns⟩, ?_⟩
  intro hends
  have hboth : EndsSignedOut (line.doingsUntil talk.line ++
      (talk.line.exchange manner order).2.1) := hafter ▸ hends
  rcases hboth.of_append with hlast | ⟨hearlier, hbrings⟩
  · exact Store.session_run_of_endsSignedOut _ hlast
  · have hcleared := hstays.cleared hearlier
    exact (congrArg Store.session (Store.run_of_cleared hcleared hbrings)).trans hcleared

/-- The call itself may make a change that leaves a cleared session cleared. -/
theorem put (hstays : StaysSignedOut line talk) {next : Store}
    (hkeeps : talk.session.session = .cleared → next = talk.session) :
    StaysSignedOut line { talk with session := next } where
  turns := hstays.turns
  cleared := by
    intro hends
    have hcleared := hstays.cleared hends
    exact (congrArg Store.session (hkeeps hcleared)).trans hcleared

/-- No step of a call undoes a sign-out. -/
theorem keeps (line : Line SessionEvent) (issued : Option Ticket) :
    Stage.alone.Keeps issued (StaysSignedOut line) where
  send _ order hstays := hstays.send order
  complete _ ticket token _ hstays :=
    hstays.put fun hcleared => Store.completeRefresh_of_cleared hcleared ticket token
  signOut _ ticket _ hstays :=
    hstays.put fun hcleared => Store.logoutIfCurrent_of_cleared hcleared ticket

end StaysSignedOut

/-! ### Calls -/

/-- Others sign out while a call is under way and bring nothing afterwards. After a
call that refreshes under a ticket the session is cleared, whatever was answered.
After the restoring of a session it is cleared where the backend remembers nothing;
where it remembers a user and a token, they are signed in again. -/
theorem signed_out_unless_remembered (client : BackendClient) (talk : Talk Store SessionEvent) :
    (∀ (α : Type) (call : TicketedCall α),
      let ending := call.run client .alone talk
      ending.line.turns <:+ talk.line.turns ∧
        (EndsSignedOut (talk.line.doingsUntil ending.line) → ending.session.session = .cleared)) ∧
    let ending := (client.bootstrap .alone talk).1
    ending.line.turns <:+ talk.line.turns ∧
      match (client.remembered .alone talk).2 with
      | .error _ =>
          EndsSignedOut (talk.line.doingsUntil ending.line) → ending.session.session = .cleared
      | .ok (user, token) => ending.session.session = ⟨some user, some token, true, false⟩ := by
  have hstart := StaysSignedOut.start talk
  constructor
  · intro α call ending
    have hending : StaysSignedOut talk.line ending :=
      Stage.Keeps.run client (StaysSignedOut.keeps talk.line _) hstart call
    exact ⟨hending.turns, hending.cleared⟩
  · have hasked := (StaysSignedOut.keeps talk.line none).remembered client hstart
    unfold BackendClient.bootstrap
    rcases hremembered : client.remembered .alone talk with ⟨asked, found⟩
    rw [hremembered] at hasked
    have hloaded : StaysSignedOut talk.line
        (BackendClient.update .alone (Store.setLoading false) asked) :=
      hasked.put fun hcleared => Store.setLoading_of_cleared hcleared false
    -- a rejection and every other fault end loading alike
    rcases found with (fault | fault | fault | fault) | ⟨user, token⟩
    case ok => exact ⟨hasked.turns, rfl⟩
    all_goals exact ⟨hloaded.turns, hloaded.cleared⟩

/-- A refresh that is answered after a sign-out leaves the session cleared. -/
theorem signed_out_after_refresh :
    let client : BackendClient := ⟨"http://[::1]:9000", {}⟩
    let answer := encode "\x7b\"accessToken\":\"new\",\"user\":\x7b\"id\":\"7\"\x7d\x7d".toList
    let talk : Talk Store SessionEvent := ⟨Store.initial.setAuth { id := "7" } ⟨"old"⟩,
      .ofTurns true [⟨[.logout], .reply ⟨200, [], some answer⟩⟩], []⟩
    let call : TicketedCall Unit := .refresh
    EndsSignedOut (talk.line.doingsUntil (call.run client .alone talk).line) ∧
      (call.run client .alone talk).session.session = .cleared := by
  intro client answer talk call
  have hturns : (call.run client .alone talk).line.turns.isEmpty = true := by decide +kernel
  have hdoings : talk.line.doingsUntil (call.run client .alone talk).line = [.logout] :=
    Line.doingsUntil_of_isEmpty hturns
  have hends : EndsSignedOut (talk.line.doingsUntil (call.run client .alone talk).line) :=
    ⟨[], [], hdoings, by simp⟩
  obtain ⟨hcalls, -⟩ := signed_out_unless_remembered client talk
  exact ⟨hends, (hcalls Unit call).2 hends⟩

/-- The restoring of a session that is answered after a sign-out signs in again. -/
theorem signed_in_after_restoring :
    let client : BackendClient := ⟨"http://[::1]:9000", {}⟩
    let answer := encode "\x7b\"accessToken\":\"new\",\"user\":\x7b\"id\":\"7\"\x7d\x7d".toList
    let talk : Talk Store SessionEvent := ⟨Store.initial.setAuth { id := "7" } ⟨"old"⟩,
      .ofTurns true [⟨[.logout], .reply ⟨200, [], some answer⟩⟩], []⟩
    let ending := (client.bootstrap .alone talk).1
    EndsSignedOut (talk.line.doingsUntil ending.line) ∧
      ending.session.session.token = some ⟨"new"⟩ ∧ ending.session.session ≠ .cleared := by
  intro client answer talk ending
  have hturns : ending.line.turns.isEmpty = true := by decide +kernel
  have hdoings : talk.line.doingsUntil ending.line = [.logout] :=
    Line.doingsUntil_of_isEmpty hturns
  have htoken : ending.session.session.token = some ⟨"new"⟩ := by decide +kernel
  refine ⟨⟨[], [], hdoings, by simp⟩, htoken, ?_⟩
  intro hcleared
  rw [hcleared] at htoken
  cases htoken

end SignedAccess
