/-
# The moment of a refresh

A refused request is refreshed under the ticket that was issued before it was sent,
and the refresh shows the token that the session holds once the refusal has come. In
between others may have put an end to the login. The journal of a call tells which
token was shown: that of the ticket's login where nothing superseded it, and
otherwise one that others have brought.
-/

import SignedAccess.Proofs.Session.Account
import SignedAccess.Proofs.Backend.Call
import SignedAccess.Proofs.Session.Ticket

namespace SignedAccess

/-! ### The token after a run -/

/-- The token after a run was brought during the run, unless nothing superseded the
login and the token was there before. -/
theorem Store.mem_log_of_token_run {store : Store} {events : List SessionEvent}
    {token : AccessToken} (htoken : (store.run events).session.token = some token) :
    token ∈ (store.log events).filterMap LogEntry.token? ∨
      (store.log events).all (!·.supersedes) = true ∧ store.session.token = some token := by
  induction events generalizing store with
  | nil => exact Or.inr ⟨rfl, htoken⟩
  | cons event events ih =>
      rw [run_cons] at htoken
      rw [log_cons, List.filterMap_cons, List.all_cons]
      rcases ih htoken with hlater | ⟨hkept, hnext⟩
      · left
        split
        · exact hlater
        · exact List.mem_cons_of_mem _ hlater
      · rw [session_apply, LogEntry.change] at hnext
        cases hclears : (store.entry event).clears with
        | true =>
            rw [hclears] at hnext
            cases hnext
        | false =>
            simp only [hclears, Bool.false_eq_true, if_false] at hnext
            cases hbrought : (store.entry event).token? with
            | some brought =>
                rw [hbrought, Option.some_or] at hnext
                cases hnext
                exact Or.inl List.mem_cons_self
            | none =>
                have hsigns : (store.entry event).signsIn = false := by
                  cases event with
                  | setAuth user token => cases hbrought
                  | _ => rfl
                rw [hbrought, Option.none_or] at hnext
                refine Or.inr ⟨?_, hnext⟩
                rw [hkept, LogEntry.supersedes, hsigns, hclears]
                rfl

/-- A token that is there after an entry superseded the login was brought by that entry
or by a later one. -/
theorem Store.mem_of_token_run {store : Store} {events : List SessionEvent}
    {earlier later : List LogEntry} {entry : LogEntry} {token : AccessToken}
    (hlog : store.log events = earlier ++ entry :: later)
    (hsupersedes : entry.supersedes = true)
    (htoken : (store.run events).session.token = some token) :
    token ∈ (entry :: later).filterMap LogEntry.token? := by
  have hrest : (store.run (events.take earlier.length)).log (events.drop earlier.length) =
      entry :: later := by
    rw [← drop_log, hlog, List.drop_left]
  rw [← List.take_append_drop earlier.length events, run_append] at htoken
  rcases mem_log_of_token_run htoken with hbrought | ⟨hkept, -⟩
  · rwa [hrest] at hbrought
  · rw [hrest, List.all_cons, hsupersedes] at hkept
    cases hkept

/-! ### What a call sends -/

namespace BackendClient

variable {α σ ε : Type} (client : BackendClient) (stage : Stage σ ε) (talk : Talk σ ε)

/-- A request signed with a token. -/
def signedOrder (request : SignedRequest) (token : Option AccessToken) : Order where
  method := request.method
  address := client.url request.path
  bearer := token.map (·.secret)
  json := request.body

/-- The request for a new token that shows the old one. -/
def refreshOrder (token : Option AccessToken) : Order where
  method := "POST"
  address := client.url client.paths.refresh
  bearer := token.map (·.secret)
  json := none

theorem journal_sendSigned (request : SignedRequest) :
    (client.sendSigned stage talk request).1.journal =
      (talk.session, client.signedOrder request (stage.token talk.session)) :: talk.journal := rfl

theorem journal_refreshFor (ticket : Ticket) :
    (client.refreshFor stage talk ticket).1.journal =
      (talk.session, client.refreshOrder (stage.token talk.session)) :: talk.journal := by
  have hposted : (client.postRefresh stage talk (stage.token talk.session)).1.journal =
      (talk.session, client.refreshOrder (stage.token talk.session)) :: talk.journal := rfl
  unfold refreshFor
  split
  · rename_i hpost
    rwa [hpost] at hposted
  · rename_i hpost
    rwa [hpost] at hposted

theorem journal_retry (request : SignedRequest) (reader : List UInt8 → Except Json.Fault α)
    (ticket : Ticket) :
    (client.retry stage talk request reader ticket).1.journal =
      (talk.session, client.signedOrder request (stage.token talk.session)) :: talk.journal := by
  simp only [retry]
  split <;> rfl

/-- A signed request is sent first. A refresh follows only where it is refused and
someone was signed in before, and then perhaps the request once more. -/
theorem journal_sendJson (request : SignedRequest) (reader : List UInt8 → Except Json.Fault α) :
    let sent := client.sendSigned stage talk request
    let journal := (client.sendJson stage talk request reader).1.journal
    journal = sent.1.journal ∨
      isRefused sent.2 = true ∧ (stage.view talk.session).beginRefresh.isSome = true ∧
        ∃ again : List σ, journal =
          again.map (fun s => (s, client.signedOrder request (stage.token s))) ++
            (sent.1.session, client.refreshOrder (stage.token sent.1.session)) ::
              sent.1.journal := by
  intro sent journal
  simp only [journal, sendJson]
  split
  · exact Or.inl rfl
  · rename_i hrefused
    split
    · exact Or.inl rfl
    · rename_i ticket hticket
      refine Or.inr ⟨by simpa using hrefused, by rw [hticket]; rfl, ?_⟩
      have hrefreshed := client.journal_refreshFor stage sent.1 ticket
      split
      · rename_i asked hrefresh
        rw [hrefresh] at hrefreshed
        refine ⟨[asked.session], ?_⟩
        rw [journal_retry, hrefreshed]
        rfl
      · rename_i hrefresh
        rw [hrefresh] at hrefreshed
        exact ⟨[], hrefreshed⟩
      · rename_i hrefresh
        rw [hrefresh] at hrefreshed
        split
        · exact ⟨[], hrefreshed⟩
        · exact ⟨[], hrefreshed⟩

/-- Once a signed request is refused, others have done what stands in the first turn. -/
theorem session_sendSigned {store : Store} {line : Line SessionEvent} {request : SignedRequest}
    (hrefused : isRefused (client.sendSigned .alone ⟨store, line, []⟩ request).2 = true) :
    (client.sendSigned .alone ⟨store, line, []⟩ request).1.session =
      store.run ((line.turns.take 1).flatMap (·.meanwhile)) := by
  cases houtcome : (client.sendSigned .alone ⟨store, line, []⟩ request).2 with
  | error fault =>
      rw [houtcome] at hrefused
      cases hrefused
  | ok reply =>
      obtain ⟨used, -, -, hdoings, hanswered⟩ :=
        line.exchange_turns manner (client.signedOrder request store.session.token)
      rw [hanswered reply houtcome] at hdoings
      exact congrArg store.run hdoings

/-- The second request of a signed call, if there is one, is the refresh of a refused
one; all others are the signed request. -/
theorem of_journal_sendJson {store moment : Store} {line : Line SessionEvent}
    {request : SignedRequest} {reader : List UInt8 → Except Json.Fault α} {i : Nat} {order : Order}
    (hsent : (client.sendJson .alone ⟨store, line, []⟩ request reader).1.journal.reverse[i]? =
      some (moment, order)) :
    if i = 1 then
      store.beginRefresh.isSome = true ∧
        moment = store.run ((line.turns.take 1).flatMap (·.meanwhile)) ∧
        order = client.refreshOrder moment.session.token
    else order = client.signedOrder request moment.session.token := by
  rcases client.journal_sendJson .alone ⟨store, line, []⟩ request reader with
    hjournal | ⟨hrefused, hin, again, hjournal⟩
  · rw [hjournal, journal_sendSigned] at hsent
    cases i with
    | zero =>
        cases hsent
        rfl
    | succ i => cases hsent
  · rw [hjournal, journal_sendSigned, List.reverse_append] at hsent
    rcases i with _ | _ | i
    · cases hsent
      rfl
    · cases hsent
      exact ⟨hin, client.session_sendSigned hrefused, rfl⟩
    · have hagain : (again.map _).reverse[i]? = some (moment, order) := hsent
      obtain ⟨s, -, hentry⟩ := List.mem_map.1 (List.mem_reverse.1 (List.mem_of_getElem? hagain))
      cases hentry
      rfl

/-- A refresh sends one request at most, at once. -/
theorem of_journal_refresh {store moment : Store} {line : Line SessionEvent} {i : Nat}
    {order : Order}
    (hsent : (client.refresh .alone ⟨store, line, []⟩).1.journal.reverse[i]? =
      some (moment, order)) :
    i = 0 ∧ store.beginRefresh.isSome = true ∧ moment = store ∧
      order = client.refreshOrder store.session.token := by
  simp only [refresh] at hsent
  split at hsent
  · cases hsent
  · rename_i ticket hticket
    change store.beginRefresh = some ticket at hticket
    rw [journal_refreshFor] at hsent
    cases i with
    | zero =>
        cases hsent
        exact ⟨rfl, by rw [hticket]; rfl, rfl, rfl⟩
    | succ i => cases hsent

end BackendClient

namespace TicketedCall

variable {α ε : Type}

/-- The signed request of a call; a refresh has none. -/
def request? : TicketedCall α → Option SignedRequest
  | .send request _ => some request
  | .fetch path _ => some ⟨"GET", path, none⟩
  | .refresh => none

/-- The place of the refresh among the requests of a call. -/
def refreshPlace : TicketedCall α → Nat
  | .refresh => 0
  | _ => 1

/-- What others do after the ticket of a call is issued and before its refresh. -/
def doingsBefore (call : TicketedCall α) (line : Line ε) : List ε :=
  match call with
  | .refresh => []
  | _ => (line.turns.take 1).flatMap (·.meanwhile)

theorem of_journal_run {client : BackendClient} {call : TicketedCall α} {store moment : Store}
    {line : Line SessionEvent} {i : Nat} {order : Order}
    (hsent : (call.run client .alone ⟨store, line, []⟩).journal.reverse[i]? =
      some (moment, order)) :
    if i = call.refreshPlace then
      store.beginRefresh.isSome = true ∧ moment = store.run (call.doingsBefore line) ∧
        order = client.refreshOrder moment.session.token
    else call.request?.map (client.signedOrder · moment.session.token) = some order := by
  cases call with
  | send request reader =>
      have hentry := client.of_journal_sendJson hsent
      simp only [refreshPlace, doingsBefore, request?, Option.map_some, Option.some.injEq]
      rwa [eq_comm (b := order)]
  | fetch path reader =>
      have hentry := client.of_journal_sendJson hsent
      simp only [refreshPlace, doingsBefore, request?, Option.map_some, Option.some.injEq]
      rwa [eq_comm (b := order)]
  | refresh =>
      obtain ⟨rfl, hin, rfl, horder⟩ := client.of_journal_refresh hsent
      exact ⟨hin, rfl, horder⟩

end TicketedCall

/-! ### The refresh of a call -/

/-- A call has sent a request. At the place of the refresh this is a refresh under the
ticket of the login at the start, with the token that the session holds at that
moment. The ticket is still good exactly when nothing that others did since then
superseded the login; a token shown after something did was brought by that or later.
At any other place it is the signed request of the call. -/
theorem refresh_is_current_iff_undisturbed {α : Type} (client : BackendClient)
    (call : TicketedCall α) (store moment : Store) (line : Line SessionEvent) (i : Nat)
    (order : Order)
    (hsent : (call.run client .alone ⟨store, line, []⟩).journal.reverse[i]? =
      some (moment, order)) :
    let log := store.log (call.doingsBefore line)
    if i = call.refreshPlace then
      store.beginRefresh = some ⟨store.generation⟩ ∧
        moment = store.run (call.doingsBefore line) ∧
        order = client.refreshOrder moment.session.token ∧
        (moment.isCurrent ⟨store.generation⟩ = true ↔ log.all (!·.supersedes) = true) ∧
        (∀ earlier entry later, log = earlier ++ entry :: later → entry.supersedes = true →
          ∀ token, moment.session.token = some token →
            token ∈ (entry :: later).filterMap LogEntry.token?)
    else call.request?.map (client.signedOrder · moment.session.token) = some order := by
  intro log
  have hentry := TicketedCall.of_journal_run hsent
  split at hentry
  · rename_i hplace
    obtain ⟨hissued, rfl, horder⟩ := hentry
    obtain ⟨ticket, hticket⟩ := Option.isSome_iff_exists.1 hissued
    obtain ⟨hin, rfl⟩ := Store.beginRefresh_eq_some_iff.1 hticket
    rw [if_pos hplace]
    refine ⟨hticket, rfl, horder, ?_, ?_⟩
    · have happlied := Store.completeRefresh_run_iff hin (call.doingsBefore line)
      simpa using happlied ⟨""⟩
    · intro earlier entry later hlog hsupersedes token htoken
      exact Store.mem_of_token_run hlog hsupersedes htoken
  · rename_i hplace
    rwa [if_neg hplace]

/-- A change of the user during the refused request leaves the ticket good, and the
refresh shows the token of its login. -/
theorem refresh_is_current_after_change_of_user :
    let client : BackendClient := ⟨"http://[::1]:9000", {}⟩
    let call : TicketedCall Unit := .fetch "/orders" fun _ => .ok ()
    let store := Store.initial.setAuth { id := "7" } ⟨"old"⟩
    let line : Line SessionEvent :=
      .ofTurns true [⟨[.setUser { id := "7b" }], .reply ⟨401, [], none⟩⟩]
    ∃ moment order,
      (call.run client .alone ⟨store, line, []⟩).journal.reverse[1]? = some (moment, order) ∧
        order = client.refreshOrder (some ⟨"old"⟩) ∧
        moment.isCurrent ⟨store.generation⟩ = true := by
  intro client call store line
  have hasked : (call.run client .alone ⟨store, line, []⟩).journal.reverse[1]?.isSome = true := by
    decide +kernel
  obtain ⟨⟨moment, order⟩, hsent⟩ := Option.isSome_iff_exists.1 hasked
  obtain ⟨-, hmoment, horder, hcurrent, -⟩ :=
    refresh_is_current_iff_undisturbed client call store moment line 1 order hsent
  refine ⟨moment, order, hsent, ?_, hcurrent.2 rfl⟩
  rw [horder, hmoment]
  rfl

/-- Others sign out and in again while a request is on its way to be refused. The
refresh under the ticket of the login that is gone shows the token of the new one. -/
theorem refresh_shows_token_of_other_login :
    let client : BackendClient := ⟨"http://[::1]:9000", {}⟩
    let call : TicketedCall Unit := .fetch "/orders" fun _ => .ok ()
    let store := Store.initial.setAuth { id := "7" } ⟨"old"⟩
    let line : Line SessionEvent :=
      .ofTurns true [⟨[.logout, .setAuth { id := "8" } ⟨"fresh"⟩], .reply ⟨401, [], none⟩⟩]
    ∃ moment order,
      (call.run client .alone ⟨store, line, []⟩).journal.reverse[1]? = some (moment, order) ∧
        store.beginRefresh = some ⟨store.generation⟩ ∧
        order = client.refreshOrder (some ⟨"fresh"⟩) ∧
        moment.session.user.map (·.id) = some "8" ∧
        moment.isCurrent ⟨store.generation⟩ = false := by
  intro client call store line
  have hasked : (call.run client .alone ⟨store, line, []⟩).journal.reverse[1]?.isSome = true := by
    decide +kernel
  obtain ⟨⟨moment, order⟩, hsent⟩ := Option.isSome_iff_exists.1 hasked
  obtain ⟨-, hmoment, horder⟩ := TicketedCall.of_journal_run hsent
  refine ⟨moment, order, hsent, rfl, ?_, ?_, ?_⟩
  · rw [horder, hmoment]
    rfl
  · rw [hmoment]
    rfl
  · rw [hmoment]
    rfl

end SignedAccess
