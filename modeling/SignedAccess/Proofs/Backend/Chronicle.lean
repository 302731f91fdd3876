/-
# The chronicle of a client

A client asks the backend on few errands, and which errand comes next hangs on the
answers alone. So what a client does can be written down as a list of moves: it asks, it
changes its session, and others change it. `BackendClient.moves` says which moves a
command leads to, and `play` carries them out; `perform_eq_play` says that a client does
just that. The chronicle of a run tells all that happened in its order, with what others
did while a request was under way between the request and its answer.

The session after a run, the requests with the session at the moment of each, and what
the peers have seen are read off the chronicle alone.
-/

import SignedAccess.Backend.Command
import SignedAccess.Proofs.Backend.Course

namespace SignedAccess

open Json

/-! ### Errands -/

/-- What a client asks the backend for. -/
inductive Errand
  | login (credentials : Value)
  /-- Whom the backend remembers, asked at the start. -/
  | restore
  | identify (token : AccessToken)
  | renew
  | depart
  | signed (request : SignedRequest)

namespace Errand

/-- The token that is shown on an errand, where the session holds one or none. A login and
the question whom the backend remembers show none, the question who a token belongs to
shows that token, and all others show the one that is held. -/
def token? (held : Option AccessToken) : Errand → Option AccessToken
  | .login _ => none
  | .restore => none
  | .identify token => some token
  | .renew => held
  | .depart => held
  | .signed _ => held

/-- The path that an errand leads to. -/
def path (client : BackendClient) : Errand → String
  | .login _ => client.paths.login
  | .restore => client.paths.refresh
  | .identify _ => client.paths.me
  | .renew => client.paths.refresh
  | .depart => client.paths.logout
  | .signed request => request.path

/-- The request that is made on an errand. -/
def order (client : BackendClient) (held : Option AccessToken) (errand : Errand) : Order where
  method :=
    match errand with
    | .identify _ => "GET"
    | .signed request => request.method
    | _ => "POST"
  address := client.url (errand.path client)
  bearer := (errand.token? held).map (·.secret)
  json :=
    match errand with
    | .login credentials => some credentials
    | .signed request => request.body
    | _ => none

end Errand

/-- A command leads to an errand at most where this says so. -/
def BackendCommand.MayAsk {ε : Type} : BackendCommand ε → Errand → Prop
  | .login credentials, .login shown => shown = credentials
  | .bootstrap, .restore => True
  | .bootstrap, .identify _ => True
  | .refresh, .renew => True
  | .logout, .depart => True
  | .send request, .signed sent => sent = request
  | .send _, .renew => True
  | .fetch path, .signed sent => sent = ⟨"GET", path, none⟩
  | .fetch _, .renew => True
  | .fetchUser path, .signed sent => sent = ⟨"GET", path, none⟩
  | .fetchUser _, .renew => True
  | _, _ => False

/-! ### Moves -/

/-- One thing that is done to a session or with it. -/
inductive Move
  | ask (errand : Errand)
  | own (event : SessionEvent)
  | others (event : SessionEvent)

/-- What the answer to a refresh brings, if it can be read. -/
def refreshPayload (outcome : Except ExchangeFault Reply) : Except BackendFault RefreshPayload :=
  readOutcome RefreshPayload.record.readAll outcome

namespace BackendClient

variable (client : BackendClient) (talk : Talk Store SessionEvent)

/-- Ask the backend on an errand. -/
def ask (errand : Errand) : Talk Store SessionEvent × Except ExchangeFault Reply :=
  send .alone talk (errand.order client talk.session.session.token)

/-- The talk after an event of its session. -/
def happen (event : SessionEvent) : Talk Store SessionEvent :=
  { talk with session := (talk.session.apply event).1 }

/-- The talk after a move. -/
def move : Move → Talk Store SessionEvent
  | .ask errand => (client.ask talk errand).1
  | .own event => happen talk event
  | .others event => happen talk event

/-- The talk after moves in a row. -/
def play (talk : Talk Store SessionEvent) (moves : List Move) : Talk Store SessionEvent :=
  moves.foldl client.move talk

@[simp]
theorem play_nil : client.play talk [] = talk := rfl

@[simp]
theorem play_cons (move : Move) (moves : List Move) :
    client.play talk (move :: moves) = client.play (client.move talk move) moves := rfl

/-- The moves of a login. -/
def loginMoves (credentials : Value) : List Move :=
  .ask (.login credentials) ::
    match readOutcome AuthPayload.record.readAll (client.ask talk (.login credentials)).2 with
    | .ok payload => [.own (.setAuth payload.user payload.token)]
    | .error _ => []

/-- The moves by which a token that came without its user gets one. -/
def identifyMoves (token : AccessToken) : List Move :=
  .ask (.identify token) ::
    match readOutcome User.read (client.ask talk (.identify token)).2 with
    | .ok user => [.own (.setAuth user token)]
    | .error _ => [.own (.setLoading false)]

/-- The moves at the start. -/
def bootstrapMoves : List Move :=
  .ask .restore ::
    match refreshPayload (client.ask talk .restore).2 with
    | .ok ⟨token, some user⟩ => [.own (.setAuth user token)]
    | .ok ⟨token, none⟩ => client.identifyMoves (client.ask talk .restore).1 token
    | .error _ => [.own (.setLoading false)]

/-- The moves of a refresh under a ticket. -/
def refreshMoves (ticket : Ticket) : List Move :=
  .ask .renew ::
    match refreshPayload (client.ask talk .renew).2 with
    | .ok payload => [.own (.completeRefresh ticket payload.token)]
    | .error _ => []

/-- The moves that send a signed request once more. -/
def retryMoves (request : SignedRequest) (ticket : Ticket) : List Move :=
  .ask (.signed request) ::
    if isRefused (client.ask talk (.signed request)).2 then [.own (.logoutIfCurrent ticket)]
    else []

/-- The moves after a signed request was refused under a ticket. -/
def renewMoves (request : SignedRequest) (ticket : Ticket) : List Move :=
  let asked := (client.ask talk .renew).1
  .ask .renew ::
    match refreshPayload (client.ask talk .renew).2 with
    | .ok payload =>
        .own (.completeRefresh ticket payload.token) ::
          if (asked.session.completeRefresh ticket payload.token).2 then
            client.retryMoves (happen asked (.completeRefresh ticket payload.token)) request ticket
          else []
    | .error fault => if fault.isRejection then [.own (.logoutIfCurrent ticket)] else []

/-- The moves of a signed call. -/
def signedMoves (request : SignedRequest) : List Move :=
  .ask (.signed request) ::
    if isRefused (client.ask talk (.signed request)).2 then
      match talk.session.beginRefresh with
      | some ticket => client.renewMoves (client.ask talk (.signed request)).1 request ticket
      | none => []
    else []

/-- The moves to which a command leads. -/
def moves : BackendCommand SessionEvent → List Move
  | .login credentials => client.loginMoves talk credentials
  | .bootstrap => client.bootstrapMoves talk
  | .refresh =>
      match talk.session.beginRefresh with
      | some ticket => client.refreshMoves talk ticket
      | none => []
  | .logout => (if talk.session.session.token.isSome then [.ask .depart] else []) ++ [.own .logout]
  | .establish user token => [.own (.setAuth user token)]
  | .send request => client.signedMoves talk request
  | .fetch path => client.signedMoves talk ⟨"GET", path, none⟩
  | .fetchUser path => client.signedMoves talk ⟨"GET", path, none⟩
  | .aside event => [.others event]

/-! ### A client does its moves -/

theorem establish_alone (user : User) (token : AccessToken) :
    establish .alone talk user token = happen talk (.setAuth user token) := rfl

theorem endLoading_alone :
    update .alone (Store.setLoading false) talk = happen talk (.setLoading false) := rfl

theorem signOut_alone (ticket : Ticket) :
    signOut .alone talk ticket = happen talk (.logoutIfCurrent ticket) := rfl

theorem login_eq_play (credentials : Value) :
    (client.login .alone talk credentials).1 =
      client.play talk (client.loginMoves talk credentials) := by
  have hsend : send .alone talk ⟨"POST", client.url client.paths.login, none, some credentials⟩ =
      client.ask talk (.login credentials) := rfl
  simp only [login, loginMoves, hsend, establish_alone, play_cons, move]
  cases readOutcome AuthPayload.record.readAll (client.ask talk (.login credentials)).2 <;> rfl

/-- A refresh is an errand, and its answer is read as a payload. -/
theorem postRefresh_of_ask {errand : Errand} {token : Option AccessToken}
    (horder : errand.order client talk.session.session.token =
      ⟨"POST", client.url client.paths.refresh, token.map (·.secret), none⟩) :
    client.postRefresh .alone talk token =
      ((client.ask talk errand).1, refreshPayload (client.ask talk errand).2) := by
  rw [postRefresh, ask, horder]
  rcases send .alone talk ⟨"POST", client.url client.paths.refresh, token.map (·.secret), none⟩ with
    ⟨asked, outcome⟩
  rfl

theorem fetchMe_alone (token : AccessToken) :
    client.fetchMe .alone talk token =
      ((client.ask talk (.identify token)).1,
        readOutcome User.read (client.ask talk (.identify token)).2) := by
  have hsend : send .alone talk ⟨"GET", client.url client.paths.me, some token.secret, none⟩ =
      client.ask talk (.identify token) := rfl
  rw [fetchMe, hsend]

theorem bootstrap_eq_play :
    (client.bootstrap .alone talk).1 = client.play talk (client.bootstrapMoves talk) := by
  have hpost := @postRefresh_of_ask client talk .restore none rfl
  simp only [bootstrap, remembered, bootstrapMoves, hpost, establish_alone, endLoading_alone,
    play_cons, move]
  rcases refreshPayload (client.ask talk .restore).2 with fault | ⟨token, user | user⟩
  · cases fault <;> rfl
  · simp only [fetchMe_alone, identifyMoves, play_cons, move]
    rcases readOutcome User.read (client.ask (client.ask talk .restore).1 (.identify token)).2 with
      fault | user
    · cases fault <;> rfl
    · rfl
  · rfl

theorem refreshFor_alone (ticket : Ticket) :
    client.refreshFor .alone talk ticket =
      match refreshPayload (client.ask talk .renew).2 with
      | .ok payload =>
          (happen (client.ask talk .renew).1 (.completeRefresh ticket payload.token),
            .ok ((client.ask talk .renew).1.session.completeRefresh ticket payload.token).2)
      | .error fault => ((client.ask talk .renew).1, .error fault) := by
  have hpost := @postRefresh_of_ask client talk .renew (Stage.alone.token talk.session) rfl
  rw [refreshFor, hpost]
  rcases client.ask talk .renew with ⟨asked, outcome⟩
  cases refreshPayload outcome <;> rfl

theorem refreshFor_eq_play (ticket : Ticket) :
    (client.refreshFor .alone talk ticket).1 =
      client.play talk (client.refreshMoves talk ticket) := by
  simp only [refreshFor_alone, refreshMoves, play_cons, move]
  cases refreshPayload (client.ask talk .renew).2 <;> rfl

theorem retry_eq_play {α : Type} (request : SignedRequest) (reader : List UInt8 → Except Fault α)
    (ticket : Ticket) :
    (client.retry .alone talk request reader ticket).1 =
      client.play talk (client.retryMoves talk request ticket) := by
  have hsent : client.sendSigned .alone talk request = client.ask talk (.signed request) := rfl
  simp only [retry, retryMoves, hsent, signOut_alone, play_cons, move]
  split <;> rfl

theorem renew_eq_play {α : Type} (request : SignedRequest) (reader : List UInt8 → Except Fault α)
    (ticket : Ticket) :
    (client.renew request reader .alone talk ticket).1 =
      client.play talk (client.renewMoves talk request ticket) := by
  simp only [renew, refreshFor_alone, renewMoves, signOut_alone, play_cons, move]
  cases refreshPayload (client.ask talk .renew).2 with
  | error fault =>
      dsimp only
      split <;> rfl
  | ok payload =>
      dsimp only
      cases ((client.ask talk .renew).1.session.completeRefresh ticket payload.token).2 with
      | false => rfl
      | true =>
          simp only [play_cons, move, if_true]
          exact client.retry_eq_play _ request reader ticket

theorem sendJson_eq_play {α : Type} (request : SignedRequest)
    (reader : List UInt8 → Except Fault α) :
    (client.sendJson .alone talk request reader).1 =
      client.play talk (client.signedMoves talk request) := by
  have hsent : client.sendSigned .alone talk request = client.ask talk (.signed request) := rfl
  have hticket : (Stage.alone.view talk.session).beginRefresh = talk.session.beginRefresh := rfl
  simp only [sendJson, signedMoves, hsent, hticket, play_cons, move]
  cases isRefused (client.ask talk (.signed request)).2 with
  | false => rfl
  | true =>
      cases talk.session.beginRefresh with
      | none => rfl
      | some ticket =>
          simp only [Bool.not_true, Bool.false_eq_true, if_false, if_true]
          refine Eq.trans ?_ (client.renew_eq_play _ request reader ticket)
          unfold renew
          rcases client.refreshFor .alone (client.ask talk (.signed request)).1 ticket with
            ⟨renewed, fault | taken⟩
          · rfl
          · cases taken <;> rfl

theorem fst_answered {α : Type} (reply : α → BackendReply)
    (ending : Talk Store SessionEvent × Except BackendFault α) :
    (answered reply ending).1 = ending.1 := by
  obtain ⟨ending, result⟩ := ending
  cases result <;> rfl

/-- A client does just its moves. -/
theorem perform_eq_play (command : BackendCommand SessionEvent) :
    (client.perform .alone talk command).1 = client.play talk (client.moves talk command) := by
  cases command with
  | login credentials => rw [perform, fst_answered, login_eq_play, moves]
  | bootstrap => rw [perform, fst_answered, bootstrap_eq_play, moves]
  | refresh =>
      have hticket : (Stage.alone.view talk.session).beginRefresh = talk.session.beginRefresh := rfl
      rw [perform, fst_answered, refresh, moves, hticket]
      cases talk.session.beginRefresh with
      | none => rfl
      | some ticket => exact client.refreshFor_eq_play talk ticket
  | logout =>
      have htoken : Stage.alone.token talk.session = talk.session.session.token := rfl
      simp only [perform, logout, moves, htoken]
      cases hheld : talk.session.session.token with
      | none => rfl
      | some token =>
          have hdepart : send .alone talk
              ⟨"POST", client.url client.paths.logout, some token.secret, none⟩ =
                client.ask talk .depart := by
            rw [ask, hheld]
            rfl
          simp only [hdepart]
          rfl
  | establish user token => rfl
  | send request => rw [perform, fst_answered, sendJson_eq_play, moves]
  | fetch path => rw [perform, fst_answered, getJson, sendJson_eq_play, moves]
  | fetchUser path => rw [perform, fst_answered, getJson, sendJson_eq_play, moves]
  | aside event => rfl

end BackendClient

/-! ### What happens -/

/-- One thing that happens during a run, in the order of time: a request goes out, the
answer to it or its failure comes, the client changes its session, or others do. -/
inductive Happening
  | asked (errand : Errand)
  | told (errand : Errand) (outcome : Except ExchangeFault Reply)
  | own (event : SessionEvent)
  | others (event : SessionEvent)

/-- The event of the session, if the happening is one. -/
def Happening.event? : Happening → Option SessionEvent
  | .own event => some event
  | .others event => some event
  | _ => none

/-- The events of the session in a history. -/
def eventsIn (history : List Happening) : List SessionEvent := history.filterMap Happening.event?

/-- A request, with the session at the moment when it goes out. -/
structure Request where
  moment : Store
  errand : Errand

/-- What is sent for a request. -/
def Request.order (client : BackendClient) (request : Request) : Order :=
  request.errand.order client request.moment.session.token

/-- The requests in a history that begins with a store. -/
def requestsIn (store : Store) : List Happening → List Request
  | [] => []
  | .asked errand :: history => ⟨store, errand⟩ :: requestsIn store history
  | .told _ _ :: history => requestsIn store history
  | .own event :: history => requestsIn (store.apply event).1 history
  | .others event :: history => requestsIn (store.apply event).1 history

@[simp]
theorem eventsIn_append (before after : List Happening) :
    eventsIn (before ++ after) = eventsIn before ++ eventsIn after :=
  List.filterMap_append

@[simp]
theorem eventsIn_map_others (events : List SessionEvent) :
    eventsIn (events.map .others) = events := by
  induction events with
  | nil => rfl
  | cons event events ih => exact congrArg (event :: ·) ih

theorem requestsIn_append (store : Store) (before after : List Happening) :
    requestsIn store (before ++ after) =
      requestsIn store before ++ requestsIn (store.run (eventsIn before)) after := by
  induction before generalizing store with
  | nil => rfl
  | cons happening before ih =>
      cases happening with
      | asked errand => exact congrArg _ (ih store)
      | told errand outcome => exact ih store
      | own event => exact ih _
      | others event => exact ih _

@[simp]
theorem requestsIn_map_others (store : Store) (events : List SessionEvent) :
    requestsIn store (events.map .others) = [] := by
  induction events generalizing store with
  | nil => rfl
  | cons event events ih => exact ih _

namespace BackendClient

variable (client : BackendClient) (talk : Talk Store SessionEvent)

/-- What happens with a move. -/
def happenings : Move → List Happening
  | .ask errand =>
      let exchanged := talk.line.exchanged manner (errand.order client talk.session.session.token)
      .asked errand :: (exchanged.meanwhile.map .others ++ [.told errand exchanged.outcome])
  | .own event => [.own event]
  | .others event => [.others event]

/-- What happens with moves in a row. -/
def history (talk : Talk Store SessionEvent) : List Move → List Happening
  | [] => []
  | move :: moves => client.happenings talk move ++ history (client.move talk move) moves

/-- All that happens while a client does what it is asked, one command after another. -/
def chronicle (talk : Talk Store SessionEvent) :
    List (BackendCommand SessionEvent) → List Happening
  | [] => []
  | command :: commands =>
      client.history talk (client.moves talk command) ++
        chronicle (client.perform .alone talk command).1 commands

/-- A talk went from its beginning to its end as a history tells. -/
structure Tells (before after : Talk Store SessionEvent) (history : List Happening) : Prop where
  session_eq : after.session = before.session.run (eventsIn history)
  journal_eq : after.journal.reverse = before.journal.reverse ++
    (requestsIn before.session history).map fun request => (request.moment, request.order client)
  line_eq : after.line = before.line.after manner
    ((requestsIn before.session history).map (·.order client))

theorem tells_refl : client.Tells talk talk [] where
  session_eq := rfl
  journal_eq := (List.append_nil _).symm
  line_eq := rfl

variable {client} in
theorem Tells.trans {before middle after : Talk Store SessionEvent}
    {earlier later : List Happening} (hearlier : client.Tells before middle earlier)
    (hlater : client.Tells middle after later) : client.Tells before after (earlier ++ later) where
  session_eq := by
    rw [hlater.session_eq, hearlier.session_eq, eventsIn_append, Store.run_append]
  journal_eq := by
    rw [hlater.journal_eq, hearlier.journal_eq, requestsIn_append, ← hearlier.session_eq,
      List.map_append, List.append_assoc]
  line_eq := by
    rw [hlater.line_eq, hearlier.line_eq, requestsIn_append, ← hearlier.session_eq,
      List.map_append, Line.after_append]

theorem tells_move (move : Move) :
    client.Tells talk (client.move talk move) (client.happenings talk move) := by
  cases move with
  | own event => exact ⟨rfl, (List.append_nil _).symm, rfl⟩
  | others event => exact ⟨rfl, (List.append_nil _).symm, rfl⟩
  | ask errand =>
      have hevents : ∀ (events : List SessionEvent) outcome,
          eventsIn (.asked errand :: (events.map .others ++ [.told errand outcome])) = events := by
        intro events outcome
        have hfirst : eventsIn (.asked errand :: (events.map .others ++ [.told errand outcome])) =
            eventsIn (events.map .others ++ [.told errand outcome]) := rfl
        rw [hfirst, eventsIn_append, eventsIn_map_others]
        exact List.append_nil _
      have hrequests : ∀ (events : List SessionEvent) outcome, requestsIn talk.session
          (.asked errand :: (events.map .others ++ [.told errand outcome])) =
            [⟨talk.session, errand⟩] := by
        intro events outcome
        rw [requestsIn, requestsIn_append, requestsIn_map_others]
        rfl
      constructor
      · simp only [BackendClient.move, ask, happenings, hevents, send_alone]
      · simp only [BackendClient.move, ask, happenings, hrequests, send_alone, List.reverse_cons]
        rfl
      · simp only [BackendClient.move, ask, happenings, hrequests, send_alone]
        rfl

theorem tells_play (moves : List Move) :
    client.Tells talk (client.play talk moves) (client.history talk moves) := by
  induction moves generalizing talk with
  | nil => exact client.tells_refl talk
  | cons move moves ih => exact (client.tells_move talk move).trans (ih _)

/-- A run goes as its chronicle tells. -/
theorem tells_run (commands : List (BackendCommand SessionEvent)) :
    client.Tells talk (client.run .alone talk commands) (client.chronicle talk commands) := by
  induction commands generalizing talk with
  | nil => exact client.tells_refl talk
  | cons command commands ih =>
      have hcommand := client.tells_play talk (client.moves talk command)
      rw [← perform_eq_play] at hcommand
      exact hcommand.trans (ih _)

end BackendClient

end SignedAccess
