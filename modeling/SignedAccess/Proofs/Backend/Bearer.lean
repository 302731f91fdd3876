/-
# Where tokens go

A login and the question at the start whom the backend remembers show no token. The
question who a token belongs to shows the token that the answer just before it brought.
Every other request shows the token that the session holds when it goes out, or none.
`requests_show_token_of_moment` says this of all runs, read off their chronicles, with what
the peers see of the requests; and it says where a token that is shown after a sign-out has
come from.

The address of a request may name a user, and then the user's name is shown too, before the
token and where there is no token. A base address that names nobody is no protection against
that: a path that begins with no slash is read on where the base address ends. Nor is a
sign-out the end of a token: others may complete a refresh of the next login with it.
`named_user_or_earlier_token_is_shown` has such a path and such a refresh.
-/

import SignedAccess.Proofs.Address.UserInfo
import SignedAccess.Proofs.Backend.Chronicle
import SignedAccess.Proofs.Backend.SignedOut

namespace SignedAccess

open Json

/-! ### What the peers see -/

/-- An address that names no user is sent as it is, without a header for its user. -/
theorem takeUserInfo_of_userInfo?_eq_none {a : Address} (hnone : a.userInfo? = none) :
    takeUserInfo a = (a, none) := by
  unfold takeUserInfo
  split
  · rename_i info host port hauthority
    rw [Address.userInfo?, hauthority] at hnone
    cases hnone
  · rfl

theorem scheme_takeUserInfo (a : Address) : (takeUserInfo a).1.scheme = a.scheme := by
  unfold takeUserInfo
  split
  · split
    · rfl
    · dsimp only
      split <;> rfl
  · rfl

/-- What is sent for an order shows the user whom the address names and then the token. -/
theorem Order.of_prepare {order : Order} {parcel : Parcel} (hprepare : order.prepare = .ok parcel) :
    ∃ whole, Address.read order.address.toList = .ok whole ∧
      (whole.scheme = "http" ∨ whole.scheme = "https") ∧
      parcel.address = (takeUserInfo whole).1 ∧
      parcel.authorizations =
        (takeUserInfo whole).2.toList ++ (order.bearer.map bearerValue).toList := by
  unfold prepare at hprepare
  split at hprepare
  case h_1 => cases hprepare
  case h_2 whole hread =>
    refine ⟨whole, hread, ?_⟩
    split at hprepare
    case isTrue => cases hprepare
    case isFalse =>
      simp only at hprepare
      split at hprepare
      case isTrue => cases hprepare
      case isFalse =>
        split at hprepare
        case isTrue => cases hprepare
        case isFalse hscheme =>
          split at hprepare
          case isTrue => cases hprepare
          case isFalse =>
            cases hprepare
            rw [scheme_takeUserInfo] at hscheme
            exact ⟨Decidable.or_iff_not_not_and_not.2 hscheme, rfl, rfl⟩

namespace Line

variable {ε : Type}

/-- What a peer in reach sees of a parcel. Where a tunnel is sought it sees the attempt. -/
def sightOf (line : Line ε) (manner : Manner) (parcel : Parcel) : Sight :=
  if line.tunnels parcel then tunnelSight parcel else line.sight manner parcel

/-- A request that can be sent is seen once where the peers are in reach, and no other is
seen. -/
theorem seen_exchange_eq (line : Line ε) (manner : Manner) (order : Order) :
    (line.exchange manner order).1.seen =
      match order.prepare with
      | .ok parcel =>
          if line.reachable then line.sightOf manner parcel :: line.seen else line.seen
      | .error _ => line.seen := by
  cases hprepare : order.prepare with
  | error fault => rw [exchange_of_error manner hprepare]
  | ok parcel =>
      cases hreachable : line.reachable with
      | false =>
          obtain ⟨fault, hexchange⟩ :=
            @exchange_of_unreachable ε line order manner hreachable
          rw [hexchange]
          rfl
      | true =>
          cases htunnels : line.tunnels parcel with
          | true => simp [exchange, hprepare, hreachable, htunnels, sightOf]
          | false =>
              rw [seen_exchange manner hprepare hreachable htunnels]
              simp [sightOf, htunnels]

/-- Peers in reach see one sight of every order that can be sent, in the order in which
they are sent, and nothing else. -/
theorem seen_after_ready (line : Line ε) (manner : Manner) (orders : List Order) :
    ∃ sights, (line.after manner orders).seen = sights.reverse ++ line.seen ∧
      List.Forall₂ (fun sight order => ∃ parcel, order.prepare = .ok parcel ∧
        ∃ moment : Line ε, moment.answersSecure = line.answersSecure ∧
          sight = moment.sightOf manner parcel) sights
        (if line.reachable then orders.filter (·.prepare.isOk) else []) := by
  induction orders generalizing line with
  | nil => exact ⟨[], rfl, by cases line.reachable <;> exact .nil⟩
  | cons order orders ih =>
      obtain ⟨sights, hseen, hsights⟩ := ih (line.exchange manner order).1
      obtain ⟨hkeeps, hsecure⟩ := line.keeps_exchange manner order
      rw [hkeeps, hsecure] at hsights
      have hafter : (line.after manner (order :: orders)).seen =
          sights.reverse ++ (line.exchange manner order).1.seen := hseen
      rw [seen_exchange_eq] at hafter
      cases hprepare : order.prepare with
      | error fault =>
          rw [hprepare] at hafter
          refine ⟨sights, hafter, ?_⟩
          rwa [List.filter_cons_of_neg (by simp [hprepare, Except.isOk, Except.toBool])]
      | ok parcel =>
          rw [hprepare] at hafter
          cases hreachable : line.reachable with
          | false =>
              rw [hreachable] at hafter hsights
              exact ⟨sights, hafter, hsights⟩
          | true =>
              rw [hreachable] at hafter hsights
              refine ⟨line.sightOf manner parcel :: sights, ?_, ?_⟩
              · rw [hafter, List.reverse_cons, List.append_assoc]
                rfl
              · rw [if_pos rfl,
                  List.filter_cons_of_pos (by simp [hprepare, Except.isOk, Except.toBool])]
                exact .cons ⟨parcel, hprepare, line, rfl, rfl⟩ hsights

end Line

/-- The address to which an errand leads names a user. -/
def Errand.namesUser (client : BackendClient) (errand : Errand) : Bool :=
  match Address.read (client.url (errand.path client)).toList with
  | .ok a => a.userInfo?.isSome
  | .error _ => false

/-- What the address to which an errand leads shows of the user whom it names. -/
def Errand.userValue? (client : BackendClient) (errand : Errand) : Option String :=
  match Address.read (client.url (errand.path client)).toList with
  | .ok a => (takeUserInfo a).2
  | .error _ => none

/-- An address that names nobody shows nothing of a user. -/
theorem Errand.userValue?_of_namesUser {client : BackendClient} {errand : Errand}
    (hnobody : errand.namesUser client = false) : errand.userValue? client = none := by
  unfold namesUser at hnobody
  unfold userValue?
  split
  · rename_i a hread
    rw [hread] at hnobody
    have hnone : a.userInfo? = none := by simpa using hnobody
    rw [takeUserInfo_of_userInfo?_eq_none hnone]
  · rfl

/-- The token that goes with a request. -/
def Request.token? (request : Request) : Option AccessToken :=
  request.errand.token? request.moment.session.token

/-- A request can be sent where peers are in reach. -/
def Request.isReady (client : BackendClient) (request : Request) : Bool :=
  (request.order client).prepare.isOk

/-- What a peer sees of a request: method, address and body are those of the request, and
so is the token. An address that names a user shows this user before the token, and no other
address shows anything else. Where a tunnel is sought to a secure address a peer sees the
attempt, which shows nothing. -/
def Sight.Bears (client : BackendClient) (answersSecure : Bool) (sight : Sight)
    (request : Request) : Prop :=
  ∃ parcel, (request.order client).prepare = .ok parcel ∧
    if parcel.address.scheme = "https" ∧ answersSecure = false then
      sight = Line.tunnelSight parcel
    else
      let value? := request.token?.map fun token => Line.shown (bearerValue token.secret)
      sight.Shows (request.order client) parcel ∧
        sight.authorizations =
          ((request.errand.userValue? client).map Line.shown).toList ++ value?.toList ∧
        (request.errand.namesUser client = false → sight.authorizations = value?.toList)

theorem Line.bears_sightOf {ε : Type} (line : Line ε) (manner : Manner) {client : BackendClient}
    {request : Request} {parcel : Parcel}
    (hprepare : (request.order client).prepare = .ok parcel) :
    (line.sightOf manner parcel).Bears client line.answersSecure request := by
  refine ⟨parcel, hprepare, ?_⟩
  unfold sightOf
  cases htunnels : line.tunnels parcel with
  | true =>
      have hsought : parcel.address.scheme = "https" ∧ line.answersSecure = false := by
        simpa [tunnels] using htunnels
      rw [if_pos hsought, if_pos rfl]
  | false =>
      have hopen : ¬(parcel.address.scheme = "https" ∧ line.answersSecure = false) := by
        rintro ⟨hscheme, hsecure⟩
        rcases tunnels_eq_false_iff.1 htunnels with hplain | hanswers
        · exact hplain hscheme
        · rw [hsecure] at hanswers
          cases hanswers
      rw [if_neg hopen, if_neg Bool.false_ne_true]
      have hshows : (line.sight manner parcel).Shows (request.order client) parcel :=
        ⟨hprepare, rfl, rfl, rfl, rfl, rfl⟩
      obtain ⟨whole, hread, -, -, hauthorizations⟩ := Order.of_prepare hprepare
      have hvalue : request.errand.userValue? client = (takeUserInfo whole).2 := by
        change Address.read (client.url (request.errand.path client)).toList = _ at hread
        simp only [Errand.userValue?, hread]
      have hseen : (line.sight manner parcel).authorizations =
          ((request.errand.userValue? client).map shown).toList ++
            (request.token?.map fun token => shown (bearerValue token.secret)).toList := by
        rw [hshows.authorizations, hauthorizations, List.map_append, hvalue]
        simp only [Request.order, Errand.order, Request.token?, Option.toList_map, List.map_map]
        rfl
      refine ⟨hshows, hseen, fun hnobody => ?_⟩
      rw [hseen, Errand.userValue?_of_namesUser hnobody]
      rfl

/-- A base address that names nobody leads to no named user on a path that begins with a
slash. -/
theorem Errand.namesUser_of_slash {client : BackendClient} {base : Address}
    (hbase : Address.read client.baseUrl.toList = .ok base) (hnone : base.userInfo? = none)
    {request : Request} (hslash : (request.errand.path client).toList.head? = some '/')
    (hready : request.isReady client = true) : request.errand.namesUser client = false := by
  cases hprepare : (request.order client).prepare with
  | error fault =>
      rw [Request.isReady, hprepare] at hready
      cases hready
  | ok parcel =>
      obtain ⟨whole, hread, hscheme, -⟩ := Order.of_prepare hprepare
      change Address.read (client.url (request.errand.path client)).toList = .ok whole at hread
      obtain ⟨path, hpath⟩ := List.head?_eq_some_iff.1 hslash
      have hport : hasDefaultPort whole.scheme = true := by
        rcases hscheme with hscheme | hscheme <;> rw [hscheme] <;> decide
      have htext : (client.url (request.errand.path client)).toList =
          client.baseUrl.toList ++ '/' :: path := by
        rw [BackendClient.url, String.toList_append, hpath]
      have hwhole := hread
      rw [htext] at hwhole
      have hnobody := Address.userInfo?_read_append hbase hnone hwhole hport
      simp only [namesUser, hread, hnobody, Option.isSome_none]

/-! ### What answers lead to -/

/-- Where a token of its own making takes a client, what went before: it identifies the
token that the answer just before brought without a user, and it takes up the token that
the answer just before brought. -/
def Happening.FollowsOn (before : Option Happening) : Happening → Prop
  | .asked (.identify token) => ∃ outcome, before = some (.told .restore outcome) ∧
      refreshPayload outcome = .ok ⟨token, none⟩
  | .own (.completeRefresh _ token) => ∃ outcome payload, before = some (.told .renew outcome) ∧
      refreshPayload outcome = .ok payload ∧ payload.token = token
  | _ => True

/-- Every happening follows on the one before it. -/
def Linked (before : Option Happening) : List Happening → Prop
  | [] => True
  | happening :: history => happening.FollowsOn before ∧ Linked (some happening) history

theorem linked_append {before : Option Happening} {earlier later : List Happening} :
    Linked before (earlier ++ later) ↔
      Linked before earlier ∧ Linked (earlier.getLast?.or before) later := by
  induction earlier generalizing before with
  | nil => simp [Linked]
  | cons happening earlier ih =>
      have hlast : (happening :: earlier).getLast?.or before =
          earlier.getLast?.or (some happening) := by
        cases earlier with
        | nil => rfl
        | cons next others => simp [List.getLast?_cons]
      rw [List.cons_append, Linked, Linked, ih, hlast, and_assoc]

/-- What needs nothing before it may follow on anything. -/
theorem Linked.of_none {history : List Happening} (hlinked : Linked none history)
    (before : Option Happening) : Linked before history := by
  cases history with
  | nil => exact trivial
  | cons happening history =>
      refine ⟨?_, hlinked.2⟩
      have hfree := hlinked.1
      unfold Happening.FollowsOn at hfree ⊢
      split at hfree
      · obtain ⟨_, hnone, -⟩ := hfree
        cases hnone
      · obtain ⟨_, _, hnone, -⟩ := hfree
        cases hnone
      · exact trivial

/-- Answers and the doings of others follow on anything. -/
theorem linked_answer (before : Option Happening) (events : List SessionEvent) (errand : Errand)
    (outcome : Except ExchangeFault Reply) :
    Linked before (events.map .others ++ [.told errand outcome]) := by
  induction events generalizing before with
  | nil => exact ⟨trivial, trivial⟩
  | cons event events ih => exact ⟨trivial, ih _⟩

namespace BackendClient

variable (client : BackendClient) (talk : Talk Store SessionEvent)

theorem linked_history_ask {before : Option Happening} {errand : Errand} {moves : List Move} :
    Linked before (client.history talk (.ask errand :: moves)) ↔
      (Happening.asked errand).FollowsOn before ∧
        Linked (some (.told errand (client.ask talk errand).2))
          (client.history (client.ask talk errand).1 moves) := by
  have hhistory : client.history talk (.ask errand :: moves) =
      .asked errand :: ((talk.line.exchanged manner
          (errand.order client talk.session.session.token)).meanwhile.map .others ++
        [.told errand (client.ask talk errand).2] ++
          client.history (client.ask talk errand).1 moves) := by
    rw [ask, send_alone]
    rfl
  rw [hhistory, Linked, linked_append, and_iff_right (linked_answer ..), List.getLast?_concat,
    Option.some_or]

theorem linked_history_own {before : Option Happening} {event : SessionEvent}
    {moves : List Move} :
    Linked before (client.history talk (.own event :: moves)) ↔
      (Happening.own event).FollowsOn before ∧
        Linked (some (.own event)) (client.history (happen talk event) moves) := Iff.rfl

theorem linked_loginMoves (credentials : Value) :
    Linked none (client.history talk (client.loginMoves talk credentials)) := by
  rw [loginMoves, linked_history_ask]
  refine ⟨trivial, ?_⟩
  split
  · exact ⟨trivial, trivial⟩
  · exact trivial

theorem linked_bootstrapMoves :
    Linked none (client.history talk (client.bootstrapMoves talk)) := by
  rw [bootstrapMoves, linked_history_ask]
  refine ⟨trivial, ?_⟩
  split
  · exact ⟨trivial, trivial⟩
  · rename_i hpayload
    rw [identifyMoves, linked_history_ask]
    refine ⟨⟨_, rfl, hpayload⟩, ?_⟩
    split <;> exact ⟨trivial, trivial⟩
  · exact ⟨trivial, trivial⟩

theorem linked_refreshMoves (ticket : Ticket) :
    Linked none (client.history talk (client.refreshMoves talk ticket)) := by
  rw [refreshMoves, linked_history_ask]
  refine ⟨trivial, ?_⟩
  split
  · rename_i payload hpayload
    exact ⟨⟨_, payload, rfl, hpayload, rfl⟩, trivial⟩
  · exact trivial

theorem linked_retryMoves (before : Option Happening) (request : SignedRequest)
    (ticket : Ticket) :
    Linked before (client.history talk (client.retryMoves talk request ticket)) := by
  rw [retryMoves, linked_history_ask]
  refine ⟨trivial, ?_⟩
  generalize isRefused (client.ask talk (.signed request)).2 = refused
  cases refused with
  | false => exact trivial
  | true => exact ⟨trivial, trivial⟩

theorem linked_renewMoves (before : Option Happening) (request : SignedRequest)
    (ticket : Ticket) :
    Linked before (client.history talk (client.renewMoves talk request ticket)) := by
  rw [renewMoves, linked_history_ask]
  refine ⟨trivial, ?_⟩
  split
  · rename_i payload hpayload
    rw [linked_history_own]
    refine ⟨⟨_, payload, rfl, hpayload, rfl⟩, ?_⟩
    generalize ((client.ask talk .renew).1.session.completeRefresh ticket payload.token).2 = taken
    cases taken with
    | false => exact trivial
    | true => exact client.linked_retryMoves _ _ request ticket
  · rename_i fault _
    cases fault.isRejection with
    | false => exact trivial
    | true => exact ⟨trivial, trivial⟩

theorem linked_signedMoves (request : SignedRequest) :
    Linked none (client.history talk (client.signedMoves talk request)) := by
  rw [signedMoves, linked_history_ask]
  refine ⟨trivial, ?_⟩
  generalize isRefused (client.ask talk (.signed request)).2 = refused
  cases refused with
  | false => exact trivial
  | true =>
      cases talk.session.beginRefresh with
      | none => exact trivial
      | some ticket => exact client.linked_renewMoves _ _ request ticket

/-- What happens with a command is linked. -/
theorem linked_moves (command : BackendCommand SessionEvent) :
    Linked none (client.history talk (client.moves talk command)) := by
  cases command with
  | login credentials => exact client.linked_loginMoves talk credentials
  | bootstrap => exact client.linked_bootstrapMoves talk
  | refresh =>
      rw [moves]
      split
      · exact client.linked_refreshMoves talk _
      · exact trivial
  | logout =>
      rw [moves]
      split
      · rw [List.singleton_append, linked_history_ask]
        exact ⟨trivial, trivial, trivial⟩
      · exact ⟨trivial, trivial⟩
  | establish user token => exact ⟨trivial, trivial⟩
  | send request => exact client.linked_signedMoves talk request
  | fetch path => exact client.linked_signedMoves talk _
  | fetchUser path => exact client.linked_signedMoves talk _
  | aside event => exact ⟨trivial, trivial⟩

theorem linked_chronicle (commands : List (BackendCommand SessionEvent)) :
    Linked none (client.chronicle talk commands) := by
  induction commands generalizing talk with
  | nil => exact trivial
  | cons command commands ih =>
      exact linked_append.2 ⟨client.linked_moves talk command, (ih _).of_none _⟩

/-! ### Which command leads to which errand -/

theorem asked_mem_history {errand : Errand} {moves : List Move}
    (hasked : .asked errand ∈ client.history talk moves) : .ask errand ∈ moves := by
  induction moves generalizing talk with
  | nil => cases hasked
  | cons move moves ih =>
      rw [history] at hasked
      rcases List.mem_append.1 hasked with hhere | hlater
      · cases move with
        | ask other =>
            simp only [happenings, List.mem_cons, List.mem_append, List.mem_map, reduceCtorEq,
              and_false, exists_false, List.not_mem_nil, or_false, Happening.asked.injEq] at hhere
            rw [hhere]
            exact List.mem_cons_self
        | own event => simp [happenings] at hhere
        | others event => simp [happenings] at hhere
      · exact List.mem_cons_of_mem _ (ih _ hlater)

theorem mem_ask_cons {errand first : Errand} {moves : List Move}
    (hmem : .ask errand ∈ Move.ask first :: moves) : errand = first ∨ .ask errand ∈ moves :=
  (List.mem_cons.1 hmem).imp_left Move.ask.inj

theorem mem_retryMoves {errand : Errand} {request : SignedRequest} {ticket : Ticket}
    (hmem : .ask errand ∈ client.retryMoves talk request ticket) : errand = .signed request := by
  rcases mem_ask_cons hmem with hsigned | hmem
  · exact hsigned
  · split at hmem <;> simp at hmem

theorem mem_renewMoves {errand : Errand} {request : SignedRequest} {ticket : Ticket}
    (hmem : .ask errand ∈ client.renewMoves talk request ticket) :
    errand = .signed request ∨ errand = .renew := by
  rcases mem_ask_cons hmem with hrenew | hmem
  · exact Or.inr hrenew
  · split at hmem
    · rcases List.mem_cons.1 hmem with hown | hmem
      · cases hown
      · split at hmem
        · exact Or.inl (client.mem_retryMoves _ hmem)
        · cases hmem
    · split at hmem <;> simp at hmem

theorem mem_signedMoves {errand : Errand} {request : SignedRequest}
    (hmem : .ask errand ∈ client.signedMoves talk request) :
    errand = .signed request ∨ errand = .renew := by
  rcases mem_ask_cons hmem with hsigned | hmem
  · exact Or.inl hsigned
  · split at hmem
    · split at hmem
      · exact client.mem_renewMoves _ hmem
      · cases hmem
    · cases hmem

/-- A command leads to its own errands only. -/
theorem mayAsk_of_mem {command : BackendCommand SessionEvent} {errand : Errand}
    (hasked : .asked errand ∈ client.history talk (client.moves talk command)) :
    command.MayAsk errand := by
  have hmem := client.asked_mem_history talk hasked
  have hsigned : ∀ request, .ask errand ∈ client.signedMoves talk request →
      errand = .signed request ∨ errand = .renew := fun _ => client.mem_signedMoves talk
  cases command with
  | login credentials =>
      rcases mem_ask_cons hmem with hlogin | hmem
      · exact hlogin ▸ rfl
      · split at hmem <;> simp at hmem
  | bootstrap =>
      rcases mem_ask_cons hmem with hrestore | hmem
      · exact hrestore ▸ trivial
      · split at hmem
        · simp at hmem
        · rcases mem_ask_cons hmem with hidentify | hmem
          · exact hidentify ▸ trivial
          · split at hmem <;> simp at hmem
        · simp at hmem
  | refresh =>
      simp only [moves] at hmem
      split at hmem
      · rcases mem_ask_cons hmem with hrenew | hmem
        · exact hrenew ▸ trivial
        · split at hmem <;> simp at hmem
      · cases hmem
  | logout =>
      simp only [moves] at hmem
      split at hmem
      · rcases mem_ask_cons hmem with hdepart | hmem
        · exact hdepart ▸ trivial
        · simp at hmem
      · simp at hmem
  | establish user token => simp [moves] at hmem
  | send request =>
      rcases hsigned request hmem with hsent | hrenew
      · exact hsent ▸ rfl
      · exact hrenew ▸ trivial
  | fetch path =>
      rcases hsigned _ hmem with hsent | hrenew
      · exact hsent ▸ rfl
      · exact hrenew ▸ trivial
  | fetchUser path =>
      rcases hsigned _ hmem with hsent | hrenew
      · exact hsent ▸ rfl
      · exact hrenew ▸ trivial
  | aside event => simp [moves] at hmem

end BackendClient

/-! ### Where a token comes from -/

/-- The token that an operation puts into a session. -/
def SessionEvent.token? : SessionEvent → Option AccessToken
  | .setAuth _ token => some token
  | .setToken token => some token
  | .completeRefresh _ token => some token
  | _ => none

/-- A happening brings a token: a client establishes a session with it, others put it in,
or the answer to a refresh holds it. -/
def Happening.Brings (token : AccessToken) : Happening → Prop
  | .own (.completeRefresh _ _) => False
  | .own event => event.token? = some token
  | .others event => event.token? = some token
  | .told .restore outcome =>
      ∃ payload, refreshPayload outcome = .ok payload ∧ payload.token = token
  | .told .renew outcome =>
      ∃ payload, refreshPayload outcome = .ok payload ∧ payload.token = token
  | _ => False

theorem Store.token_apply {store : Store} {event : SessionEvent} {token : AccessToken}
    (htoken : (store.apply event).1.session.token = some token) :
    store.session.token = some token ∨ event.token? = some token := by
  cases event with
  | setAuth user brought => exact Or.inr htoken
  | setUser user => exact Or.inl htoken
  | setToken brought => exact Or.inr htoken
  | logout =>
      simp only [apply, logout] at htoken
      split at htoken
      · exact Or.inl htoken
      · cases htoken
  | setLoading loading =>
      simp only [apply, setLoading] at htoken
      split at htoken <;> exact Or.inl htoken
  | beginRefresh => exact Or.inl htoken
  | completeRefresh ticket brought =>
      simp only [apply, completeRefresh] at htoken
      split at htoken
      · exact Or.inr htoken
      · exact Or.inl htoken
  | logoutIfCurrent ticket =>
      simp only [apply, logoutIfCurrent] at htoken
      split at htoken
      · cases htoken
      · exact Or.inl htoken

/-- A token that a session holds after a run was there before, or an operation put it in. -/
theorem Store.token_run {store : Store} {events : List SessionEvent} {token : AccessToken}
    (htoken : (store.run events).session.token = some token) :
    store.session.token = some token ∨ ∃ event ∈ events, event.token? = some token := by
  induction events generalizing store with
  | nil => exact Or.inl htoken
  | cons event events ih =>
      rcases ih htoken with hbefore | ⟨other, hmem, hother⟩
      · rcases token_apply hbefore with hstore | hevent
        · exact Or.inl hstore
        · exact Or.inr ⟨event, List.mem_cons_self, hevent⟩
      · exact Or.inr ⟨other, List.mem_cons_of_mem _ hmem, hother⟩

/-- What a happening follows on stands right before it. -/
theorem Linked.followsOn {front rest : List Happening} {happening : Happening}
    (hlinked : Linked none (front ++ happening :: rest)) : happening.FollowsOn front.getLast? := by
  have hhere := (linked_append.1 hlinked).2.1
  rwa [Option.or_none] at hhere

/-- An answer on which something follows came after the last event before it. -/
theorem mem_of_getLast?_told {front middle : List Happening} {last told : Happening}
    (hevent : last.event? ≠ none) (htold : told.event? = none)
    (hlast : (front ++ last :: middle).getLast? = some told) : told ∈ middle := by
  rw [List.getLast?_append_of_ne_nil _ (List.cons_ne_nil _ _)] at hlast
  cases middle with
  | nil =>
      cases hlast
      exact absurd htold hevent
  | cons next others =>
      rw [List.getLast?_cons_cons] at hlast
      exact List.mem_of_getLast? hlast

/-- A token that is shown when none was held after an earlier event has been brought in
between. -/
theorem brought_of_shown {store : Store} {front middle rest : List Happening} {last : Happening}
    {errand : Errand} {token : AccessToken}
    (hlinked : Linked none (front ++ last :: (middle ++ .asked errand :: rest)))
    (hevent : last.event? ≠ none)
    (hnone : (store.run (eventsIn (front ++ [last]))).session.token = none)
    (hshown : errand.token? (store.run (eventsIn (front ++ last :: middle))).session.token =
      some token) :
    ∃ happening ∈ middle, happening.Brings token := by
  have hbefore : ∀ {near far : List Happening} {happening : Happening},
      middle ++ .asked errand :: rest = near ++ happening :: far →
      happening.FollowsOn (front ++ last :: near).getLast? := by
    intro near far happening hsplit
    rw [hsplit, ← List.cons_append, ← List.append_assoc] at hlinked
    exact hlinked.followsOn
  have hheld : (store.run (eventsIn (front ++ last :: middle))).session.token = some token →
      ∃ happening ∈ middle, happening.Brings token := by
    intro htoken
    rw [← List.singleton_append, ← List.append_assoc, eventsIn_append, Store.run_append] at htoken
    rcases Store.token_run htoken with hearlier | ⟨event, hmem, hbrought⟩
    · rw [hnone] at hearlier
      cases hearlier
    · obtain ⟨happening, hmiddle, hhappening⟩ := List.mem_filterMap.1 hmem
      cases happening with
      | asked errand => cases hhappening
      | told errand outcome => cases hhappening
      | others other =>
          cases hhappening
          exact ⟨_, hmiddle, hbrought⟩
      | own other =>
          cases hhappening
          cases event with
          | completeRefresh ticket taken =>
              -- The client takes a token up right after the answer that brought it.
              obtain ⟨near, far, rfl⟩ := List.append_of_mem hmiddle
              have hfollows : (Happening.own (.completeRefresh ticket taken)).FollowsOn
                  (front ++ last :: near).getLast? :=
                hbefore (List.append_assoc near _ _)
              obtain ⟨outcome, payload, htold, hpayload, htaken⟩ := hfollows
              have hanswer : .told .renew outcome ∈ near := mem_of_getLast?_told hevent rfl htold
              cases hbrought
              exact ⟨.told .renew outcome, List.mem_append_left _ hanswer, payload, hpayload,
                htaken⟩
          | _ => exact ⟨_, hmiddle, hbrought⟩
  cases errand with
  | login credentials => cases hshown
  | restore => cases hshown
  | identify other =>
      obtain ⟨outcome, htold, hpayload⟩ := hbefore rfl
      have hmem := mem_of_getLast?_told hevent rfl htold
      cases hshown
      exact ⟨_, hmem, ⟨_, none⟩, hpayload, rfl⟩
  | renew => exact hheld hshown
  | depart => exact hheld hshown
  | signed request => exact hheld hshown

open BackendClient in
/-- The requests of a run, read off its chronicle. The chronicle leads to the session, and
the journal holds the requests with the session at the moment of each. Peers in reach see
just the requests that can be sent, in their order, and each shows the token that goes with
it or none, and nothing else unless its address names a user, whom it shows before the token.
With a base address that names nobody no path that begins with a slash names one. Each
command leads to its own errands only: a login and the first question of a start show no
token, and what identifies a token follows right on the answer that brought it without a
user; every other request shows what the session holds. So a token that is shown after the
session was left without one, as by a sign-out, has been brought in between: a client
established a session with it, others put it in, or an answer to a refresh held it. -/
theorem requests_show_token_of_moment (client : BackendClient) (store : Store)
    (line : Line SessionEvent) (commands : List (BackendCommand SessionEvent)) :
    let start : Talk Store SessionEvent := ⟨store, line, []⟩
    let ending := client.run .alone start commands
    let history := client.chronicle start commands
    let requests := requestsIn store history
    (ending.session = store.run (eventsIn history) ∧
      ending.journal.reverse =
        requests.map fun request => (request.moment, request.order client)) ∧
    (∃ sights, ending.line.seen = sights.reverse ++ line.seen ∧
      List.Forall₂ (fun sight request => sight.Bears client line.answersSecure request) sights
        (if line.reachable then requests.filter (·.isReady client) else [])) ∧
    (∀ base, Address.read client.baseUrl.toList = .ok base → base.userInfo? = none →
      ∀ request : Request, (request.errand.path client).toList.head? = some '/' →
        request.isReady client = true → request.errand.namesUser client = false) ∧
    (∀ talk command errand,
      .asked errand ∈ client.history talk (client.moves talk command) → command.MayAsk errand) ∧
    (∀ front token rest, history = front ++ .asked (.identify token) :: rest →
      ∃ earlier outcome, front = earlier ++ [.told .restore outcome] ∧
        refreshPayload outcome = .ok ⟨token, none⟩) ∧
    (∀ moment : Store, moment.logout.session.token = none) ∧
    ∀ front last middle errand rest token,
      history = front ++ last :: (middle ++ .asked errand :: rest) → last.event? ≠ none →
      (store.run (eventsIn (front ++ [last]))).session.token = none →
      errand.token? (store.run (eventsIn (front ++ last :: middle))).session.token =
        some token →
      ∃ happening ∈ middle, happening.Brings token := by
  intro start ending history requests
  have htells : client.Tells start ending history := client.tells_run start commands
  have hlinked : Linked none history := client.linked_chronicle start commands
  refine ⟨⟨htells.session_eq, htells.journal_eq⟩, ?_, ?_, ?_, ?_, ?_, ?_⟩
  · obtain ⟨sights, hseen, hsights⟩ :=
      line.seen_after_ready manner (requests.map fun request => request.order client)
    refine ⟨sights, htells.line_eq ▸ hseen, ?_⟩
    have hready : (if line.reachable then
          (requests.map fun request => request.order client).filter (·.prepare.isOk) else []) =
        (if line.reachable then requests.filter (·.isReady client) else []).map
          fun request => request.order client := by
      rw [List.filter_map]
      cases line.reachable <;> rfl
    rw [hready, List.forall₂_map_right_iff] at hsights
    refine hsights.imp fun sight request hsight => ?_
    obtain ⟨parcel, hprepare, moment, hsecure, rfl⟩ := hsight
    exact hsecure ▸ moment.bears_sightOf manner hprepare
  · intro base hbase hnone request hslash hready
    exact Errand.namesUser_of_slash hbase hnone hslash hready
  · exact fun talk command errand hasked => client.mayAsk_of_mem talk hasked
  · intro front token rest hsplit
    rw [hsplit] at hlinked
    obtain ⟨outcome, htold, hpayload⟩ := hlinked.followsOn
    obtain ⟨earlier, hfront⟩ := List.getLast?_eq_some_iff.1 htold
    exact ⟨earlier, outcome, hfront, hpayload⟩
  · exact fun moment => by rw [Store.session_logout]; rfl
  · intro front last middle errand rest token hsplit hevent hnone hshown
    rw [hsplit] at hlinked
    exact brought_of_shown hlinked hevent hnone hshown

/-- A base address that names nobody is read on by a path without a slash, and the request
shows a user, be it that the session holds a token or none. And after a sign-out a token from
before it is shown again once others complete a refresh of the next login with it. -/
theorem named_user_or_earlier_token_is_shown :
    let client : BackendClient := ⟨"http://[::1]:9000", {}⟩
    let store := Store.initial.setAuth { id := "7" } ⟨"old"⟩
    let line : Line SessionEvent := .ofTurns true [⟨[], .reply ⟨200, [], none⟩⟩]
    let nobody := client.run .alone ⟨.initial, line, []⟩ [.fetch "@[::1]:9000/orders"]
    let named := client.run .alone ⟨store, line, []⟩ [.fetch "@[::1]:9000/orders"]
    let again := client.run .alone ⟨store, line, []⟩ [.aside .logout,
      .aside (.setAuth { id := "8" } ⟨"new"⟩), .aside .beginRefresh,
      .aside (.completeRefresh ⟨3⟩ ⟨"old"⟩), .fetch "/orders"]
    ((Address.read client.baseUrl.toList).toOption.map (·.userInfo?) = some none ∧
      (nobody.journal.map (·.1.session.token) = [none] ∧
        nobody.line.seen.map (·.authorizations) = [["Basic Wzo6MV06OTAwMA=="]]) ∧
      named.journal.map (·.1.session.token) = [some ⟨"old"⟩] ∧
      named.line.seen.map (·.authorizations) = [["Basic Wzo6MV06OTAwMA==", "Bearer old"]]) ∧
    again.line.seen.map (·.authorizations) = [["Bearer old"]] := by
  decide +kernel

end SignedAccess
