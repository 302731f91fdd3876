/-
# The line to the other side

A line is what one client has between itself and its peers: whether they can be
reached at all, whether they answer at secure addresses too, the turns that are
still to come, the cookies, and the requests that the peers have seen. A turn
says what others do after a request has arrived and before it is answered, and
then how it is answered. When no turn is left every request is answered by a
server error.

A request that cannot be sent takes no turn. On a line that does not answer at
secure addresses such an address is sought through a tunnel, and none opens: the
peer sees the attempt and the exchange fails. On one that does, a request to a
secure address takes its turn like any other.
-/

import SignedAccess.Exchange.Message
import SignedAccess.Exchange.Cookie

namespace SignedAccess

open Text

/-- How a request that arrived is answered. -/
inductive Answer
  | reply (r : Reply)
  | drop
  | silence

/-- One request's turn: what others do meanwhile, and the answer. -/
structure Turn (ε : Type) where
  meanwhile : List ε
  answer : Answer

/-- A request as the peer sees it. -/
structure Sight where
  method : String
  address : String
  host : String
  authorizations : List String
  contentType : Option String
  userAgent : Option String
  cookies : List String
  body : List UInt8

/-- What a peer finds that looks for one authorization only. -/
def Sight.authorization (sight : Sight) : Option String := sight.authorizations.head?

/-- A client's side of its exchanges. -/
structure Line (ε : Type) where
  reachable : Bool
  /-- Requests to secure addresses are answered. -/
  answersSecure : Bool
  turns : List (Turn ε)
  jar : Jar
  /-- The requests seen so far, the latest first. -/
  seen : List Sight

/-- What a client says of itself, and whether it keeps cookies. -/
structure Manner where
  userAgent : Option String
  keepsCookies : Bool

namespace Line

variable {ε : Type}

/-- A line with turns to come, which answers at plain addresses only. -/
def ofTurns (reachable : Bool) (turns : List (Turn ε)) : Line ε :=
  ⟨reachable, false, turns, [], []⟩

/-- The answer when no turn is left. -/
def exhausted : Turn ε :=
  ⟨[], .reply ⟨500, [], some (encode "script exhausted".toList)⟩⟩

/-- A header value as the peer sees it. -/
def shown (value : String) : String :=
  String.ofList (dropEnds (fun c => c == ' ' || c == '\t') value.toList)

/-- A parcel as the peer sees it. -/
def sight (line : Line ε) (manner : Manner) (parcel : Parcel) : Sight where
  method := parcel.method
  address := String.ofList parcel.address.writtenWithoutFragment
  host := String.ofList ((parcel.address.host?.map fun host =>
    hostAndPort host parcel.address.port?).getD [])
  authorizations := parcel.authorizations.map shown
  contentType := parcel.contentType
  userAgent := manner.userAgent
  cookies := if manner.keepsCookies then line.jar.forAddress parcel.address else []
  body := parcel.body

/-- A parcel for which a tunnel is sought, and not found. -/
def tunnels (line : Line ε) (parcel : Parcel) : Bool :=
  parcel.address.scheme == "https" && !line.answersSecure

/-- The attempt to open a tunnel to a secure address, as the peer sees it. -/
def tunnelSight (parcel : Parcel) : Sight :=
  let host := (parcel.address.host?.map Host.written).getD []
  let target := String.ofList (host ++ ':' :: decimal (parcel.address.port?.getD 443))
  ⟨"CONNECT", target, target, [], none, none, [], []⟩

/-- An answer to this request carries no body, whatever it announces. -/
def isBodiless (method : String) (status : Nat) : Bool :=
  method == "HEAD" || status == 204 || status == 304

/-- One exchange: the line after it, what others did meanwhile, and the answer
or why there is none. -/
def exchange (line : Line ε) (manner : Manner) (order : Order) :
    Line ε × List ε × Except ExchangeFault Reply :=
  match order.prepare with
  | .error fault => (line, [], .error fault)
  | .ok parcel =>
      let address := parcel.address.toString
      if !line.reachable then
        (line, [], .error (.notSent address (.unreachable (line.tunnels parcel))))
      else if line.tunnels parcel then
        ({ line with seen := tunnelSight parcel :: line.seen }, [],
          .error (.notSent address .noTunnel))
      else
        let turn := line.turns.head?.getD exhausted
        let line := { line with
          turns := line.turns.tail
          seen := line.sight manner parcel :: line.seen }
        match turn.answer with
        | .drop => (line, turn.meanwhile, .error (.notSent address .closed))
        | .silence => (line, turn.meanwhile, .error (.timedOut address))
        | .reply r =>
            let jar :=
              if manner.keepsCookies then r.setCookies.foldl (Jar.put parcel.address) line.jar
              else line.jar
            let body := if isBodiless parcel.method r.status then some [] else r.body
            ({ line with jar }, turn.meanwhile, .ok { r with body })

end Line

end SignedAccess
