/-
# What can be sent

Before a request is sent its address is read once more from its text, and some addresses
are given up at this point: those with a host whose text is no host, those with a host
that no target may name, and those that are too long. An address that was put together
from an origin passes unless it is too long. A request that is sent to a peer in reach
is seen there once and uses one turn, at a secure address only where the line answers
there.
-/

import SignedAccess.Exchange.Line
import SignedAccess.Proofs.Address.Reread

namespace SignedAccess

open Text

/-! ### Addresses that are sent as they are -/

/-- A host that a client can address: its text is read as this host again, and holds no
character that no target may hold. -/
structure Host.IsAddressable (host : Host) : Prop where
  reread : Host.read host.written = .ok host
  plain : host.written.any ['"', '\x60', '\x7b', '\x7d'].contains = false

theorem isTarget_signedAddress {scheme : String} {host : Host} {port : Option Nat}
    {segments : List (List Char)} {query : List Char} (hhost : host.IsAddressable) :
    isTarget (Address.signedAddress scheme host port segments query) =
      decide ((Address.signedAddress scheme host port segments query).written.length ≤
        longestTarget) := by
  have hplain : ((Address.signedAddress scheme host port segments query).host?.map
      Host.written).getD [] = host.written ∨
      ((Address.signedAddress scheme host port segments query).host?.map Host.written).getD [] =
        [] := by
    simp only [Address.host?, Address.signedAddress]
    split
    · exact Or.inr rfl
    · exact Or.inl rfl
  unfold isTarget
  rcases hplain with hwritten | hnone
  · rw [hwritten, hhost.plain, Bool.not_false, Bool.true_and]
  · rw [hnone, List.any_nil, Bool.not_false, Bool.true_and]

/-- An address that is put together from an origin, plain segments and a plain query is
sent as it is unless it is too long. -/
theorem Order.prepare_signedAddress {scheme : String} {host : Host} {port : Option Nat}
    {segments : List (List Char)} {query : List Char}
    (hspoken : scheme = "http" ∨ scheme = "https") (hsettled : host.IsSettled)
    (hhost : host.IsAddressable) (hport : Address.KeepsPort scheme port) (hne : segments ≠ [])
    (hsegments : ∀ segment ∈ segments, Address.KeepsSegment segment)
    (hquery : Address.KeepsQuery query) (method : String) :
    let address := Address.signedAddress scheme host port segments query
    Order.prepare ⟨method, address.toString, none, none⟩ =
      if address.written.length ≤ longestTarget then .ok ⟨method, address, [], none, []⟩
      else .error (.wrongTarget address.toString) := by
  intro address
  have hdefault : hasDefaultPort scheme = true := by
    rcases hspoken with rfl | rfl <;> rfl
  have hread : Address.read address.toString.toList = .ok address := by
    unfold Address.toString address
    rw [String.toList_ofList, Address.written_signedAddress,
      Address.read_signedText hdefault hsettled hport hne hsegments hquery, hhost.reread]
    rfl
  have hinfo : takeUserInfo address = (address, none) := rfl
  have hnamed : address.host?.isNone = false := by
    simp [Address.host?, address, Address.signedAddress, Address.isEmpty_of_isSettled hsettled]
  have hscheme : ¬(address.scheme ≠ "http" ∧ address.scheme ≠ "https") := by
    rintro ⟨hnotPlain, hnotSecure⟩
    exact hspoken.elim hnotPlain hnotSecure
  have htarget : isTarget address = decide (address.written.length ≤ longestTarget) :=
    isTarget_signedAddress hhost
  unfold prepare
  simp only [hread, hinfo, hnamed, if_neg hscheme, htarget, Option.map_none, Option.any_none,
    Bool.false_eq_true, if_false, Bool.not_eq_true', decide_eq_false_iff_not, ite_not]
  rfl

/-! ### Requests on a line -/

/-- The status of an answer, if there is an answer. -/
def Answer.status? : Answer → Option Nat
  | .reply r => some r.status
  | _ => none

namespace Line

variable {ε : Type} {line : Line ε} {order : Order} {parcel : Parcel}

/-- No tunnel is sought to a plain address, nor on a line that answers at secure ones. -/
theorem tunnels_eq_false_iff :
    line.tunnels parcel = false ↔
      parcel.address.scheme ≠ "https" ∨ line.answersSecure = true := by
  rw [tunnels, Bool.and_eq_false_iff, beq_eq_false_iff_ne, Bool.not_eq_false']

/-- An exchange changes neither whether peers are in reach nor where they answer. -/
theorem keeps_exchange (line : Line ε) (manner : Manner) (order : Order) :
    (line.exchange manner order).1.reachable = line.reachable ∧
      (line.exchange manner order).1.answersSecure = line.answersSecure := by
  unfold exchange
  cases order.prepare with
  | error fault => exact ⟨rfl, rfl⟩
  | ok parcel =>
      dsimp only
      split
      · exact ⟨rfl, rfl⟩
      · split
        · exact ⟨rfl, rfl⟩
        · split <;> exact ⟨rfl, rfl⟩

/-- One more request was seen, or none. -/
def SeesAtMostOne (line after : Line ε) : Prop :=
  after.seen = line.seen ∨ ∃ sight, after.seen = sight :: line.seen

/-- An exchange is seen once at most, be it as an attempt to open a tunnel. -/
theorem seesAtMostOne_exchange (line : Line ε) (manner : Manner) (order : Order) :
    line.SeesAtMostOne (line.exchange manner order).1 := by
  unfold exchange
  cases order.prepare with
  | error fault => exact Or.inl rfl
  | ok parcel =>
      dsimp only
      split
      · exact Or.inl rfl
      · split
        · exact Or.inr ⟨_, rfl⟩
        · split <;> exact Or.inr ⟨_, rfl⟩

/-- A request that is not made ready uses no turn. -/
theorem exchange_of_error {fault : ExchangeFault} (manner : Manner)
    (hprepare : order.prepare = .error fault) :
    line.exchange manner order = (line, [], .error fault) := by
  rw [exchange, hprepare]

/-- Peers that are out of reach see nothing and use no turn. -/
theorem exchange_of_unreachable (manner : Manner) (hreachable : line.reachable = false) :
    ∃ fault, line.exchange manner order = (line, [], .error fault) := by
  unfold exchange
  cases order.prepare with
  | error fault => exact ⟨fault, rfl⟩
  | ok parcel =>
      simp only [hreachable, Bool.not_false, if_true]
      exact ⟨_, rfl⟩

variable (manner : Manner) (hprepare : order.prepare = .ok parcel)
  (hreachable : line.reachable = true) (hopen : line.tunnels parcel = false)

include hprepare hreachable hopen

/-- A request that can be sent is seen once, whatever becomes of it. -/
theorem seen_exchange :
    (line.exchange manner order).1.seen = line.sight manner parcel :: line.seen := by
  unfold exchange
  rw [hprepare]
  simp only [hreachable, hopen, Bool.not_true, Bool.false_eq_true, if_false]
  split <;> rfl

/-- A client that keeps no cookies changes nothing on the line but what is seen and the
turns to come, and gets the status of the answer, if there is one. -/
theorem exchange_of_open (hkeeps : manner.keepsCookies = false) :
    ∃ outcome, line.exchange manner order =
        ({ line with
          turns := line.turns.tail
          seen := line.sight manner parcel :: line.seen },
          (line.turns.head?.getD exhausted).meanwhile, outcome) ∧
      outcome.toOption.map (·.status) = (line.turns.head?.getD exhausted).answer.status? := by
  unfold exchange
  rw [hprepare]
  simp only [hreachable, hopen, hkeeps, Bool.not_true, Bool.false_eq_true, if_false]
  cases (line.turns.head?.getD exhausted).answer with
  | reply reply => exact ⟨_, rfl, rfl⟩
  | drop => exact ⟨_, rfl, rfl⟩
  | silence => exact ⟨_, rfl, rfl⟩

end Line

end SignedAccess
