/-
# What receivers are told

Every operation decides for itself whether observers are told of it, and the decision
fits what it does: `Store.announces` says when one is announced, an announced operation
takes the version up, and any other leaves the store as it was. So whether a receiver is
behind can be read off the operations since it was last in sync.

`hasChanged_iff_announced` says this of runs on a desk with all its stores, handles and
receivers: what a receiver is told while somebody holds its store, what it is told after
the last handle is gone, and which commands leave every receiver alone.
-/

import SignedAccess.Proofs.Session.DeskRun
import SignedAccess.Proofs.Session.Ticket

namespace SignedAccess

namespace Store

/-! ### Announcements -/

/-- Observers are told of the operation. Those that put something in are announced
always, the others when they find something to change. -/
def announces (store : Store) : SessionEvent → Bool
  | .setAuth _ _ => true
  | .setUser _ => true
  | .setToken _ => true
  | .logout => !store.session.isCleared
  | .setLoading loading => !loading && store.session.loading
  | .beginRefresh => false
  | .completeRefresh ticket token => (store.completeRefresh ticket token).2
  | .logoutIfCurrent ticket => (store.logoutIfCurrent ticket).2

/-- Observers are told of an operation in a run. -/
def announced (store : Store) : List SessionEvent → Bool
  | [] => false
  | event :: events => store.announces event || (store.apply event).1.announced events

/-- An operation that is announced takes the version up. -/
theorem version_apply_of_announces {store : Store} {event : SessionEvent}
    (hannounces : store.announces event = true) :
    (store.apply event).1.version = store.version + 1 := by
  cases event with
  | setAuth user token => rfl
  | setUser user => rfl
  | setToken token => rfl
  | logout =>
      simp only [announces, Bool.not_eq_true'] at hannounces
      simp [apply, logout, hannounces, replace]
  | setLoading loading =>
      simp only [announces, Bool.and_eq_true, Bool.not_eq_true'] at hannounces
      simp [apply, setLoading, hannounces, revise]
  | beginRefresh => cases hannounces
  | completeRefresh ticket token =>
      change (store.completeRefresh ticket token).1.version = _
      rw [completeRefresh_of_true hannounces]
      rfl
  | logoutIfCurrent ticket =>
      simp only [announces, logoutIfCurrent_snd, decide_eq_true_eq] at hannounces
      simp [apply, logoutIfCurrent, hannounces, replace]

/-- An operation that is not announced does nothing. -/
theorem apply_of_not_announces {store : Store} {event : SessionEvent}
    (hquiet : store.announces event = false) : (store.apply event).1 = store := by
  cases event with
  | setAuth user token => cases hquiet
  | setUser user => cases hquiet
  | setToken token => cases hquiet
  | logout =>
      simp only [announces, Bool.not_eq_false'] at hquiet
      simp [apply, logout, hquiet]
  | setLoading loading =>
      cases loading <;> cases hloading : store.session.loading <;>
        simp_all [announces, apply, setLoading]
  | beginRefresh => rfl
  | completeRefresh ticket token => exact completeRefresh_of_false hquiet
  | logoutIfCurrent ticket => exact logoutIfCurrent_of_false hquiet

/-- A run of which nothing is announced does nothing. -/
theorem run_of_not_announced {store : Store} {events : List SessionEvent}
    (hquiet : store.announced events = false) : store.run events = store := by
  induction events with
  | nil => rfl
  | cons event events ih =>
      rw [announced, Bool.or_eq_false_iff] at hquiet
      rw [run_cons]
      have hstay := apply_of_not_announces hquiet.1
      rw [hstay] at hquiet ⊢
      exact ih hquiet.2

/-- No run takes the version back. -/
theorem version_le_run (store : Store) (events : List SessionEvent) :
    store.version ≤ (store.run events).version := by
  induction events generalizing store with
  | nil => exact Nat.le_refl _
  | cons event events ih =>
      have hstep : store.version ≤ (store.apply event).1.version := by
        cases hannounces : store.announces event with
        | true => rw [version_apply_of_announces hannounces]; exact Nat.le_succ _
        | false => exact Nat.le_of_eq (by rw [apply_of_not_announces hannounces])
      exact Nat.le_trans hstep (ih _)

/-- The version after a run is another one exactly when something was announced. -/
theorem announced_iff (store : Store) (events : List SessionEvent) :
    store.announced events = true ↔ store.version ≠ (store.run events).version := by
  constructor
  · intro hannounced
    induction events generalizing store with
    | nil => cases hannounced
    | cons event events ih =>
        cases hannounces : store.announces event with
        | true =>
            have hup := version_apply_of_announces hannounces
            have hle := version_le_run (store.apply event).1 events
            rw [run_cons]
            omega
        | false =>
            rw [announced, hannounces, Bool.false_or] at hannounced
            have hrest := ih _ hannounced
            rwa [run_cons, apply_of_not_announces hannounces] at *
  · intro hbehind
    refine Bool.of_not_eq_false fun hquiet => ?_
    exact hbehind (by rw [run_of_not_announced hquiet])

/-- A second sign-out in a row is not announced. -/
theorem announces_logout_logout (store : Store) : store.logout.announces .logout = false := by
  have hcleared : store.logout.session.isCleared = true := by
    unfold logout
    split
    · assumption
    · rfl
  rw [announces, hcleared, Bool.not_true]

/-- Nothing that is done under the ticket of another generation is announced. -/
theorem announces_of_generation_ne {store : Store} {ticket : Ticket}
    (hstale : store.generation ≠ ticket.generation) :
    (∀ token, store.announces (.completeRefresh ticket token) = false) ∧
      store.announces (.logoutIfCurrent ticket) = false := by
  simp [announces, isCurrent, hstale]

end Store

/-- A receiver that hears of a change has then seen everything. -/
theorem Receiver.poll_of_ready {receiver : Receiver} {store : Store} {isHeld : Bool}
    (hready : (receiver.poll store isHeld).2 = .ready) :
    (receiver.poll store isHeld).1 = Receiver.subscribe store := by
  unfold Receiver.poll at hready ⊢
  split
  · rfl
  · rename_i hseen
    rw [if_neg hseen] at hready
    cases isHeld <;> cases hready

/-- Who has seen a store is behind after a run from there exactly when something was
announced in it. -/
theorem Receiver.seen_subscribe_bne (store : Store) (events : List SessionEvent) :
    ((Receiver.subscribe store).seen != (store.run events).version) = store.announced events := by
  rw [Bool.eq_iff_iff, bne_iff_ne, Store.announced_iff, Receiver.subscribe]

/-- The answer to a poll, where nobody holds the store. -/
theorem Receiver.poll_of_not_isHeld (receiver : Receiver) (store : Store) :
    (receiver.poll store false).2 =
      if receiver.seen != store.version then .ready else .closed := by
  unfold Receiver.poll
  by_cases hseen : receiver.seen = store.version <;> simp [hseen]

namespace Desk

/-! ### Receivers that are in sync -/

section

variable {desk : Desk} {name : String} {number : Nat} {receiver : Receiver} {store : Store}
  (hwatching : desk.watching name = .ok (number, receiver, store))

include hwatching

theorem perform_hasChanged : desk.perform (.hasChanged name) =
    .ok (desk, .verdict (receiver.hasChanged store (desk.isHeld number))) := by
  simp only [perform, hwatching]
  rfl

theorem perform_current : desk.perform (.current name) =
    .ok (desk.act (.current name), .session store.session) := by
  rw [act_current, hwatching]
  simp only [perform, hwatching]
  rfl

theorem perform_changed : desk.perform (.changed name) =
    .ok (desk.act (.changed name), .notice (receiver.poll store (desk.isHeld number)).2) := by
  rw [act_changed, hwatching]
  simp only [perform, hwatching]
  rfl

end

/-- A command brings the receiver under a name in sync: it makes the receiver, looks
through it, or polls it and hears of a change. -/
def syncs (desk : Desk) (name : String) (command : DeskCommand) : Bool :=
  match command, desk.perform command with
  | .through _ (.subscribe other), .ok _ => other == name
  | .current other, .ok _ => other == name
  | .changed other, .ok (_, .notice .ready) => other == name
  | _, _ => false

/-- A command in a run brings the receiver under a name in sync. -/
def syncsIn (desk : Desk) (name : String) : List DeskCommand → Bool
  | [] => false
  | command :: commands => desk.syncs name command || (desk.act command).syncsIn name commands

theorem watching_eq_ok_iff {desk : Desk} {name : String} {number : Nat} {receiver : Receiver}
    {store : Store} :
    desk.watching name = .ok (number, receiver, store) ↔
      named? name desk.receivers = some (number, receiver) ∧
        desk.stores[number]? = some store := by
  unfold watching
  constructor
  · intro hwatching
    split at hwatching
    · split at hwatching
      · cases hwatching
        exact ⟨by assumption, by assumption⟩
      · cases hwatching
    · cases hwatching
  · rintro ⟨hnamed, hstore⟩
    simp only [hnamed, hstore]

/-- A receiver that a command brings in sync has then seen all of its store: the store
of the handle if the command makes the receiver, and else the one it watched before. -/
theorem watching_of_syncs {desk : Desk} {name : String} {sync : DeskCommand}
    (hsync : desk.syncs name sync = true) :
    ∃ number store,
      (desk.act sync).watching name = .ok (number, Receiver.subscribe store, store) ∧
      (∀ handle, sync = .through handle (.subscribe name) → desk.target? handle = some number) ∧
      ((∀ handle, sync ≠ .through handle (.subscribe name)) →
        ∃ receiver, desk.watching name = .ok (number, receiver, store)) := by
  unfold syncs at hsync
  split at hsync
  case h_1 handle other performed hperform =>
    obtain rfl := beq_iff_eq.1 hsync
    simp only [perform] at hperform
    split at hperform
    case h_2 => cases hperform
    case h_1 number htarget =>
      split at hperform
      case h_2 => cases hperform
      case h_1 store hstore =>
        rw [act_of_ok (by simp only [perform, htarget, hstore, performThrough]; rfl)]
        refine ⟨number, store, watching_eq_ok_iff.2 ⟨named?_putNamed_self .., hstore⟩, ?_, ?_⟩
        · rintro _ ⟨⟩
          exact htarget
        · intro hother
          exact absurd rfl (hother handle)
  case h_2 other performed hperform =>
    obtain rfl := beq_iff_eq.1 hsync
    cases hwatching : desk.watching other with
    | error fault =>
        simp only [perform, hwatching] at hperform
        cases hperform
    | ok watched =>
        obtain ⟨number, receiver, store⟩ := watched
        rw [act_current, hwatching]
        have hstore := (watching_eq_ok_iff.1 hwatching).2
        refine ⟨number, store, watching_eq_ok_iff.2 ⟨named?_putNamed_self .., hstore⟩, ?_,
          fun _ => ⟨receiver, rfl⟩⟩
        intro handle hsame
        cases hsame
  case h_3 other after hperform =>
    obtain rfl := beq_iff_eq.1 hsync
    cases hwatching : desk.watching other with
    | error fault =>
        simp only [perform, hwatching] at hperform
        cases hperform
    | ok watched =>
        obtain ⟨number, receiver, store⟩ := watched
        rw [perform_changed hwatching, Except.ok.injEq, Prod.mk.injEq,
          DeskReply.notice.injEq] at hperform
        have hready := hperform.2
        rw [act_changed, hwatching]
        have hstore := (watching_eq_ok_iff.1 hwatching).2
        refine ⟨number, store, watching_eq_ok_iff.2 ⟨?_, hstore⟩, ?_, fun _ => ⟨receiver, rfl⟩⟩
        · rw [named?_putNamed_self, Receiver.poll_of_ready hready]
        · intro handle hsame
          cases hsame
  case h_4 => cases hsync

/-- A command that does not bring a receiver in sync leaves it alone. -/
theorem named?_act_of_not_syncs {desk : Desk} {name : String} {command : DeskCommand}
    (hunsynced : desk.syncs name command = false) :
    named? name (desk.act command).receivers = named? name desk.receivers := by
  cases command with
  | create => rfl
  | drop handle => rfl
  | sameTicket one other => rfl
  | hasChanged other => rw [act_hasChanged]
  | through handle command =>
      rcases desk.act_through handle command with ⟨hidle, -⟩ |
        ⟨number, store, htarget, hstore, hperforms⟩
      · rw [hidle]
      · rw [hperforms.receivers]
        cases command with
        | subscribe other =>
            have hperform : desk.perform (.through handle (.subscribe other)) =
                .ok (desk.act (.through handle (.subscribe other)), .done) := by
              simp only [act, perform, htarget, hstore, performThrough]
            simp only [syncs, hperform] at hunsynced
            exact named?_putNamed_of_ne (ne_of_beq_false hunsynced) ..
        | _ => rfl
  | current other =>
      rw [act_current]
      split
      · rename_i hwatching
        simp only [syncs, perform_current hwatching] at hunsynced
        exact named?_putNamed_of_ne (ne_of_beq_false hunsynced) ..
      · rfl
  | changed other =>
      rw [act_changed]
      split
      · rename_i number receiver store hwatching
        by_cases hother : other = name
        · subst hother
          have hnamed := (watching_eq_ok_iff.1 hwatching).1
          rw [named?_putNamed_self, hnamed]
          unfold Receiver.poll
          split
          · rename_i hseen
            simp only [syncs, perform_changed hwatching, Receiver.poll, if_pos hseen,
              beq_self_eq_true] at hunsynced
            cases hunsynced
          · rfl
        · exact named?_putNamed_of_ne hother ..
      · rfl

/-- A run that does not bring a receiver in sync leaves it alone. -/
theorem named?_run_of_not_syncsIn {desk : Desk} {name : String} {commands : List DeskCommand}
    (hunsynced : desk.syncsIn name commands = false) :
    named? name (desk.run commands).receivers = named? name desk.receivers := by
  induction commands generalizing desk with
  | nil => rfl
  | cons command commands ih =>
      rw [syncsIn, Bool.or_eq_false_iff] at hunsynced
      rw [run_cons, ih hunsynced.2, named?_act_of_not_syncs hunsynced.1]

/-- A receiver that is not brought in sync by a run has seen what it had seen before,
of a store that has gone through the run. -/
theorem watching_run {desk : Desk} {name : String} {number : Nat} {receiver : Receiver}
    {store : Store} (hwatching : desk.watching name = .ok (number, receiver, store))
    {commands : List DeskCommand} (hunsynced : desk.syncsIn name commands = false) :
    (desk.run commands).watching name =
      .ok (number, receiver, store.run (desk.eventsOn number commands)) := by
  obtain ⟨hnamed, hstore⟩ := watching_eq_ok_iff.1 hwatching
  refine watching_eq_ok_iff.2 ⟨?_, getElem?_run hstore commands⟩
  rw [named?_run_of_not_syncsIn hunsynced, hnamed]

/-! ### Stores that nobody holds -/

theorem isHeld_eq_false_iff {desk : Desk} {number : Nat} :
    desk.isHeld number = false ↔ some number ∉ desk.handles ∧ number ∉ desk.lent := by
  simp [isHeld]

/-- Nothing is performed on a store that nobody holds. -/
theorem eventOn_of_not_isHeld {desk : Desk} {number : Nat} (hdead : desk.isHeld number = false)
    (command : DeskCommand) : desk.eventOn number command = none := by
  cases command with
  | through handle command =>
      exact if_neg fun htarget =>
        (isHeld_eq_false_iff.1 hdead).1 (mem_handles_of_target? htarget)
  | _ => rfl

/-- Nobody gets hold of a store again that nobody holds. -/
theorem isHeld_act {desk : Desk} {number : Nat} {store : Store}
    (hstore : desk.stores[number]? = some store) (hdead : desk.isHeld number = false)
    (command : DeskCommand) : (desk.act command).isHeld number = false := by
  obtain ⟨hhandles, hlent⟩ := isHeld_eq_false_iff.1 hdead
  refine isHeld_eq_false_iff.2 ⟨fun hmem => ?_, by rwa [lent_act]⟩
  rcases mem_handles_act hmem with hmem | ⟨-, hnew⟩
  · exact hhandles hmem
  · have hlt := (List.getElem?_eq_some_iff.1 hstore).1
    omega

/-- A store that nobody holds stays as it is, and nobody gets hold of it again. -/
theorem run_of_not_isHeld {desk : Desk} {number : Nat} {store : Store}
    (hstore : desk.stores[number]? = some store) (hdead : desk.isHeld number = false)
    (commands : List DeskCommand) :
    (desk.run commands).stores[number]? = some store ∧
      (desk.run commands).isHeld number = false := by
  induction commands generalizing desk with
  | nil => exact ⟨hstore, hdead⟩
  | cons command commands ih =>
      have hstays := getElem?_act hstore command
      rw [eventOn_of_not_isHeld hdead] at hstays
      exact ih hstays (isHeld_act hstore hdead command)

/-- The receiver of a store that nobody holds has seen all of it after a run that
brings it in sync, and is where it was after any other. -/
theorem watching_run_of_not_isHeld {desk : Desk} {name : String} {number : Nat}
    {receiver : Receiver} {store : Store}
    (hwatching : desk.watching name = .ok (number, receiver, store))
    (hdead : desk.isHeld number = false) {commands : List DeskCommand}
    (hkept : ∀ handle, DeskCommand.through handle (.subscribe name) ∉ commands) :
    (desk.run commands).watching name =
      .ok (number, if desk.syncsIn name commands then Receiver.subscribe store else receiver,
        store) := by
  induction commands generalizing desk receiver with
  | nil => exact hwatching
  | cons command commands ih =>
      have hstore := (watching_eq_ok_iff.1 hwatching).2
      have hstays := getElem?_act hstore command
      rw [eventOn_of_not_isHeld hdead] at hstays
      have hdead' := isHeld_act hstore hdead command
      have hkept' : ∀ handle, DeskCommand.through handle (.subscribe name) ∉ commands :=
        fun handle hmem => hkept handle (List.mem_cons_of_mem _ hmem)
      cases hsync : desk.syncs name command with
      | false =>
          have hnext : (desk.act command).watching name = .ok (number, receiver, store) := by
            refine watching_eq_ok_iff.2 ⟨?_, hstays⟩
            rw [named?_act_of_not_syncs hsync, (watching_eq_ok_iff.1 hwatching).1]
          rw [run_cons, ih hnext hdead' hkept', syncsIn, hsync, Bool.false_or]
      | true =>
          have hnext : (desk.act command).watching name =
              .ok (number, Receiver.subscribe store, store) := by
            obtain ⟨other, its, hsynced, -, hwatched⟩ := watching_of_syncs hsync
            obtain ⟨before, hbefore⟩ :=
              hwatched fun handle hmade => hkept handle (hmade ▸ List.mem_cons_self)
            rw [hwatching] at hbefore
            cases hbefore
            exact hsynced
          rw [run_cons, ih hnext hdead' hkept', syncsIn, hsync, Bool.true_or, if_pos rfl, ite_self]

/-! ### Commands that wake nobody -/

/-- A command whose operation is not announced leaves all stores and receivers alone. -/
theorem act_of_not_announces {desk : Desk} {handle : Nat} {store : Store}
    {command : StoreCommand} {event : SessionEvent} (hstore : desk.store? handle = some store)
    (hevent : command.event? desk.tickets = some event) (hquiet : store.announces event = false) :
    (desk.act (.through handle command)).stores = desk.stores ∧
      (desk.act (.through handle command)).receivers = desk.receivers := by
  rcases desk.act_through handle command with ⟨hidle, -⟩ |
    ⟨number, its, htarget, hits, hperforms⟩
  · rw [hidle]
    exact ⟨rfl, rfl⟩
  · have hsame : its = store := by
      rw [store?, htarget, Option.bind_some, hits] at hstore
      exact Option.some.inj hstore
    subst hsame
    have hstay : its.run (command.event? desk.tickets).toList = its := by
      rw [hevent]
      exact Store.apply_of_not_announces hquiet
    obtain ⟨hlt, hget⟩ := List.getElem?_eq_some_iff.1 hits
    constructor
    · rw [hperforms.stores, hstay, ← hget, List.set_getElem_self]
    · rw [hperforms.receivers]
      split
      · cases hevent
      · rfl

end Desk

/-! ### Whole runs -/

/-- What the receiver under a name is told after a run that does not bring it in sync.
It has seen all of one store when the run begins, that of the handle if it has just been
made. While somebody holds the store, it is behind exactly when something was announced
in the run, and if nothing was, the store is as it was. When nobody holds the store any
longer, and whatever happens then, polling the receiver tells once of what it had not
seen and says after that that the store is closed. A command whose operation is not
announced wakes nobody; such are a second sign-out in a row, a call under the ticket of
another generation, and the wish to load. -/
theorem hasChanged_iff_announced (desk : Desk) (name : String) (sync : DeskCommand)
    (commands : List DeskCommand) (hsync : desk.syncs name sync = true)
    (hlast : (desk.act sync).syncsIn name commands = false) :
    (∃ number store,
      (desk.act sync).watching name = .ok (number, Receiver.subscribe store, store) ∧
      (∀ handle, sync = .through handle (.subscribe name) → desk.target? handle = some number) ∧
      let now := (desk.act sync).run commands
      let events := (desk.act sync).eventsOn number commands
      now.stores[number]? = some (store.run events) ∧
      now.perform (.hasChanged name) =
        .ok (now, .verdict (now.isHeld number && store.announced events)) ∧
      (store.announced events = false → store.run events = store) ∧
      (now.isHeld number = false → ∀ more : List DeskCommand,
        (∀ handle, DeskCommand.through handle (.subscribe name) ∉ more) →
        (now.run more).perform (.changed name) = .ok ((now.run more).act (.changed name), .notice
          (if store.announced events && !now.syncsIn name more then .ready else .closed)))) ∧
    (∀ (any : Desk) handle store command event, any.store? handle = some store →
      command.event? any.tickets = some event → store.announces event = false →
      (any.act (.through handle command)).stores = any.stores ∧
        (any.act (.through handle command)).receivers = any.receivers) ∧
    ∀ store : Store, store.logout.announces .logout = false ∧
      store.announces (.setLoading true) = false ∧
      ∀ ticket, store.generation ≠ ticket.generation →
        (∀ token, store.announces (.completeRefresh ticket token) = false) ∧
          store.announces (.logoutIfCurrent ticket) = false := by
  refine ⟨?_, ?_, ?_⟩
  · obtain ⟨number, store, hwatching, hmade, -⟩ := Desk.watching_of_syncs hsync
    refine ⟨number, store, hwatching, hmade, ?_⟩
    intro now events
    have hnow : now.watching name = .ok (number, Receiver.subscribe store, store.run events) :=
      Desk.watching_run hwatching hlast
    have hstore : now.stores[number]? = some (store.run events) :=
      (Desk.watching_eq_ok_iff.1 hnow).2
    refine ⟨hstore, ?_, Store.run_of_not_announced, ?_⟩
    · rw [Desk.perform_hasChanged hnow, Receiver.hasChanged, Receiver.seen_subscribe_bne]
    · intro hdead more hkept
      have hmore := Desk.watching_run_of_not_isHeld hnow hdead hkept
      rw [Desk.perform_changed hmore, (Desk.run_of_not_isHeld hstore hdead more).2,
        Receiver.poll_of_not_isHeld]
      cases now.syncsIn name more with
      | true => simp [Receiver.subscribe]
      | false =>
          rw [if_neg Bool.false_ne_true, Receiver.seen_subscribe_bne, Bool.not_false, Bool.and_true]
  · intro any handle store command event hstore hevent hquiet
    exact Desk.act_of_not_announces hstore hevent hquiet
  · intro store
    exact ⟨store.announces_logout_logout, rfl, fun ticket => Store.announces_of_generation_ne⟩

/-- A sign-out that is seen only when nobody holds the store any longer: the receiver
hears of it once, and then that the store is closed. -/
theorem changed_tells_logout_once :
    let sync : DeskCommand := .through 0 (.subscribe "r")
    let commands : List DeskCommand :=
      [.through 0 (.setLoading true), .through 0 .clone, .drop 0, .through 1 .logout, .drop 1]
    let now := (Desk.initial.act sync).run commands
    (Desk.initial.syncs "r" sync = true ∧ (Desk.initial.act sync).syncsIn "r" commands = false) ∧
      now.perform (.hasChanged "r") = .ok (now, .verdict false) ∧
      now.perform (.changed "r") = .ok (now.act (.changed "r"), .notice .ready) ∧
      (now.run [.changed "r"]).perform (.changed "r") =
        .ok ((now.run [.changed "r"]).act (.changed "r"), .notice .closed) := by
  intro sync commands now
  have hsync : Desk.initial.syncs "r" sync = true := by decide
  have hlast : (Desk.initial.act sync).syncsIn "r" commands = false := by decide
  obtain ⟨⟨number, store, hwatching, hmade, -, hchanged, -, hclosed⟩, -⟩ :=
    hasChanged_iff_announced Desk.initial "r" sync commands hsync hlast
  obtain rfl : 0 = number := Option.some.inj (hmade 0 rfl)
  obtain rfl : Store.initial = store := by
    have hstore := (Desk.watching_eq_ok_iff.1 hwatching).2
    exact Option.some.inj hstore
  have hdead : now.isHeld 0 = false := by decide
  exact ⟨⟨hsync, hlast⟩, hchanged, hclosed hdead [] nofun,
    hclosed hdead [.changed "r"] (by simp)⟩

end SignedAccess
