/-
# Stores that know nothing of each other

A desk holds many stores, with handles that lead to them and receivers that watch them.
`Lone` is one store with its receivers and nothing beside it: no handles, no numbers, no
other store, and tickets that come as values. `Desk.callsOn` reads off a run what was
asked of one store, through whichever handle, and of the receivers that watch it. Making
a handle, and dropping one while others are left, asks nothing of the store; dropping the
last one gives it up.

`store_is_as_if_alone` says that in any run every store is where it would be, and has
answered what it would have answered, had it been asked just this and been alone. The
invariant that carries it is `Desk.Mirrors`.
-/

import SignedAccess.Proofs.Session.Watching

namespace SignedAccess

/-! ### One store alone -/

/-- What can be asked of one store and of its receivers, which have names. -/
inductive LoneCall
  | operate (event : SessionEvent)
  | read
  | subscribe (name : String)
  | hasChanged (name : String)
  | current (name : String)
  | changed (name : String)
  /-- Nobody holds the store any longer. -/
  | release

/-- The call asks a receiver. -/
def LoneCall.asks : LoneCall → Bool
  | .hasChanged _ | .current _ | .changed _ => true
  | _ => false

/-- One store with its receivers. -/
structure Lone where
  store : Store
  receivers : List (String × Receiver)
  isHeld : Bool

/-- The answer of an operation as a desk gives it. -/
def SessionReply.onDesk : SessionReply → DeskReply
  | .done => .done
  | .ticket issued => .ticket issued
  | .verdict effective => .verdict effective

namespace Lone

open Desk (named? putNamed)

/-- A new store that somebody holds. -/
def initial : Lone := ⟨.initial, [], true⟩

/-- The store after a call, and the answer. A receiver that is not there gives none. -/
def answer (lone : Lone) : LoneCall → Lone × Option DeskReply
  | .operate event =>
      let (store, reply) := lone.store.apply event
      ({ lone with store }, some reply.onDesk)
  | .read => (lone, some (.glimpse lone.store.session))
  | .subscribe name =>
      ({ lone with receivers := putNamed name (Receiver.subscribe lone.store) lone.receivers },
        some .done)
  | .hasChanged name =>
      (lone, (named? name lone.receivers).map fun receiver =>
        .verdict (receiver.hasChanged lone.store lone.isHeld))
  | .current name =>
      match named? name lone.receivers with
      | some receiver =>
          ({ lone with receivers := putNamed name (receiver.look lone.store) lone.receivers },
            some (.session lone.store.session))
      | none => (lone, none)
  | .changed name =>
      match named? name lone.receivers with
      | some receiver =>
          let (receiver, notice) := receiver.poll lone.store lone.isHeld
          ({ lone with receivers := putNamed name receiver lone.receivers },
            some (.notice notice))
      | none => (lone, none)
  | .release => ({ lone with isHeld := false }, some .done)

/-- The store after calls in a row. -/
def run (lone : Lone) (calls : List LoneCall) : Lone :=
  calls.foldl (fun lone call => (lone.answer call).1) lone

/-- Asking a receiver changes no more than what receivers have seen. -/
theorem answer_of_asks (lone : Lone) {call : LoneCall} (hasks : call.asks = true) :
    (lone.answer call).1.store = lone.store ∧ (lone.answer call).1.isHeld = lone.isHeld := by
  cases call with
  | hasChanged name => exact ⟨rfl, rfl⟩
  | current name =>
      rw [answer]
      split <;> exact ⟨rfl, rfl⟩
  | changed name =>
      rw [answer]
      split <;> exact ⟨rfl, rfl⟩
  | _ => cases hasks

/-- The answers to calls in a row. -/
def replies (lone : Lone) : List LoneCall → List (Option DeskReply)
  | [] => []
  | call :: calls => (lone.answer call).2 :: (lone.answer call).1.replies calls

theorem run_append (lone : Lone) (before after : List LoneCall) :
    lone.run (before ++ after) = (lone.run before).run after :=
  List.foldl_append

theorem replies_append (lone : Lone) (before after : List LoneCall) :
    lone.replies (before ++ after) = lone.replies before ++ (lone.run before).replies after := by
  induction before generalizing lone with
  | nil => rfl
  | cons call before ih =>
      rw [List.cons_append, replies, ih]
      rfl

end Lone

/-- The command goes through a handle, or drops it. -/
def DeskCommand.uses (handle : Nat) : DeskCommand → Bool
  | .through other _ => other == handle
  | .drop other => other == handle
  | _ => false

/-- The call that a command makes on the store of its handle, where tickets lie under
names. -/
def StoreCommand.call? (tickets : List (String × Ticket)) : StoreCommand → Option LoneCall
  | .read => some .read
  | .subscribe name => some (.subscribe name)
  | command => (command.event? tickets).map .operate

namespace Desk

/-! ### What is asked of one store of a desk -/

/-- The receiver under a name watches the store with a number. -/
def watches (desk : Desk) (name : String) (number : Nat) : Bool :=
  (named? name desk.receivers).map (·.1) == some number

/-- The call that a command makes on the store with a number. -/
def callOn (desk : Desk) (number : Nat) : DeskCommand → Option LoneCall
  | .through handle command =>
      if desk.target? handle = some number then command.call? desk.tickets else none
  | .drop handle =>
      if desk.isHeld number && !(desk.act (.drop handle)).isHeld number then some .release
      else none
  | .hasChanged name => if desk.watches name number then some (.hasChanged name) else none
  | .current name => if desk.watches name number then some (.current name) else none
  | .changed name => if desk.watches name number then some (.changed name) else none
  | _ => none

/-- The calls that a run makes on the store with a number. -/
def callsOn (desk : Desk) (number : Nat) : List DeskCommand → List LoneCall
  | [] => []
  | command :: commands =>
      (desk.callOn number command).toList ++ (desk.act command).callsOn number commands

/-- What a desk answers to a command, if it does not fail. -/
def reply? (desk : Desk) (command : DeskCommand) : Option DeskReply :=
  (desk.perform command).toOption.map (·.2)

/-- The answers that a run gets to its calls on the store with a number. -/
def repliesOn (desk : Desk) (number : Nat) : List DeskCommand → List (Option DeskReply)
  | [] => []
  | command :: commands =>
      (desk.callOn number command).toList.map (fun _ => desk.reply? command) ++
        (desk.act command).repliesOn number commands

/-- The answers that a run gets to all its commands. -/
def replies (desk : Desk) : List DeskCommand → List (Except DeskFault DeskReply)
  | [] => []
  | command :: commands =>
      (desk.perform command).map (·.2) :: (desk.act command).replies commands

/-- Every receiver watches a store that is there. -/
def WatchesKnown (desk : Desk) : Prop :=
  ∀ name number receiver, named? name desk.receivers = some (number, receiver) →
    number < desk.stores.length

/-- A store of a desk and one alone are in the same state, are held alike, and their
receivers have seen the same. A store that is not there yet counts as new. -/
structure Mirrors (desk : Desk) (number : Nat) (lone : Lone) : Prop where
  store : desk.stores[number]?.getD .initial = lone.store
  isHeld : lone.isHeld = (desk.isHeld number || decide (desk.stores.length ≤ number))
  receivers : ∀ name receiver, named? name desk.receivers = some (number, receiver) →
    named? name lone.receivers = some receiver

/-! ### Commands through a handle -/

/-- What a call through a handle leaves of a store alone: it has gone through the
operation of the command, and beside that there may be one more receiver. -/
theorem run_call? (lone : Lone) (tickets : List (String × Ticket)) (command : StoreCommand) :
    lone.run (command.call? tickets).toList =
      { lone with
        store := lone.store.run (command.event? tickets).toList
        receivers :=
          match command with
          | .subscribe name => putNamed name (Receiver.subscribe lone.store) lone.receivers
          | _ => lone.receivers } := by
  cases command with
  | setAuth user token => cases user <;> rfl
  | setUser user => cases user <;> rfl
  | completeRefresh name token => cases hticket : named? name tickets <;>
      simp [StoreCommand.call?, StoreCommand.event?, hticket, Lone.run, Lone.answer, Store.run]
  | logoutIfCurrent name => cases hticket : named? name tickets <;>
      simp [StoreCommand.call?, StoreCommand.event?, hticket, Lone.run, Lone.answer, Store.run]
  | _ => rfl

/-- A command that makes a call does not fail, and answers as the store alone does. -/
theorem performThrough_of_call? {desk : Desk} (number : Nat) (lone : Lone)
    {command : StoreCommand} {call : LoneCall}
    (hcall : command.call? desk.tickets = some call) :
    ∃ after reply, desk.performThrough number lone.store command = .ok (after, reply) ∧
      (lone.answer call).2 = some reply := by
  cases command with
  | clone => cases hcall
  | unknown => cases hcall
  | setAuth user token =>
      cases user <;> cases hcall
      exact ⟨_, _, rfl, rfl⟩
  | setUser user =>
      cases user <;> cases hcall
      exact ⟨_, _, rfl, rfl⟩
  | beginRefresh name =>
      cases hcall
      simp only [performThrough, Lone.answer, Store.apply, SessionReply.onDesk]
      split
      · rename_i hissued
        exact ⟨_, _, rfl, by rw [hissued]⟩
      · rename_i hissued
        exact ⟨_, _, rfl, by rw [hissued]⟩
  | completeRefresh name token =>
      obtain ⟨event, hevent, rfl⟩ := Option.map_eq_some_iff.1 hcall
      obtain ⟨ticket, hticket, rfl⟩ := Option.map_eq_some_iff.1 hevent
      have hperform : desk.performThrough number lone.store (.completeRefresh name token) =
          .ok (desk.setStore number (lone.store.completeRefresh ticket token).1,
            .verdict (lone.store.completeRefresh ticket token).2) := by
        simp only [performThrough, hticket]
      exact ⟨_, _, hperform, rfl⟩
  | logoutIfCurrent name =>
      obtain ⟨event, hevent, rfl⟩ := Option.map_eq_some_iff.1 hcall
      obtain ⟨ticket, hticket, rfl⟩ := Option.map_eq_some_iff.1 hevent
      have hperform : desk.performThrough number lone.store (.logoutIfCurrent name) =
          .ok (desk.setStore number (lone.store.logoutIfCurrent ticket).1,
            .verdict (lone.store.logoutIfCurrent ticket).2) := by
        simp only [performThrough, hticket]
      exact ⟨_, _, hperform, rfl⟩
  | _ =>
      cases hcall
      exact ⟨_, _, rfl, rfl⟩

/-- A command through a handle makes nobody hold a store, or give it up. -/
theorem isHeld_act_through (desk : Desk) (handle : Nat) (command : StoreCommand)
    (number : Nat) :
    (desk.act (.through handle command)).isHeld number = desk.isHeld number := by
  rcases desk.act_through handle command with ⟨hidle, -⟩ | ⟨its, _, htarget, -, hperforms⟩
  · rw [hidle]
  · rcases hperforms.handles with hhandles | hhandles
    · rw [isHeld, isHeld, hhandles, hperforms.lent]
    · have hmem := mem_handles_of_target? htarget
      rw [isHeld, isHeld, hhandles, hperforms.lent]
      by_cases hits : its = number
      · subst hits
        simp [hmem]
      · have hother : number ≠ its := fun h => hits h.symm
        simp [hother]

theorem length_act_through (desk : Desk) (handle : Nat) (command : StoreCommand) :
    (desk.act (.through handle command)).stores.length = desk.stores.length := by
  rcases desk.act_through handle command with ⟨hidle, -⟩ | ⟨_, _, -, -, hperforms⟩
  · rw [hidle]
  · rw [hperforms.stores, List.length_set]

/-- What a command through a handle does to the receivers of a desk. -/
theorem receivers_act_through {desk : Desk} {handle number : Nat} {store : Store}
    (htarget : desk.target? handle = some number) (hstore : desk.stores[number]? = some store)
    (command : StoreCommand) :
    (desk.act (.through handle command)).receivers =
      match command with
      | .subscribe name => putNamed name (number, Receiver.subscribe store) desk.receivers
      | _ => desk.receivers := by
  cases hperform : desk.performThrough number store command with
  | error fault =>
      have hfails : desk.perform (.through handle command) = .error fault := by
        simp only [perform, htarget, hstore, hperform]
      rw [act_of_error hfails]
      split
      · cases hperform
      · rfl
  | ok performed =>
      obtain ⟨after, reply⟩ := performed
      have hdone : desk.perform (.through handle command) = .ok (after, reply) := by
        simp only [perform, htarget, hstore, hperform]
      rw [act_of_ok hdone, (performs_of_ok hstore hperform).receivers]
      cases command <;> rfl

/-! ### Steps -/

section

variable {desk : Desk}

theorem HasTargets.stores_act (htargets : desk.HasTargets) (number : Nat)
    (command : DeskCommand) :
    (desk.act command).stores[number]?.getD .initial =
      (desk.stores[number]?.getD .initial).run (desk.eventOn number command).toList := by
  have hrun := htargets.stores_run number [command]
  rwa [eventsOn, eventsOn, List.append_nil] at hrun

/-- The calls on a store are the operations on it and others that leave its state alone. -/
theorem store_run_callOn (desk : Desk) (number : Nat) (lone : Lone) (command : DeskCommand) :
    (lone.run (desk.callOn number command).toList).store =
      lone.store.run (desk.eventOn number command).toList := by
  cases command with
  | through handle command =>
      rw [callOn, eventOn]
      split
      · rw [run_call?]
      · rfl
  | drop handle =>
      rw [callOn]
      split <;> rfl
  | hasChanged name =>
      rw [callOn]
      split <;> rfl
  | current name =>
      rw [callOn]
      split
      · exact (lone.answer_of_asks rfl).1
      · rfl
  | changed name =>
      rw [callOn]
      split
      · exact (lone.answer_of_asks rfl).1
      · rfl
  | _ => rfl

theorem watches_eq_true_iff {name : String} {number : Nat} :
    desk.watches name number = true ↔
      ∃ receiver, named? name desk.receivers = some (number, receiver) := by
  rw [watches, beq_iff_eq, Option.map_eq_some_iff]
  constructor
  · rintro ⟨⟨_, receiver⟩, hnamed, rfl⟩
    exact ⟨receiver, hnamed⟩
  · rintro ⟨receiver, hnamed⟩
    exact ⟨_, hnamed, rfl⟩

/-- What is put under a name for another store is nothing to this one. -/
theorem named?_of_putNamed {α : Type} {name asked : String} {number other : Nat} {a b : α}
    {entries : List (String × Nat × α)} (hother : other ≠ number)
    (hnamed : named? asked (putNamed name (other, a) entries) = some (number, b)) :
    named? asked entries = some (number, b) := by
  by_cases hname : name = asked
  · subst hname
    rw [named?_putNamed_self] at hnamed
    cases hnamed
    exact absurd rfl hother
  · rwa [named?_putNamed_of_ne hname] at hnamed

/-- What is put under a name in two lists of receivers that agree keeps them agreeing. -/
theorem named?_putNamed_congr {name : String} {number : Nat} {receiver : Receiver}
    {entries : List (String × Nat × Receiver)} {mirrored : List (String × Receiver)}
    (hagree : ∀ asked receiver, named? asked entries = some (number, receiver) →
      named? asked mirrored = some receiver) (asked : String) (seen : Receiver)
    (hnamed : named? asked (putNamed name (number, receiver) entries) = some (number, seen)) :
    named? asked (putNamed name receiver mirrored) = some seen := by
  by_cases hname : name = asked
  · subst hname
    rw [named?_putNamed_self] at hnamed ⊢
    cases hnamed
    rfl
  · rw [named?_putNamed_of_ne hname] at hnamed ⊢
    exact hagree _ _ hnamed

theorem isHeld_eq_true_iff {number : Nat} :
    desk.isHeld number = true ↔ some number ∈ desk.handles ∨ number ∈ desk.lent := by
  simp [isHeld]

/-- Dropping a handle makes nobody hold a store. -/
theorem isHeld_of_act_drop {handle number : Nat}
    (hheld : (desk.act (.drop handle)).isHeld number = true) : desk.isHeld number = true := by
  rw [isHeld_eq_true_iff] at hheld ⊢
  rcases hheld with hmem | hlent
  · rcases List.mem_or_eq_of_mem_set hmem with hmem | hnone
    · exact Or.inl hmem
    · cases hnone
  · exact Or.inr hlent

/-- A store of which the last handle is dropped had one. -/
theorem mem_handles_of_act_drop {handle number : Nat} (hheld : desk.isHeld number = true)
    (hdropped : (desk.act (.drop handle)).isHeld number = false) :
    some number ∈ desk.handles := by
  rcases isHeld_eq_true_iff.1 hheld with hmem | hlent
  · exact hmem
  · exact absurd hlent (isHeld_eq_false_iff.1 hdropped).2

namespace Mirrors

variable {number : Nat} {lone : Lone} (h : desk.Mirrors number lone)

include h

theorem isHeld_act (htargets : desk.HasTargets) (command : DeskCommand) :
    (lone.run (desk.callOn number command).toList).isHeld =
      ((desk.act command).isHeld number ||
        decide ((desk.act command).stores.length ≤ number)) := by
  cases command with
  | create =>
      have hheld : (desk.act .create).isHeld number =
          (desk.isHeld number || decide (desk.stores.length = number)) := by
        rw [Bool.eq_iff_iff, Bool.or_eq_true, isHeld_eq_true_iff, isHeld_eq_true_iff,
          decide_eq_true_iff]
        simp only [act, perform, List.mem_append, List.mem_singleton, Option.some.injEq]
        constructor
        · rintro ((hmem | hnew) | hlent)
          · exact Or.inl (Or.inl hmem)
          · exact Or.inr hnew.symm
          · exact Or.inl (Or.inr hlent)
        · rintro ((hmem | hlent) | hnew)
          · exact Or.inl (Or.inl hmem)
          · exact Or.inr hlent
          · exact Or.inl (Or.inr hnew.symm)
      have hlength : (desk.act .create).stores.length = desk.stores.length + 1 :=
        List.length_append
      change lone.isHeld = _
      rw [h.isHeld, hheld, hlength, Bool.or_assoc]
      congr 1
      rw [Bool.eq_iff_iff, Bool.or_eq_true, decide_eq_true_iff, decide_eq_true_iff,
        decide_eq_true_iff]
      omega
  | drop handle =>
      rw [callOn]
      cases hheld : desk.isHeld number with
      | false =>
          have hdropped : (desk.act (.drop handle)).isHeld number = false :=
            Bool.eq_false_iff.2 fun hafter =>
              Bool.false_ne_true (hheld.symm.trans (isHeld_of_act_drop hafter))
          change lone.isHeld = _
          rw [h.isHeld, hheld, hdropped]
          rfl
      | true =>
          cases hdropped : (desk.act (.drop handle)).isHeld number with
          | false =>
              have hlt := htargets number (mem_handles_of_act_drop hheld hdropped)
              change false = (false || decide (desk.stores.length ≤ number))
              rw [decide_eq_false (by omega), Bool.or_false]
          | true =>
              change lone.isHeld = _
              rw [h.isHeld, hheld, Bool.true_or, Bool.true_or]
  | through handle command =>
      have hlone : (lone.run (desk.callOn number (.through handle command)).toList).isHeld =
          lone.isHeld := by
        rw [callOn]
        split
        · rw [run_call?]
        · rfl
      rw [hlone, h.isHeld, isHeld_act_through, length_act_through]
  | sameTicket name other => exact h.isHeld
  | hasChanged name =>
      rw [act_hasChanged, callOn]
      split <;> exact h.isHeld
  | current name =>
      have hlone : (lone.run (desk.callOn number (.current name)).toList).isHeld =
          lone.isHeld := by
        rw [callOn]
        split
        · exact (lone.answer_of_asks rfl).2
        · rfl
      rw [hlone, h.isHeld, act_current]
      split <;> rfl
  | changed name =>
      have hlone : (lone.run (desk.callOn number (.changed name)).toList).isHeld =
          lone.isHeld := by
        rw [callOn]
        split
        · exact (lone.answer_of_asks rfl).2
        · rfl
      rw [hlone, h.isHeld, act_changed]
      split <;> rfl

/-- A store that a handle leads to is the one that is mirrored. -/
theorem getElem?_of_target? (htargets : desk.HasTargets) {handle : Nat}
    (htarget : desk.target? handle = some number) : desk.stores[number]? = some lone.store := by
  have hlt := htargets number (mem_handles_of_target? htarget)
  rw [← h.store, List.getElem?_eq_getElem hlt, Option.getD_some]

/-- A receiver of the store watches what is mirrored. -/
theorem watching (hknown : desk.WatchesKnown) {name : String} {receiver : Receiver}
    (hnamed : named? name desk.receivers = some (number, receiver)) :
    desk.watching name = .ok (number, receiver, lone.store) := by
  have hlt := hknown name number receiver hnamed
  refine watching_eq_ok_iff.2 ⟨hnamed, ?_⟩
  rw [← h.store, List.getElem?_eq_getElem hlt, Option.getD_some]

theorem isHeld_of_watches (hknown : desk.WatchesKnown) {name : String}
    (hwatches : desk.watches name number = true) : lone.isHeld = desk.isHeld number := by
  obtain ⟨receiver, hits⟩ := watches_eq_true_iff.1 hwatches
  have hlt := hknown name number receiver hits
  rw [h.isHeld, decide_eq_false (by omega), Bool.or_false]

/-- What a receiver has seen is put back under its name. Where it watches the mirrored
store, the mirror can do the same, and else it need not do anything. -/
theorem receivers_of_put (hknown : desk.WatchesKnown) {after : List (String × Nat × Receiver)}
    (name : String) {asked : String} {seen : Receiver} (see : Nat → Receiver → Store → Receiver)
    (hafter : after =
      match desk.watching name with
      | .ok (other, receiver, store) =>
          putNamed name (other, see other receiver store) desk.receivers
      | .error _ => desk.receivers)
    (hnamed : named? asked after = some (number, seen)) :
    if desk.watches name number then
      ∃ receiver, named? name lone.receivers = some receiver ∧
        named? asked (putNamed name (see number receiver lone.store) lone.receivers) = some seen
    else named? asked lone.receivers = some seen := by
  subst hafter
  split
  · rename_i hwatches
    obtain ⟨receiver, hits⟩ := watches_eq_true_iff.1 hwatches
    rw [h.watching hknown hits] at hnamed
    exact ⟨receiver, h.receivers name receiver hits,
      named?_putNamed_congr h.receivers asked seen hnamed⟩
  · rename_i hwatches
    refine h.receivers asked seen ?_
    split at hnamed
    · rename_i other receiver _ hwatching
      have hits := (watching_eq_ok_iff.1 hwatching).1
      have hother : other ≠ number := by
        rintro rfl
        exact hwatches (watches_eq_true_iff.2 ⟨_, hits⟩)
      exact named?_of_putNamed hother hnamed
    · exact hnamed

theorem receivers_act (htargets : desk.HasTargets) (hknown : desk.WatchesKnown)
    (command : DeskCommand) (asked : String) (seen : Receiver)
    (hnamed : named? asked (desk.act command).receivers = some (number, seen)) :
    named? asked (lone.run (desk.callOn number command).toList).receivers = some seen := by
  cases command with
  | create => exact h.receivers asked seen hnamed
  | sameTicket name other => exact h.receivers asked seen hnamed
  | drop handle =>
      rw [callOn]
      split <;> exact h.receivers asked seen hnamed
  | hasChanged name =>
      rw [act_hasChanged] at hnamed
      rw [callOn]
      split <;> exact h.receivers asked seen hnamed
  | through handle command =>
      rw [callOn]
      by_cases htarget : desk.target? handle = some number
      · have hstore := h.getElem?_of_target? htargets htarget
        rw [receivers_act_through htarget hstore] at hnamed
        rw [if_pos htarget, run_call?]
        cases command with
        | subscribe name => exact named?_putNamed_congr h.receivers asked seen hnamed
        | _ => exact h.receivers asked seen hnamed
      · rw [if_neg htarget]
        refine h.receivers asked seen ?_
        rcases desk.act_through handle command with ⟨hidle, -⟩ | ⟨its, _, hits, -, hperforms⟩
        · rwa [hidle] at hnamed
        · have hother : its ≠ number := by
            rintro rfl
            exact htarget hits
          rw [hperforms.receivers] at hnamed
          cases command with
          | subscribe name => exact named?_of_putNamed hother hnamed
          | _ => exact hnamed
  | current name =>
      rw [callOn]
      have hput := h.receivers_of_put hknown name (fun _ receiver store => receiver.look store)
        (by rw [act_current]; cases desk.watching name <;> rfl) hnamed
      split at hput
      · rename_i hwatches
        obtain ⟨receiver, hits, hseen⟩ := hput
        simp only [if_pos hwatches, Option.toList_some, Lone.run, List.foldl_cons, List.foldl_nil,
          Lone.answer, hits]
        exact hseen
      · rename_i hwatches
        rw [if_neg hwatches]
        exact hput
  | changed name =>
      rw [callOn]
      have hput := h.receivers_of_put hknown name
        (fun number receiver store => (receiver.poll store (desk.isHeld number)).1)
        (by rw [act_changed]; cases desk.watching name <;> rfl) hnamed
      split at hput
      · rename_i hwatches
        obtain ⟨receiver, hits, hseen⟩ := hput
        simp only [if_pos hwatches, Option.toList_some, Lone.run, List.foldl_cons, List.foldl_nil,
          Lone.answer, hits, h.isHeld_of_watches hknown hwatches]
        exact hseen
      · rename_i hwatches
        rw [if_neg hwatches]
        exact hput

/-- A call on the store gets the answer that the store alone gives. -/
theorem reply?_eq (htargets : desk.HasTargets) (hknown : desk.WatchesKnown)
    {command : DeskCommand} {call : LoneCall} (hcall : desk.callOn number command = some call) :
    desk.reply? command = (lone.answer call).2 := by
  cases command with
  | create => cases hcall
  | sameTicket name other => cases hcall
  | drop handle =>
      rw [callOn] at hcall
      split at hcall <;> cases hcall
      rfl
  | through handle command =>
      rw [callOn] at hcall
      split at hcall
      · rename_i htarget
        have hstore := h.getElem?_of_target? htargets htarget
        obtain ⟨after, reply, hperform, hreply⟩ := performThrough_of_call? number lone hcall
        have hdone : desk.perform (.through handle command) = .ok (after, reply) := by
          simp only [perform, htarget, hstore, hperform]
        rw [Desk.reply?, hdone, hreply]
        rfl
      · cases hcall
  | hasChanged name =>
      rw [callOn] at hcall
      split at hcall <;> cases hcall
      rename_i hwatches
      obtain ⟨receiver, hits⟩ := watches_eq_true_iff.1 hwatches
      rw [Desk.reply?, perform_hasChanged (h.watching hknown hits), Lone.answer,
        h.receivers name receiver hits, h.isHeld_of_watches hknown hwatches]
      rfl
  | current name =>
      rw [callOn] at hcall
      split at hcall <;> cases hcall
      rename_i hwatches
      obtain ⟨receiver, hits⟩ := watches_eq_true_iff.1 hwatches
      rw [Desk.reply?, perform_current (h.watching hknown hits), Lone.answer,
        h.receivers name receiver hits]
      rfl
  | changed name =>
      rw [callOn] at hcall
      split at hcall <;> cases hcall
      rename_i hwatches
      obtain ⟨receiver, hits⟩ := watches_eq_true_iff.1 hwatches
      rw [Desk.reply?, perform_changed (h.watching hknown hits), Lone.answer,
        h.receivers name receiver hits, h.isHeld_of_watches hknown hwatches]
      rfl

end Mirrors

/-! ### Runs -/

theorem watchesKnown_initial : initial.WatchesKnown := nofun

/-- What a receiver has seen is put back for the store that it watched. -/
theorem WatchesKnown.of_put (hknown : desk.WatchesKnown)
    {after : List (String × Nat × Receiver)} {name asked : String} {number : Nat}
    {seen : Receiver} (see : Nat → Receiver → Store → Receiver)
    (hafter : after =
      match desk.watching name with
      | .ok (other, receiver, store) =>
          putNamed name (other, see other receiver store) desk.receivers
      | .error _ => desk.receivers)
    (hnamed : named? asked after = some (number, seen)) : number < desk.stores.length := by
  subst hafter
  split at hnamed
  · rename_i its receiver _ hwatching
    by_cases hits : its = number
    · exact hits ▸ hknown name its receiver (watching_eq_ok_iff.1 hwatching).1
    · exact hknown asked number seen (named?_of_putNamed hits hnamed)
  · exact hknown asked number seen hnamed

theorem WatchesKnown.act (hknown : desk.WatchesKnown) (htargets : desk.HasTargets)
    (command : DeskCommand) : (desk.act command).WatchesKnown := by
  intro asked number receiver hnamed
  cases command with
  | create =>
      have hlt := hknown asked number receiver hnamed
      have hlength : (desk.act .create).stores.length = desk.stores.length + 1 :=
        List.length_append
      omega
  | drop handle => exact hknown asked number receiver hnamed
  | sameTicket name other => exact hknown asked number receiver hnamed
  | hasChanged name =>
      rw [act_hasChanged] at hnamed ⊢
      exact hknown asked number receiver hnamed
  | through handle command =>
      rw [length_act_through]
      rcases desk.act_through handle command with ⟨hidle, -⟩ | ⟨its, _, htarget, -, hperforms⟩
      · rw [hidle] at hnamed
        exact hknown asked number receiver hnamed
      · rw [hperforms.receivers] at hnamed
        by_cases hits : its = number
        · exact hits ▸ htargets its (mem_handles_of_target? htarget)
        · cases command with
          | subscribe name => exact hknown asked number receiver (named?_of_putNamed hits hnamed)
          | _ => exact hknown asked number receiver hnamed
  | current name =>
      have hstores : (desk.act (.current name)).stores = desk.stores := by
        rw [act_current]
        cases desk.watching name <;> rfl
      rw [hstores]
      exact hknown.of_put (fun _ receiver store => receiver.look store)
        (by rw [act_current]; cases desk.watching name <;> rfl) hnamed
  | changed name =>
      have hstores : (desk.act (.changed name)).stores = desk.stores := by
        rw [act_changed]
        cases desk.watching name <;> rfl
      rw [hstores]
      exact hknown.of_put
        (fun number receiver store => (receiver.poll store (desk.isHeld number)).1)
        (by rw [act_changed]; cases desk.watching name <;> rfl) hnamed

/-- A step on a desk is, for one of its stores, a call on the mirror or nothing. -/
theorem Mirrors.act {number : Nat} {lone : Lone} (h : desk.Mirrors number lone)
    (htargets : desk.HasTargets) (hknown : desk.WatchesKnown) (command : DeskCommand) :
    (desk.act command).Mirrors number (lone.run (desk.callOn number command).toList) where
  store := by rw [htargets.stores_act, h.store, store_run_callOn]
  isHeld := h.isHeld_act htargets command
  receivers := h.receivers_act htargets hknown command

/-- A run on a desk is, for one of its stores, a run of calls on the mirror, with the
same answers. -/
theorem Mirrors.run {number : Nat} {lone : Lone} (h : desk.Mirrors number lone)
    (htargets : desk.HasTargets) (hknown : desk.WatchesKnown) (commands : List DeskCommand) :
    (desk.run commands).Mirrors number (lone.run (desk.callsOn number commands)) ∧
      desk.repliesOn number commands = lone.replies (desk.callsOn number commands) := by
  induction commands generalizing desk lone with
  | nil => exact ⟨h, rfl⟩
  | cons command commands ih =>
      obtain ⟨hmirrors, hreplies⟩ := ih (h.act htargets hknown command) (htargets.act command)
        (hknown.act htargets command)
      rw [run_cons, callsOn, Lone.run_append, repliesOn, Lone.replies_append]
      refine ⟨hmirrors, ?_⟩
      rw [hreplies]
      congr 1
      cases hcall : desk.callOn number command with
      | none => rfl
      | some call => exact congrArg ([·]) (h.reply?_eq htargets hknown hcall)

theorem mirrors_initial (number : Nat) : initial.Mirrors number .initial where
  store := by cases number <;> rfl
  isHeld := by cases number <;> rfl
  receivers := nofun

/-! ### Handles beside others -/

/-- The desk with a handle put away. -/
def without (desk : Desk) (handle : Nat) : Desk :=
  { desk with handles := desk.handles.set handle none }

theorem target?_without_of_ne {handle other : Nat} (hne : other ≠ handle) :
    (desk.without handle).target? other = desk.target? other := by
  rw [target?, target?, without, List.getElem?_set_ne hne.symm]

section

variable {handle number : Nat} (htarget : desk.target? handle = some number)

include htarget

theorem lt_of_target? : handle < desk.handles.length :=
  (List.getElem?_eq_some_iff.1 (Option.join_eq_some_iff.1 htarget)).1

/-- Putting away a handle changes for no store whether it is held, if others hold its own. -/
theorem isHeld_without (hheld : (desk.without handle).isHeld number = true) (other : Nat) :
    (desk.without handle).isHeld other = desk.isHeld other := by
  by_cases hother : other = number
  · subst hother
    rw [hheld, isHeld_of_act_drop hheld]
  · refine Bool.eq_iff_iff.2 ⟨isHeld_of_act_drop, fun hmine => ?_⟩
    rcases isHeld_eq_true_iff.1 hmine with hmem | hlent
    · obtain ⟨place, hplace⟩ := List.mem_iff_getElem?.1 hmem
      have hne : handle ≠ place := by
        rintro rfl
        rw [target?, hplace] at htarget
        exact hother (Option.some.inj htarget)
      refine isHeld_eq_true_iff.2 (Or.inl (List.mem_of_getElem? (i := place) ?_))
      rw [without, List.getElem?_set_ne hne, hplace]
    · exact isHeld_eq_true_iff.2 (Or.inr hlent)

theorem performThrough_without (its : Nat) (store : Store) (command : StoreCommand) :
    (desk.without handle).performThrough its store command =
      (desk.performThrough its store command).map fun done =>
        (done.1.without handle, done.2) := by
  cases command with
  | clone =>
      have hlt := lt_of_target? htarget
      simp only [performThrough, without, Except.map, List.length_set]
      rw [List.set_append_left _ _ hlt]
  | setAuth user token => cases user <;> rfl
  | setUser user => cases user <;> rfl
  | beginRefresh name =>
      simp only [performThrough]
      split <;> rfl
  | completeRefresh name token =>
      simp only [performThrough, without]
      split <;> rfl
  | logoutIfCurrent name =>
      simp only [performThrough, without]
      split <;> rfl
  | _ => rfl

/-- A command that does not use a handle does the same, and is answered the same, where
the handle was put away, as long as others hold its store. -/
theorem perform_without (hheld : (desk.without handle).isHeld number = true)
    {command : DeskCommand} (hother : command.uses handle = false) :
    (desk.without handle).perform command =
      (desk.perform command).map fun done => (done.1.without handle, done.2) := by
  have hlt := lt_of_target? htarget
  have hsame := isHeld_without htarget hheld
  cases command with
  | create =>
      simp only [perform, without, Except.map, List.length_set]
      rw [List.set_append_left _ _ hlt]
  | drop other =>
      have hne : other ≠ handle := ne_of_beq_false hother
      simp only [perform, without, Except.map]
      rw [List.set_comm _ _ hne.symm]
  | through other command =>
      have hstores : (desk.without handle).stores = desk.stores := rfl
      simp only [perform, target?_without_of_ne (ne_of_beq_false hother), hstores]
      cases desk.target? other with
      | none => rfl
      | some its =>
          simp only
          cases desk.stores[its]? with
          | none => rfl
          | some store => exact performThrough_without htarget its store command
  | sameTicket name other => rfl
  | hasChanged name =>
      have hwatching : (desk.without handle).watching name = desk.watching name := rfl
      simp only [perform, hwatching, hsame]
      cases desk.watching name <;> rfl
  | current name =>
      have hwatching : (desk.without handle).watching name = desk.watching name := rfl
      simp only [perform, hwatching]
      cases desk.watching name <;> rfl
  | changed name =>
      have hwatching : (desk.without handle).watching name = desk.watching name := rfl
      simp only [perform, hwatching, hsame]
      cases desk.watching name <;> rfl

theorem act_without (hheld : (desk.without handle).isHeld number = true)
    {command : DeskCommand} (hother : command.uses handle = false) :
    (desk.without handle).act command = (desk.act command).without handle := by
  rw [act, act, perform_without htarget hheld hother]
  cases desk.perform command <;> rfl

/-- A command that does not use a handle leaves it where it leads. -/
theorem target?_act {command : DeskCommand} (hother : command.uses handle = false) :
    (desk.act command).target? handle = some number := by
  have hlt := lt_of_target? htarget
  cases command with
  | create =>
      rw [← htarget, target?, target?]
      exact congrArg Option.join (List.getElem?_append_left hlt)
  | drop other =>
      exact (target?_without_of_ne (ne_of_beq_false hother).symm).trans htarget
  | through other command =>
      rcases desk.act_through other command with ⟨hidle, -⟩ | ⟨_, _, -, -, hperforms⟩
      · rwa [hidle]
      · rw [← htarget, target?, target?]
        rcases hperforms.handles with hhandles | hhandles <;> rw [hhandles]
        rw [List.getElem?_append_left hlt]
  | sameTicket name other => exact htarget
  | hasChanged name => rwa [act_hasChanged]
  | current name =>
      rw [act_current]
      cases desk.watching name <;> exact htarget
  | changed name =>
      rw [act_changed]
      cases desk.watching name <;> exact htarget

/-- A run that does not use a handle goes on alike where the handle was put away, as long
as others hold its store. -/
theorem run_without (htargets : desk.HasTargets) {commands : List DeskCommand}
    (hothers : ∀ command ∈ commands, command.uses handle = false)
    (hheld : ((desk.without handle).run commands).isHeld number = true) :
    (desk.without handle).run commands = (desk.run commands).without handle ∧
      (desk.without handle).replies commands = desk.replies commands := by
  induction commands generalizing desk with
  | nil => exact ⟨rfl, rfl⟩
  | cons command commands ih =>
      have hstore : (desk.without handle).stores[number]? = some
          (desk.stores.get ⟨number, htargets number (mem_handles_of_target? htarget)⟩) :=
        List.getElem?_eq_getElem _
      have hfirst : (desk.without handle).isHeld number = true :=
        Bool.of_not_eq_false fun hdead => Bool.false_ne_true
          ((run_of_not_isHeld hstore hdead (command :: commands)).2.symm.trans hheld)
      have hother := hothers command List.mem_cons_self
      have hstep := act_without htarget hfirst hother
      rw [run_cons, hstep] at hheld
      obtain ⟨hrun, hreplies⟩ := ih (target?_act htarget hother) (htargets.act command)
        (fun later hlater => hothers later (List.mem_cons_of_mem _ hlater)) hheld
      rw [run_cons, run_cons, hstep, replies, replies, hstep, hreplies,
        perform_without htarget hfirst hother]
      refine ⟨hrun, congrArg (· :: _) ?_⟩
      cases desk.perform command <;> rfl

end

end

end Desk

/-! ### Whole runs -/

open Desk in
/-- Every store of a desk is as if it were alone. After any run from the first desk it is
in the state, and held by somebody or not, as the lone store is after the calls that the
run made on it, and the calls were answered alike; of these calls the operations alone,
done one after the other to a new store, give the same state. Through which of its
handles a command goes makes no difference to anything. Dropping a handle of a store that
others hold leaves all stores, tickets and receivers as they are, and as long as somebody
holds the store, no answer to any later command that does not use the handle, and no
store, shows that it was dropped. -/
theorem store_is_as_if_alone (before : List DeskCommand) :
    let now := initial.run before
    (∀ number, number < now.stores.length →
      let alone := Lone.initial.run (initial.callsOn number before)
      now.stores[number]? = some alone.store ∧ now.isHeld number = alone.isHeld ∧
      initial.repliesOn number before = Lone.initial.replies (initial.callsOn number before) ∧
      alone.store = Store.initial.run (initial.eventsOn number before)) ∧
    (∀ handle other, now.target? handle = now.target? other → ∀ command,
      now.perform (.through handle command) = now.perform (.through other command)) ∧
    ∀ handle number, now.target? handle = some number →
      let dropped := now.act (.drop handle)
      dropped.isHeld number = true →
      dropped = { now with handles := dropped.handles } ∧
      ∀ after, (∀ command ∈ after, command.uses handle = false) →
        (dropped.run after).isHeld number = true →
        dropped.replies after = now.replies after ∧
          (dropped.run after).stores = (now.run after).stores := by
  intro now
  have htargets : now.HasTargets := hasTargets_initial.run before
  refine ⟨?_, ?_, ?_⟩
  · intro number hlt alone
    obtain ⟨hmirrors, hreplies⟩ :=
      (mirrors_initial number).run hasTargets_initial watchesKnown_initial before
    have hstore : now.stores[number]? = some alone.store := by
      rw [← hmirrors.store, List.getElem?_eq_getElem hlt, Option.getD_some]
    have hisHeld := hmirrors.isHeld
    rw [decide_eq_false (Nat.not_le.2 hlt), Bool.or_false] at hisHeld
    refine ⟨hstore, hisHeld.symm, hreplies, ?_⟩
    have hrun := hasTargets_initial.stores_run number before
    rw [hmirrors.store] at hrun
    rw [hrun]
    cases number <;> rfl
  · intro handle other hsame command
    simp only [perform, hsame]
  · intro handle number htarget dropped hheld
    refine ⟨rfl, fun after hothers hstill => ?_⟩
    obtain ⟨hrun, hreplies⟩ := run_without htarget htargets hothers hstill
    have hstores : (dropped.run after).stores = ((now.run after).without handle).stores :=
      congrArg Desk.stores hrun
    exact ⟨hreplies, hstores⟩

/-- A store with a second handle, whose first one is dropped, is asked for nothing but the
sign-out that comes through the second; another store is signed out through a third. -/
example :
    Desk.initial.callsOn 0 [.through 0 .clone, .drop 0, .create, .through 2 .logout,
      .through 1 .logout] = [.operate .logout] := rfl

end SignedAccess
