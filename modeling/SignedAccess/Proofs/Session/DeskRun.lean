/-
# Runs on a desk

Many stores lie on a desk, and commands to them come in any order. A command through a
handle performs at most one operation, on the store that the handle leads to; every
other command leaves the stores alone. So of a whole run each store has gone through
just the operations that were performed on it, and `Desk.getElem?_run` says so. A
command that fails does nothing.
-/

import SignedAccess.Session.Desk

namespace SignedAccess

/-! ### Runs -/

namespace Desk

/-- The desk after a command. -/
def act (desk : Desk) (command : DeskCommand) : Desk :=
  match desk.perform command with
  | .ok (after, _) => after
  | .error _ => desk

/-- The desk after commands in a row. -/
def run (desk : Desk) (commands : List DeskCommand) : Desk := commands.foldl act desk

@[simp]
theorem run_nil (desk : Desk) : desk.run [] = desk := rfl

@[simp]
theorem run_cons (desk : Desk) (command : DeskCommand) (commands : List DeskCommand) :
    desk.run (command :: commands) = (desk.act command).run commands := rfl

theorem run_append (desk : Desk) (before after : List DeskCommand) :
    desk.run (before ++ after) = (desk.run before).run after :=
  List.foldl_append

theorem act_of_ok {desk after : Desk} {command : DeskCommand} {reply : DeskReply}
    (hperform : desk.perform command = .ok (after, reply)) : desk.act command = after := by
  rw [act, hperform]

theorem act_of_error {desk : Desk} {command : DeskCommand} {fault : DeskFault}
    (hperform : desk.perform command = .error fault) : desk.act command = desk := by
  rw [act, hperform]

/-- The name under which something was put leads to it. -/
@[simp]
theorem named?_putNamed_self {α : Type} (name : String) (a : α) (entries : List (String × α)) :
    named? name (putNamed name a entries) = some a := by
  simp [named?, putNamed]

/-- Other names lead to what they led to. -/
theorem named?_putNamed_of_ne {α : Type} {name other : String} (hne : other ≠ name) (a : α)
    (entries : List (String × α)) :
    named? name (putNamed other a entries) = named? name entries := by
  have hother : (other == name) = false := beq_false_of_ne hne
  simp only [named?, putNamed, List.find?_cons, hother, List.find?_filter]
  congr 2
  funext entry
  by_cases hentry : entry.1 = name
  · simp [hentry, hne.symm]
  · simp [hentry]

end Desk

/-! ### What a command performs -/

/-- The operation that a command performs on the store of its handle, where tickets lie
under names. -/
def StoreCommand.event? (tickets : List (String × Ticket)) : StoreCommand → Option SessionEvent
  | .setAuth (.ok user) token => some (.setAuth user token)
  | .setUser (.ok user) => some (.setUser user)
  | .setToken token => some (.setToken token)
  | .logout => some .logout
  | .setLoading loading => some (.setLoading loading)
  | .beginRefresh _ => some .beginRefresh
  | .completeRefresh name token =>
      (Desk.named? name tickets).map fun ticket => .completeRefresh ticket token
  | .logoutIfCurrent name => (Desk.named? name tickets).map .logoutIfCurrent
  | _ => none

namespace Desk

/-- The operation that a command performs on the store with a number. -/
def eventOn (desk : Desk) (number : Nat) : DeskCommand → Option SessionEvent
  | .through handle command =>
      if desk.target? handle = some number then command.event? desk.tickets else none
  | _ => none

/-- The operations that a run performs on the store with a number. -/
def eventsOn (desk : Desk) (number : Nat) : List DeskCommand → List SessionEvent
  | [] => []
  | command :: commands =>
      (desk.eventOn number command).toList ++ (desk.act command).eventsOn number commands

/-- A command through a handle has been done to the store with a number: the store has
gone through the operation of the command, if it has one, and beside that there may be
one more handle or receiver. -/
structure Performs (desk after : Desk) (number : Nat) (store : Store) (command : StoreCommand) :
    Prop where
  stores : after.stores =
    desk.stores.set number (store.run (command.event? desk.tickets).toList)
  handles : after.handles = desk.handles ∨ after.handles = desk.handles ++ [some number]
  lent : after.lent = desk.lent
  receivers : after.receivers =
    match command with
    | .subscribe name => putNamed name (number, Receiver.subscribe store) desk.receivers
    | _ => desk.receivers

theorem performs_of_ok {desk after : Desk} {number : Nat} {store : Store}
    {command : StoreCommand} {reply : DeskReply} (hstore : desk.stores[number]? = some store)
    (hperform : desk.performThrough number store command = .ok (after, reply)) :
    desk.Performs after number store command := by
  have hsame : desk.stores = desk.stores.set number store := by
    obtain ⟨hlt, rfl⟩ := List.getElem?_eq_some_iff.1 hstore
    simp
  cases command with
  | clone =>
      cases hperform
      exact ⟨hsame, Or.inr rfl, rfl, rfl⟩
  | setAuth user token =>
      cases user <;> cases hperform
      exact ⟨rfl, Or.inl rfl, rfl, rfl⟩
  | setUser user =>
      cases user <;> cases hperform
      exact ⟨rfl, Or.inl rfl, rfl, rfl⟩
  | beginRefresh name =>
      simp only [performThrough] at hperform
      split at hperform <;> cases hperform <;> exact ⟨hsame, Or.inl rfl, rfl, rfl⟩
  | completeRefresh name token =>
      simp only [performThrough] at hperform
      split at hperform
      · rename_i ticket hticket
        cases hperform
        refine ⟨?_, Or.inl rfl, rfl, rfl⟩
        rw [StoreCommand.event?, hticket]
        rfl
      · cases hperform
  | logoutIfCurrent name =>
      simp only [performThrough] at hperform
      split at hperform
      · rename_i ticket hticket
        cases hperform
        refine ⟨?_, Or.inl rfl, rfl, rfl⟩
        rw [StoreCommand.event?, hticket]
        rfl
      · cases hperform
  | unknown => cases hperform
  | read =>
      cases hperform
      exact ⟨hsame, Or.inl rfl, rfl, rfl⟩
  | subscribe name =>
      cases hperform
      exact ⟨hsame, Or.inl rfl, rfl, rfl⟩
  | _ =>
      cases hperform
      exact ⟨rfl, Or.inl rfl, rfl, rfl⟩

/-- A command that fails would have performed nothing. -/
theorem event?_of_error {desk : Desk} {number : Nat} {store : Store} {command : StoreCommand}
    {fault : DeskFault} (hperform : desk.performThrough number store command = .error fault) :
    command.event? desk.tickets = none := by
  cases command with
  | setAuth user token =>
      cases user <;> cases hperform
      rfl
  | setUser user =>
      cases user <;> cases hperform
      rfl
  | beginRefresh name =>
      simp only [performThrough] at hperform
      split at hperform <;> cases hperform
  | completeRefresh name token =>
      simp only [performThrough] at hperform
      split at hperform
      · cases hperform
      · rename_i hticket
        rw [StoreCommand.event?, hticket]
        rfl
  | logoutIfCurrent name =>
      simp only [performThrough] at hperform
      split at hperform
      · cases hperform
      · rename_i hticket
        rw [StoreCommand.event?, hticket]
        rfl
  | unknown => rfl
  | _ => cases hperform

/-- A command through a handle does nothing, or is done to the store of the handle. -/
theorem act_through (desk : Desk) (handle : Nat) (command : StoreCommand) :
    desk.act (.through handle command) = desk ∧
        (∀ number store, desk.target? handle = some number → desk.stores[number]? = some store →
          command.event? desk.tickets = none) ∨
      ∃ number store, desk.target? handle = some number ∧ desk.stores[number]? = some store ∧
        desk.Performs (desk.act (.through handle command)) number store command := by
  cases htarget : desk.target? handle with
  | none =>
      have hfails : desk.perform (.through handle command) = .error .noManager := by
        simp only [perform, htarget]
      exact Or.inl ⟨act_of_error hfails, nofun⟩
  | some number =>
      cases hstore : desk.stores[number]? with
      | none =>
          have hfails : desk.perform (.through handle command) = .error .noManager := by
            simp only [perform, htarget, hstore]
          refine Or.inl ⟨act_of_error hfails, ?_⟩
          rintro _ _ ⟨⟩ hother
          rw [hstore] at hother
          cases hother
      | some store =>
          have hthrough : desk.perform (.through handle command) =
              desk.performThrough number store command := by
            simp only [perform, htarget, hstore]
          cases hperform : desk.performThrough number store command with
          | error fault =>
              refine Or.inl ⟨act_of_error (hthrough.trans hperform), ?_⟩
              rintro _ _ ⟨⟩ -
              exact event?_of_error hperform
          | ok performed =>
              obtain ⟨after, reply⟩ := performed
              rw [act_of_ok (hthrough.trans hperform)]
              exact Or.inr ⟨number, store, rfl, hstore, performs_of_ok hstore hperform⟩

/-! ### What receivers are asked -/

@[simp]
theorem act_hasChanged (desk : Desk) (name : String) : desk.act (.hasChanged name) = desk := by
  cases hwatching : desk.watching name <;> simp only [act, perform, hwatching] <;> rfl

theorem act_current (desk : Desk) (name : String) :
    desk.act (.current name) =
      match desk.watching name with
      | .ok (number, receiver, store) =>
          { desk with receivers := putNamed name (number, receiver.look store) desk.receivers }
      | .error _ => desk := by
  cases hwatching : desk.watching name <;> simp only [act, perform, hwatching] <;> rfl

theorem act_changed (desk : Desk) (name : String) :
    desk.act (.changed name) =
      match desk.watching name with
      | .ok (number, receiver, store) =>
          { desk with
            receivers := putNamed name (number, (receiver.poll store (desk.isHeld number)).1)
              desk.receivers }
      | .error _ => desk := by
  cases hwatching : desk.watching name <;> simp only [act, perform, hwatching] <;> rfl

/-! ### One store in a run -/

/-- A store after a command has gone through what the command performed on it. -/
theorem getElem?_act {desk : Desk} {number : Nat} {store : Store}
    (hstore : desk.stores[number]? = some store) (command : DeskCommand) :
    (desk.act command).stores[number]? =
      some (store.run (desk.eventOn number command).toList) := by
  cases command with
  | create =>
      obtain ⟨hlt, -⟩ := List.getElem?_eq_some_iff.1 hstore
      exact (List.getElem?_append_left hlt).trans hstore
  | drop handle => exact hstore
  | through handle command =>
      rw [eventOn]
      rcases desk.act_through handle command with ⟨hidle, hnone⟩ |
        ⟨other, its, htarget, hits, hperforms⟩
      · rw [hidle, hstore]
        split
        · rename_i htarget
          rw [hnone number store htarget hstore]
          rfl
        · rfl
      · rw [hperforms.stores, htarget]
        by_cases hsame : other = number
        · subst hsame
          obtain ⟨hlt, -⟩ := List.getElem?_eq_some_iff.1 hstore
          rw [hits] at hstore
          cases hstore
          rw [if_pos rfl, List.getElem?_set_self hlt]
        · have hother : ¬(some other = some number) := fun h => hsame (Option.some.inj h)
          rw [if_neg hother, List.getElem?_set_ne hsame, hstore]
          rfl
  | sameTicket name other => exact hstore
  | hasChanged name =>
      rw [act_hasChanged]
      exact hstore
  | current name =>
      rw [act_current]
      split <;> exact hstore
  | changed name =>
      rw [act_changed]
      split <;> exact hstore

/-- A store after a run has gone through what the run performed on it. -/
theorem getElem?_run {desk : Desk} {number : Nat} {store : Store}
    (hstore : desk.stores[number]? = some store) (commands : List DeskCommand) :
    (desk.run commands).stores[number]? = some (store.run (desk.eventsOn number commands)) := by
  induction commands generalizing desk store with
  | nil => exact hstore
  | cons command commands ih =>
      rw [run_cons, ih (getElem?_act hstore command), eventsOn, Store.run_append]

/-! ### Stores that are made in a run -/

theorem mem_handles_of_target? {desk : Desk} {handle number : Nat}
    (htarget : desk.target? handle = some number) : some number ∈ desk.handles :=
  List.mem_of_getElem? (Option.join_eq_some_iff.1 htarget)

/-- A command brings no handle to a store that had none, unless it makes the store. -/
theorem mem_handles_act {desk : Desk} {command : DeskCommand} {number : Nat}
    (hmem : some number ∈ (desk.act command).handles) :
    some number ∈ desk.handles ∨ command = .create ∧ number = desk.stores.length := by
  cases command with
  | create =>
      rcases List.mem_append.1 hmem with hmem | hmem
      · exact Or.inl hmem
      · exact Or.inr ⟨rfl, Option.some.inj (List.mem_singleton.1 hmem)⟩
  | drop handle =>
      rcases List.mem_or_eq_of_mem_set hmem with hmem | hnone
      · exact Or.inl hmem
      · cases hnone
  | through handle command =>
      rcases desk.act_through handle command with ⟨hidle, -⟩ | ⟨other, _, htarget, -, hperforms⟩
      · rw [hidle] at hmem
        exact Or.inl hmem
      · rcases hperforms.handles with hhandles | hhandles <;> rw [hhandles] at hmem
        · exact Or.inl hmem
        · rcases List.mem_append.1 hmem with hmem | hmem
          · exact Or.inl hmem
          · obtain rfl := Option.some.inj (List.mem_singleton.1 hmem)
            exact Or.inl (mem_handles_of_target? htarget)
  | sameTicket name other => exact Or.inl hmem
  | hasChanged name => exact Or.inl (by rwa [act_hasChanged] at hmem)
  | current name =>
      rw [act_current] at hmem
      split at hmem <;> exact Or.inl hmem
  | changed name =>
      rw [act_changed] at hmem
      split at hmem <;> exact Or.inl hmem

@[simp]
theorem lent_act (desk : Desk) (command : DeskCommand) : (desk.act command).lent = desk.lent := by
  cases command with
  | through handle command =>
      rcases desk.act_through handle command with ⟨hidle, -⟩ | ⟨_, _, -, -, hperforms⟩
      · rw [hidle]
      · exact hperforms.lent
  | hasChanged name => rw [act_hasChanged]
  | current name =>
      rw [act_current]
      split <;> rfl
  | changed name =>
      rw [act_changed]
      split <;> rfl
  | _ => rfl

/-- A store that is not there before a command is new after it, or still not there. -/
theorem getElem?_act_of_none {desk : Desk} {number : Nat} (hnone : desk.stores[number]? = none)
    (command : DeskCommand) :
    (desk.act command).stores[number]?.getD .initial = .initial := by
  cases command with
  | create =>
      have hle := List.getElem?_eq_none_iff.1 hnone
      change (desk.stores ++ [Store.initial])[number]?.getD _ = _
      rw [List.getElem?_append_right hle]
      cases number - desk.stores.length <;> rfl
  | through handle command =>
      rcases desk.act_through handle command with ⟨hidle, -⟩ | ⟨_, _, -, -, hperforms⟩
      · rw [hidle, hnone]
        rfl
      · have hle := List.getElem?_eq_none_iff.1 hnone
        rw [hperforms.stores, List.getElem?_eq_none (by rwa [List.length_set])]
        rfl
  | hasChanged name =>
      rw [act_hasChanged, hnone]
      rfl
  | current name =>
      rw [act_current]
      split <;> exact congrArg (·.getD .initial) hnone
  | changed name =>
      rw [act_changed]
      split <;> exact congrArg (·.getD .initial) hnone
  | _ => exact congrArg (·.getD .initial) hnone

/-- Every handle leads to a store that is there, if it leads to one at all. -/
def HasTargets (desk : Desk) : Prop :=
  ∀ number, some number ∈ desk.handles → number < desk.stores.length

theorem hasTargets_initial : initial.HasTargets := by
  intro number hmem
  obtain rfl := Option.some.inj (List.mem_singleton.1 hmem)
  decide

theorem HasTargets.act {desk : Desk} (htargets : desk.HasTargets) (command : DeskCommand) :
    (desk.act command).HasTargets := by
  intro number hmem
  rcases mem_handles_act hmem with hmem | ⟨rfl, rfl⟩
  · have hstays := getElem?_act (List.getElem?_eq_getElem (htargets number hmem)) command
    exact (List.getElem?_eq_some_iff.1 hstays).1
  · change desk.stores.length < (desk.stores ++ [Store.initial]).length
    rw [List.length_append]
    exact Nat.lt_succ_self _

theorem HasTargets.run {desk : Desk} (htargets : desk.HasTargets) (commands : List DeskCommand) :
    (desk.run commands).HasTargets := by
  induction commands generalizing desk with
  | nil => exact htargets
  | cons command commands ih => exact ih (htargets.act command)

/-- A store after a run has gone through what the run performed on it, from where it
was or else from a new store. -/
theorem HasTargets.stores_run {desk : Desk} (htargets : desk.HasTargets) (number : Nat)
    (commands : List DeskCommand) :
    (desk.run commands).stores[number]?.getD .initial =
      (desk.stores[number]?.getD .initial).run (desk.eventsOn number commands) := by
  induction commands generalizing desk with
  | nil => rfl
  | cons command commands ih =>
      have hstep : (desk.act command).stores[number]?.getD .initial =
          (desk.stores[number]?.getD .initial).run (desk.eventOn number command).toList := by
        cases hstore : desk.stores[number]? with
        | some store =>
            rw [getElem?_act hstore]
            rfl
        | none =>
            have hidle : desk.eventOn number command = none := by
              cases command with
              | through handle command =>
                  refine if_neg fun htarget => ?_
                  have hlt := htargets number (mem_handles_of_target? htarget)
                  exact absurd hstore (by simp [hlt])
              | _ => rfl
            rw [getElem?_act_of_none hstore, hidle]
            rfl
      rw [run_cons, ih (htargets.act command), hstep, eventsOn, Store.run_append]

end Desk

end SignedAccess
