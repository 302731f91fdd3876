/-
# Parts of a draft

A record is read onto a draft. Each named part of the draft takes at most one member, the
one with its name, and keeps the value of it; a second member of that name ends the
reading, and so does a value that the part does not take. Where each single step keeps
to this, a run over all members succeeds exactly when no name of a part comes twice and
all values are taken, and then the parts hold what was written under their names.
-/

import SignedAccess.Proofs.Json.Members
import SignedAccess.Proofs.Text.Cuts

namespace SignedAccess.Json

/-! ### Members under a name -/

/-- The values under a name, in the order of writing. -/
def under (name : String) (members : List (String × Value)) : List Value :=
  (members.filter (·.1 == name)).map (·.2)

theorem under_append (name : String) (members more : List (String × Value)) :
    under name (members ++ more) = under name members ++ under name more := by
  rw [under, List.filter_append, List.map_append]
  rfl

@[simp]
theorem under_singleton (name other : String) (v : Value) :
    under name [(other, v)] = if other = name then [v] else [] := by
  by_cases h : other = name <;> simp [under, h]

theorem under_cons_self (name : String) (v : Value) (rest : List (String × Value)) :
    under name ((name, v) :: rest) = v :: under name rest := by
  rw [← List.singleton_append, under_append, under_singleton, if_pos rfl]
  rfl

theorem under_cons_of_ne {name other : String} (hne : other ≠ name) (v : Value)
    (rest : List (String × Value)) : under name ((other, v) :: rest) = under name rest := by
  rw [← List.singleton_append, under_append, under_singleton, if_neg hne]
  rfl

theorem under_eq_nil {name : String} {members : List (String × Value)}
    (hnone : ∀ m ∈ members, m.1 ≠ name) : under name members = [] := by
  rw [under, List.map_eq_nil_iff, List.filter_eq_nil_iff]
  exact fun m hm => by simpa using hnone m hm

theorem mem_under_of_mem {m : String × Value} {members : List (String × Value)}
    (hm : m ∈ members) : m.2 ∈ under m.1 members :=
  List.mem_map.2 ⟨m, List.mem_filter.2 ⟨hm, beq_self_eq_true _⟩, rfl⟩

/-- A part that may be left out: no member has the name, or just one, which writes it. -/
def MayHold {α : Type} (name : String) (write : Option α → Value)
    (members : List (String × Value)) (part : Option α) : Prop :=
  under name members = [] ∧ part = none ∨ under name members = [write part]

section MayHold

variable {α : Type} {name : String} {write : Option α → Value} {members : List (String × Value)}
  {part : Option α} {held : Option (Option α)}

theorem MayHold.length_le (h : MayHold name write members part) :
    (under name members).length ≤ 1 := by
  rcases h with ⟨hnone, -⟩ | hone
  · rw [hnone]
    exact Nat.zero_le 1
  · rw [hone]
    exact Nat.le_refl 1

theorem MayHold.eq_write_of_mem (h : MayHold name write members part) {v : Value}
    (hv : v ∈ under name members) : v = write part := by
  rcases h with ⟨hnone, -⟩ | hone
  · rw [hnone] at hv
    cases hv
  · rw [hone] at hv
    exact List.mem_singleton.1 hv

/-- A part that was left out and one that was written as nothing are the same. -/
theorem mayHold_join (heq : (held.map write).toList = under name members) :
    MayHold name write members held.join := by
  rw [MayHold, ← heq]
  cases held with
  | none => exact Or.inl ⟨rfl, rfl⟩
  | some part => exact Or.inr rfl

theorem MayHold.join_eq (h : MayHold name write members part) (hwrite : Function.Injective write)
    (heq : (held.map write).toList = under name members) : held.join = part := by
  rw [MayHold, ← heq] at h
  cases held with
  | none =>
      rcases h with ⟨-, rfl⟩ | hone
      · rfl
      · cases hone
  | some found =>
      rcases h with ⟨hnone, -⟩ | hone
      · cases hnone
      · exact hwrite (List.cons.inj hone).1

end MayHold

theorem Value.ofText?_injective : Function.Injective Value.ofText? := by
  intro s t h
  cases s <;> cases t <;> simp_all [Value.ofText?]

/-! ### Steps that keep to the parts -/

/-- A part of a draft: the name of its member, what the draft holds of it, and the values
that it takes. -/
structure DraftPart (σ : Type) where
  name : String
  held : σ → Option Value
  takes : Value → Prop

/-- A step keeps to the parts: a member goes to the part of its name where that is empty
and takes the value, and every other part stays. -/
structure KeepsToParts {ε σ : Type} (parts : List (DraftPart σ))
    (step : σ → String × Value → Except ε σ) : Prop where
  held : ∀ {s after : σ} {m : String × Value}, step s m = .ok after → ∀ p ∈ parts,
    (p.held after).toList = (p.held s).toList ++ under p.name [m]
  takes : ∀ {s after : σ} {m : String × Value}, step s m = .ok after → ∀ p ∈ parts,
    ∀ v ∈ under p.name [m], p.takes v
  succeeds : ∀ (s : σ) (m : String × Value),
    (∀ p ∈ parts, p.name = m.1 → p.held s = none ∧ p.takes m.2) → ∃ after, step s m = .ok after

namespace KeepsToParts

variable {ε σ : Type} {parts : List (DraftPart σ)} {step : σ → String × Value → Except ε σ}
  (h : KeepsToParts parts step)

include h

/-- After a run each part holds what it held before and what was written under its name,
which is one value at most. -/
theorem held_run {s after : σ} {members : List (String × Value)}
    (hrun : members.foldlM step s = .ok after) {p : DraftPart σ} (hp : p ∈ parts) :
    (p.held after).toList = (p.held s).toList ++ under p.name members := by
  induction members generalizing s with
  | nil =>
      cases hrun
      exact (List.append_nil _).symm
  | cons m rest ih =>
      rw [List.foldlM_cons] at hrun
      obtain ⟨next, hstep, hrest⟩ := Text.bind_eq_ok.1 hrun
      rw [ih hrest, h.held hstep p hp, List.append_assoc, ← under_append]
      rfl

theorem takes_run {s after : σ} {members : List (String × Value)}
    (hrun : members.foldlM step s = .ok after) {p : DraftPart σ} (hp : p ∈ parts) :
    ∀ v ∈ under p.name members, p.takes v := by
  induction members generalizing s with
  | nil => exact fun v hv => absurd hv List.not_mem_nil
  | cons m rest ih =>
      rw [List.foldlM_cons] at hrun
      obtain ⟨next, hstep, hrest⟩ := Text.bind_eq_ok.1 hrun
      intro v hv
      rw [← List.singleton_append, under_append, List.mem_append] at hv
      exact hv.elim (h.takes hstep p hp v) (ih hrest v)

theorem succeeds_run {s : σ} {members : List (String × Value)}
    (hone : ∀ p ∈ parts, ((p.held s).toList ++ under p.name members).length ≤ 1)
    (htakes : ∀ p ∈ parts, ∀ v ∈ under p.name members, p.takes v) :
    ∃ after, members.foldlM step s = .ok after := by
  induction members generalizing s with
  | nil => exact ⟨s, rfl⟩
  | cons m rest ih =>
      obtain ⟨next, hstep⟩ : ∃ next, step s m = .ok next := by
        refine h.succeeds s m fun p hp hname => ?_
        have hcons : under p.name (m :: rest) = m.2 :: under p.name rest :=
          hname ▸ under_cons_self m.1 m.2 rest
        have hlength := hone p hp
        rw [hcons, List.length_append, List.length_cons] at hlength
        refine ⟨?_, htakes p hp m.2 (hcons ▸ List.mem_cons_self)⟩
        rw [← Option.toList_eq_nil_iff, ← List.length_eq_zero_iff]
        omega
      obtain ⟨after, hrest⟩ : ∃ after, rest.foldlM step next = .ok after := by
        refine ih (fun p hp => ?_) fun p hp v hv => htakes p hp v ?_
        · rw [h.held hstep p hp, List.append_assoc, ← under_append]
          exact hone p hp
        · rw [← List.singleton_append, under_append]
          exact List.mem_append_right _ hv
      exact ⟨after, by rw [List.foldlM_cons, hstep]; exact hrest⟩

end KeepsToParts

end SignedAccess.Json
