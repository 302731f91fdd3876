/-
# Members in order

Putting members one by one keeps their names in rising order, each once. Of members
that are put in order, the last under each name is found and every other one is gone;
members whose names rise already stay as they are. A value is kept with the members of
all objects in it put in order.
-/

import Mathlib.Data.String.Basic
import SignedAccess.Json.Value

namespace SignedAccess.Json

/-- The names of the members rise. -/
def Rising (members : Members) : Prop := members.Pairwise fun m n => m.1 < n.1

theorem mem_of_mem_put {name : String} {value : Value} {members : Members} {m : String × Value}
    (hm : m ∈ put name value members) : m = (name, value) ∨ m ∈ members := by
  induction members with
  | nil => exact Or.inl (List.mem_singleton.1 hm)
  | cons head rest ih =>
      obtain ⟨other, kept⟩ := head
      unfold put at hm
      split at hm
      · exact List.mem_cons.1 hm
      · split at hm
        · exact (List.mem_cons.1 hm).imp_right (List.mem_cons_of_mem _)
        · rcases List.mem_cons.1 hm with rfl | hin
          · exact Or.inr List.mem_cons_self
          · exact (ih hin).imp_right (List.mem_cons_of_mem _)

theorem rising_put {members : Members} (h : Rising members) (name : String) (value : Value) :
    Rising (put name value members) := by
  induction members with
  | nil => exact List.pairwise_singleton _ _
  | cons head rest ih =>
      obtain ⟨other, kept⟩ := head
      obtain ⟨hhead, hrest⟩ := List.pairwise_cons.1 h
      unfold put
      split
      · rename_i hlt
        refine List.pairwise_cons.2 ⟨?_, h⟩
        intro m hm
        rcases List.mem_cons.1 hm with rfl | hin
        · exact hlt
        · exact lt_trans hlt (hhead m hin)
      · rename_i hnot
        split
        · rename_i heq
          subst heq
          exact List.pairwise_cons.2 ⟨hhead, hrest⟩
        · rename_i hne
          refine List.pairwise_cons.2 ⟨?_, ih hrest⟩
          intro m hm
          rcases mem_of_mem_put hm with rfl | hin
          · exact lt_of_le_of_ne (not_lt.1 hnot) (Ne.symm hne)
          · exact hhead m hin

/-- A name above all others is put at the end. -/
theorem put_of_above {members : Members} {name : String} (habove : ∀ m ∈ members, m.1 < name)
    (value : Value) : put name value members = members ++ [(name, value)] := by
  induction members with
  | nil => rfl
  | cons head rest ih =>
      obtain ⟨other, kept⟩ := head
      have hother : other < name := habove _ List.mem_cons_self
      rw [put, if_neg (not_lt_of_gt hother), if_neg (ne_of_gt hother),
        ih fun m hm => habove m (List.mem_cons_of_mem _ hm), List.cons_append]

/-! ### Members that are put in order -/

/-- Members put one after the other onto members that are there already. -/
def putAll (members : Members) (written : List (String × Value)) : Members :=
  written.foldl (fun members (name, value) => put name value members) members

theorem ordered_eq_putAll (written : List (String × Value)) : ordered written = putAll [] written :=
  rfl

theorem putAll_cons (members : Members) (m : String × Value) (written : List (String × Value)) :
    putAll members (m :: written) = putAll (put m.1 m.2 members) written := rfl

theorem rising_putAll {members : Members} (h : Rising members) (written : List (String × Value)) :
    Rising (putAll members written) := by
  induction written generalizing members with
  | nil => exact h
  | cons m rest ih => exact ih (rising_put h m.1 m.2)

theorem rising_ordered (written : List (String × Value)) : Rising (ordered written) :=
  rising_putAll List.Pairwise.nil written

theorem mem_of_mem_putAll {members : Members} {written : List (String × Value)}
    {m : String × Value} (hm : m ∈ putAll members written) : m ∈ members ∨ m ∈ written := by
  induction written generalizing members with
  | nil => exact Or.inl hm
  | cons first rest ih =>
      rcases ih hm with hput | hin
      · rcases mem_of_mem_put hput with rfl | hold
        · exact Or.inr List.mem_cons_self
        · exact Or.inl hold
      · exact Or.inr (List.mem_cons_of_mem _ hin)

theorem mem_of_mem_ordered {written : List (String × Value)} {m : String × Value}
    (hm : m ∈ ordered written) : m ∈ written :=
  (mem_of_mem_putAll hm).elim (fun hnone => absurd hnone List.not_mem_nil) id

theorem find?_append (name : String) (members more : Members) :
    find? name (members ++ more) = (find? name members).or (find? name more) := by
  rw [find?, List.find?_append, Option.map_or]
  rfl

/-- Under each name the last of the members is found. -/
theorem find?_putAll (name : String) (members : Members) (written : List (String × Value)) :
    find? name (putAll members written) =
      (find? name written.reverse).or (find? name members) := by
  induction written generalizing members with
  | nil => rfl
  | cons m rest ih =>
      obtain ⟨other, value⟩ := m
      rw [putAll_cons, ih, List.reverse_cons, find?_append, Option.or_assoc]
      congr 1
      by_cases hsame : other = name
      · subst hsame
        rw [find?_put_self, find?_cons, if_pos rfl, Option.some_or]
      · rw [find?_put_of_ne hsame, find?_cons, if_neg hsame, find?_nil, Option.none_or]

theorem find?_ordered (name : String) (written : List (String × Value)) :
    find? name (ordered written) = find? name written.reverse := by
  rw [ordered_eq_putAll, find?_putAll, find?_nil, Option.or_none]

/-- Members whose names rise are in order. -/
theorem putAll_of_rising {members written : Members} (h : Rising (members ++ written)) :
    putAll members written = members ++ written := by
  induction written generalizing members with
  | nil => rw [List.append_nil]; rfl
  | cons m rest ih =>
      have hbelow : ∀ other ∈ members, other.1 < m.1 := fun other hother =>
        (List.pairwise_append.1 h).2.2 other hother m List.mem_cons_self
      rw [List.append_cons] at h ⊢
      rw [putAll_cons, put_of_above hbelow, ih h]

theorem ordered_of_rising {members : Members} (h : Rising members) : ordered members = members :=
  putAll_of_rising h

/-! ### Values as they are kept -/

mutual

/-- The value with the members of every object in it put in order. -/
def Value.normal : Value → Value
  | .array items => .array (itemsNormal items)
  | .object members => .object (ordered (membersNormal members))
  | v => v

/-- The items as they are kept. -/
def itemsNormal : List Value → List Value
  | [] => []
  | v :: rest => v.normal :: itemsNormal rest

/-- The members as they are kept, in the order of writing. -/
def membersNormal : List (String × Value) → List (String × Value)
  | [] => []
  | (name, v) :: rest => (name, v.normal) :: membersNormal rest

end

theorem itemsNormal_eq_map (items : List Value) : itemsNormal items = items.map Value.normal := by
  induction items with
  | nil => rfl
  | cons v rest ih => rw [itemsNormal, ih, List.map_cons]

theorem membersNormal_eq_map (members : List (String × Value)) :
    membersNormal members = members.map fun m => (m.1, m.2.normal) := by
  induction members with
  | nil => rfl
  | cons m rest ih => rw [membersNormal, ih, List.map_cons]

end SignedAccess.Json
