/-
# User records, read and written

A user record shares one object between two named members and everything else. It is
read exactly when there is one id that is a text and at most one role that is a text or
null. What is kept besides has the last value under each other name, and neither of the
two names. A user that was read, and one that was made from an id and a role, is written
as an object that is read as the same user, so writing it again gives the same text.
-/

import SignedAccess.Proofs.Json.Parts
import SignedAccess.Proofs.Json.Records
import SignedAccess.Session.User

namespace SignedAccess

open Json

/-! ### Members as they are kept -/

namespace Json

theorem under_membersNormal (name : String) (members : List (String × Value)) :
    under name (membersNormal members) = (under name members).map Value.normal := by
  rw [membersNormal_eq_map, under, under, List.filter_map, List.map_map, List.map_map]
  rfl

theorem find?_membersNormal (name : String) (members : List (String × Value)) :
    find? name (membersNormal members) = (find? name members).map Value.normal := by
  rw [membersNormal_eq_map, find?, find?, List.find?_map, Option.map_map, Option.map_map]
  rfl

theorem Value.normal_eq_text_iff {v : Value} {s : String} : v.normal = .text s ↔ v = .text s := by
  cases v <;> simp [Value.normal]

theorem Value.normal_eq_ofText?_iff {v : Value} {s : Option String} :
    v.normal = Value.ofText? s ↔ v = Value.ofText? s := by
  cases s <;> cases v <;> simp [Value.normal, Value.ofText?]

end Json

namespace User

/-- The members for which a user has no part of its own. -/
def others (members : List (String × Value)) : List (String × Value) :=
  members.filter fun m => m.1 != "id" && m.1 != "role"

theorem others_cons_of_named {name : String} (h : name = "id" ∨ name = "role") (v : Value)
    (rest : List (String × Value)) : others ((name, v) :: rest) = others rest := by
  apply List.filter_cons_of_neg
  rcases h with rfl | rfl <;> simp

theorem others_cons_of_not_named {name : String} (h : ¬(name = "id" ∨ name = "role")) (v : Value)
    (rest : List (String × Value)) : others ((name, v) :: rest) = (name, v) :: others rest := by
  rw [not_or] at h
  exact List.filter_cons_of_pos (by simp [h.1, h.2])

theorem find?_others (name : String) (members : List (String × Value)) :
    find? name (others members) =
      if name = "id" ∨ name = "role" then none else find? name members := by
  induction members with
  | nil => simp [others]
  | cons m rest ih =>
      obtain ⟨other, kept⟩ := m
      by_cases hother : other = "id" ∨ other = "role"
      · rw [others_cons_of_named hother, ih, find?_cons]
        by_cases hname : name = "id" ∨ name = "role"
        · rw [if_pos hname, if_pos hname]
        · have hne : other ≠ name := by
            rintro rfl
            exact hname hother
          rw [if_neg hne]
      · rw [others_cons_of_not_named hother, find?_cons, find?_cons, ih]
        split
        · rename_i hsame
          rw [if_neg fun h => hother (hsame ▸ h)]
        · rfl

/-! ### Parts of a draft -/

/-- The parts of a user that have a name. -/
def parts : List (DraftPart Draft) := [
  { name := "id", held := fun draft => draft.id.map .text, takes := fun v => ∃ s, v = .text s },
  { name := "role", held := fun draft => draft.role.map Value.ofText?
    takes := fun v => ∃ s, v = Value.ofText? s }]

namespace Draft

variable {draft after : Draft} {v : Value}

theorem add_id : draft.add "id" v = .ok after ↔
    draft.id = none ∧ ∃ s, v = .text s ∧ after = { draft with id := some s } := by
  rw [add, if_pos rfl]
  cases draft.id with
  | some s => simp
  | none => cases v <;> simp [textOf, Except.map, eq_comm]

theorem add_role : draft.add "role" v = .ok after ↔
    draft.role = none ∧ ∃ role, v = Value.ofText? role ∧
      after = { draft with role := some role } := by
  have hname : ¬"role" = "id" := by decide
  rw [add, if_neg hname, if_pos rfl]
  cases draft.role with
  | some s => simp
  | none =>
      cases v <;> simp [textOrNullOf, textOf, Except.map, eq_comm, Value.ofText?, Option.exists]

theorem add_other {name : String} (hid : name ≠ "id") (hrole : name ≠ "role") :
    draft.add name v = .ok { draft with profile := put name v draft.profile } := by
  rw [add, if_neg hid, if_neg hrole]

/-- What one more member does to a draft. -/
theorem add_cases {name : String} (hadd : draft.add name v = .ok after) :
    (name = "id" ∧ draft.id = none ∧ ∃ s, v = .text s ∧ after = { draft with id := some s }) ∨
    (name = "role" ∧ draft.role = none ∧ ∃ role, v = Value.ofText? role ∧
      after = { draft with role := some role }) ∨
    (name ≠ "id" ∧ name ≠ "role" ∧
      after = { draft with profile := put name v draft.profile }) := by
  by_cases hid : name = "id"
  · subst hid
    exact Or.inl ⟨rfl, add_id.1 hadd⟩
  · by_cases hrole : name = "role"
    · subst hrole
      exact Or.inr (Or.inl ⟨rfl, add_role.1 hadd⟩)
    · rw [add_other hid hrole] at hadd
      cases hadd
      exact Or.inr (Or.inr ⟨hid, hrole, rfl⟩)

theorem keepsToParts_add : KeepsToParts parts fun draft m => Draft.add draft m.1 m.2 where
  held := by
    rintro draft after ⟨name, v⟩ hadd p hp
    simp only [parts, List.mem_cons, List.not_mem_nil, or_false] at hp
    rcases add_cases hadd with ⟨rfl, hnone, s, rfl, rfl⟩ | ⟨rfl, hnone, s, rfl, rfl⟩ |
      ⟨hid, hrole, rfl⟩ <;> rcases hp with rfl | rfl <;> simp [*]
  takes := by
    rintro draft after ⟨name, v⟩ hadd p hp
    simp only [parts, List.mem_cons, List.not_mem_nil, or_false] at hp
    rcases add_cases hadd with ⟨rfl, -, s, rfl, rfl⟩ | ⟨rfl, -, s, rfl, rfl⟩ |
      ⟨hid, hrole, rfl⟩ <;> rcases hp with rfl | rfl <;> simp [*]
  succeeds := by
    rintro draft ⟨name, v⟩ hparts
    by_cases hid : name = "id"
    · subst hid
      obtain ⟨hnone, s, rfl⟩ := hparts _ (List.mem_cons_self) rfl
      exact ⟨_, add_id.2 ⟨Option.map_eq_none_iff.1 hnone, s, rfl, rfl⟩⟩
    · by_cases hrole : name = "role"
      · subst hrole
        obtain ⟨hnone, s, rfl⟩ := hparts _ (List.mem_cons_of_mem _ List.mem_cons_self) rfl
        exact ⟨_, add_role.2 ⟨Option.map_eq_none_iff.1 hnone, s, rfl, rfl⟩⟩
      · exact ⟨_, add_other hid hrole⟩

/-- All members that go to no part are put into the profile. -/
theorem profile_run {members : List (String × Value)}
    (hrun : members.foldlM (fun draft m => Draft.add draft m.1 m.2) draft = .ok after) :
    after.profile = putAll draft.profile (others members) := by
  induction members generalizing draft with
  | nil =>
      cases hrun
      rfl
  | cons m rest ih =>
      obtain ⟨name, v⟩ := m
      rw [List.foldlM_cons] at hrun
      obtain ⟨next, hadd, hrest⟩ := Text.bind_eq_ok.1 hrun
      rw [ih hrest]
      rcases add_cases hadd with ⟨rfl, -, s, -, rfl⟩ | ⟨rfl, -, s, -, rfl⟩ | ⟨hid, hrole, rfl⟩
      · rw [others_cons_of_named (Or.inl rfl)]
      · rw [others_cons_of_named (Or.inr rfl)]
      · rw [others_cons_of_not_named (not_or.2 ⟨hid, hrole⟩), putAll_cons]

theorem finish_eq_ok_iff {user : User} : draft.finish = .ok user ↔
    draft.id = some user.id ∧ draft.role.join = user.role ∧ draft.profile = user.profile := by
  obtain ⟨id, role, profile⟩ := draft
  obtain ⟨id', role', profile'⟩ := user
  cases id <;> cases role <;> simp [finish, required, bind, Except.bind]

end Draft

/-- The members of a user: one id, at most one role, and the others. -/
structure Describes (members : List (String × Value)) (user : User) : Prop where
  id : under "id" members = [.text user.id]
  role : MayHold "role" Value.ofText? members user.role
  profile : user.profile = ordered (others members)

theorem ofMembers_eq_ok_iff {members : List (String × Value)} {user : User} :
    ofMembers members = .ok user ↔ Describes members user := by
  have hfold : ofMembers members =
      (members.foldlM (fun draft m => Draft.add draft m.1 m.2) {} >>= Draft.finish) := rfl
  -- what a run leaves in the two parts and in the profile
  have hrun {draft : Draft}
      (hadd : members.foldlM (fun draft m => Draft.add draft m.1 m.2) {} = .ok draft) :
      (draft.id.map Value.text).toList = under "id" members ∧
        (draft.role.map Value.ofText?).toList = under "role" members ∧
        draft.profile = ordered (others members) :=
    ⟨Draft.keepsToParts_add.held_run hadd List.mem_cons_self,
      Draft.keepsToParts_add.held_run hadd (List.mem_cons_of_mem _ List.mem_cons_self),
      Draft.profile_run hadd⟩
  rw [hfold, Text.bind_eq_ok]
  constructor
  · rintro ⟨draft, hadd, hfinish⟩
    obtain ⟨hid, hrole, hprofile⟩ := hrun hadd
    obtain ⟨hid', hrole', hprofile'⟩ := Draft.finish_eq_ok_iff.1 hfinish
    refine ⟨?_, hrole' ▸ mayHold_join hrole, hprofile'.symm.trans hprofile⟩
    rw [← hid, hid']
    rfl
  · rintro ⟨hid, hrole, hprofile⟩
    obtain ⟨draft, hadd⟩ : ∃ draft,
        members.foldlM (fun draft m => Draft.add draft m.1 m.2) {} = .ok draft := by
      apply Draft.keepsToParts_add.succeeds_run <;> intro p hp <;>
        simp only [parts, List.mem_cons, List.not_mem_nil, or_false] at hp <;>
        rcases hp with rfl | rfl
      · exact Nat.le_of_eq (congrArg List.length hid)
      · exact hrole.length_le
      · exact fun v hv => ⟨user.id, List.mem_singleton.1 (hid ▸ hv)⟩
      · exact fun v hv => ⟨user.role, hrole.eq_write_of_mem hv⟩
    obtain ⟨hid', hrole', hprofile'⟩ := hrun hadd
    refine ⟨draft, hadd, Draft.finish_eq_ok_iff.2 ⟨?_, ?_, hprofile'.trans hprofile.symm⟩⟩
    · rw [hid] at hid'
      cases hfound : draft.id with
      | none =>
          rw [hfound] at hid'
          cases hid'
      | some s =>
          rw [hfound] at hid'
          rw [Value.text.inj (List.cons.inj hid').1]
    · exact hrole.join_eq Value.ofText?_injective hrole'

/-! ### Reading on text -/

/-- The fault of a text that has a member which a draft does not take. -/
def faultAt (name : String) : Mismatch → Fault
  | .repeated other => .here (.repeated other)
  | reason => .mismatch [.member name] reason

/-- One more member of a text. -/
def Draft.take (draft : Draft) (m : String × Value) : Except Fault Draft :=
  (draft.add m.1 m.2.normal).mapError (faultAt m.1)

theorem readMember_spells {v : Value} {depth : Nat} {colon one rest : Input} (draft : Draft)
    (name : String) (hcolon : IsMarked (byteOf ':') colon) (hspells : v.Spells one)
    (hfits : v.Fits depth) (hends : EndsNumber rest) :
    record.readMember depth draft name (colon ++ (one ++ rest)) =
      (draft.take (name, v)).map (·, rest) := by
  obtain ⟨blanks, hblanks, hskip⟩ := afterColon_append hcolon (one ++ rest)
  by_cases hid : name = "id"
  · subst hid
    obtain ⟨id, role, profile⟩ := draft
    cases id with
    | some s => exact Record.readMember_of_isSet rfl rfl
    | none =>
        rw [Record.readMember_of_field rfl rfl hskip]
        simp only [expectText_spells hblanks hspells hfits hends]
        cases v <;> rfl
  · by_cases hrole : name = "role"
    · subst hrole
      obtain ⟨id, role, profile⟩ := draft
      cases role with
      | some s => exact Record.readMember_of_isSet rfl rfl
      | none =>
          rw [Record.readMember_of_field rfl rfl hskip]
          have htext := expectText_spells isBlanks_nil hspells hfits hends
          rw [List.nil_append] at htext
          simp only [orNull_spells hblanks hspells, htext]
          cases v <;> rfl
    · have hnone : record.fields.find? (·.name == name) = none := by
        simp [record, Ne.symm hid, Ne.symm hrole]
      rw [Record.readMember_of_keep rfl hnone hskip, readValue_append hblanks,
        readValue_spells hspells hfits hends, Draft.take, Draft.add_other hid hrole]
      rfl

theorem foldlM_take_eq_ok_iff {members : List (String × Value)} {draft after : Draft} :
    members.foldlM Draft.take draft = .ok after ↔
      (membersNormal members).foldlM (fun draft m => Draft.add draft m.1 m.2) draft =
        .ok after := by
  have htake (draft next : Draft) (m : String × Value) :
      draft.take m = .ok next ↔ draft.add m.1 m.2.normal = .ok next := by
    rw [Draft.take]
    cases draft.add m.1 m.2.normal <;> simp [Except.mapError]
  induction members generalizing draft with
  | nil => simp only [membersNormal, List.foldlM_nil, pure, Except.pure, Except.ok.injEq]
  | cons m rest ih =>
      rw [membersNormal, List.foldlM_cons, List.foldlM_cons, Text.bind_eq_ok, Text.bind_eq_ok]
      simp only [htake, ih]

/-- A text is read as the user that the members in it describe. -/
theorem read_eq_ok_iff {members : List (String × Value)} {bs : Input} {user : User}
    (hfits : (Value.object members).Fits greatestDepth)
    (hspells : (Value.object members).SpelledBy bs) :
    User.read bs = .ok user ↔ Describes (membersNormal members) user := by
  have hmembers : ∀ m ∈ members, m.2.Fits (greatestDepth - 1) := Value.fits_object_iff.1 hfits
  have hread : User.read bs =
      members.foldlM Draft.take {} >>= fun draft => lifted draft.finish :=
    Record.readAll_members Draft.take hspells fun m hm draft colon one rest hcolon hone hends =>
      readMember_spells draft m.1 hcolon hone (hmembers m hm) hends
  have hlifted (draft : Draft) : lifted draft.finish = .ok user ↔ draft.finish = .ok user := by
    cases draft.finish <;> simp [lifted]
  rw [hread, Text.bind_eq_ok, ← ofMembers_eq_ok_iff]
  simp only [hlifted, foldlM_take_eq_ok_iff]
  exact Text.bind_eq_ok.symm

/-! ### Users that are kept -/

/-- A user as it is kept: the names of the profile rise and are not those of its own
parts, and the values are kept without loss. -/
structure IsKept (user : User) : Prop where
  rising : Rising user.profile
  not_named : ∀ m ∈ user.profile, m.1 ≠ "id" ∧ m.1 ≠ "role"
  fits : ∀ m ∈ user.profile, m.2.Fits (greatestDepth - 1)
  normal : ∀ m ∈ user.profile, m.2.normal = m.2

theorem others_membersNormal (members : List (String × Value)) :
    others (membersNormal members) = membersNormal (others members) := by
  rw [membersNormal_eq_map, membersNormal_eq_map, others, others, List.filter_map]
  rfl

theorem not_named_of_mem_others {members : List (String × Value)} {m : String × Value}
    (hm : m ∈ others members) : m.1 ≠ "id" ∧ m.1 ≠ "role" := by
  simpa using (List.mem_filter.1 hm).2

/-- What a user is described by is known from the members as they are written. -/
theorem describes_membersNormal_iff {members : List (String × Value)} {user : User} :
    Describes (membersNormal members) user ↔
      under "id" members = [.text user.id] ∧ MayHold "role" Value.ofText? members user.role ∧
        user.profile = ordered (membersNormal (others members)) := by
  have hone {values : List Value} {v : Value} (hv : ∀ w : Value, w.normal = v ↔ w = v) :
      values.map Value.normal = [v] ↔ values = [v] := by
    simp only [List.map_eq_singleton_iff, hv, exists_eq_right]
  have hid : under "id" (membersNormal members) = [.text user.id] ↔
      under "id" members = [.text user.id] := by
    rw [under_membersNormal, hone fun _ => Value.normal_eq_text_iff]
  have hrole : MayHold "role" Value.ofText? (membersNormal members) user.role ↔
      MayHold "role" Value.ofText? members user.role := by
    rw [MayHold, MayHold, under_membersNormal, hone fun _ => Value.normal_eq_ofText?_iff,
      List.map_eq_nil_iff]
  rw [← others_membersNormal, ← hid, ← hrole]
  exact ⟨fun h => ⟨h.id, h.role, h.profile⟩, fun h => ⟨h.1, h.2.1, h.2.2⟩⟩

theorem IsKept.toValue_fits {user : User} (h : user.IsKept) : user.toValue.Fits greatestDepth := by
  refine Value.fits_object_iff.2 fun m hm => ?_
  rcases List.mem_cons.1 hm with rfl | hm
  · exact .text _
  · rcases List.mem_cons.1 hm with rfl | hm
    · cases user.role with
      | none => exact .null
      | some s => exact .text s
    · exact h.fits m hm

/-- A user that is kept is read from every text that writes it. -/
theorem IsKept.read_eq {user : User} (h : user.IsKept) {bs : Input}
    (hspells : user.toValue.SpelledBy bs) : User.read bs = .ok user := by
  have hothers : others user.profile = user.profile :=
    List.filter_eq_self.2 fun m hm => by simpa using h.not_named m hm
  have hnormal : membersNormal user.profile = user.profile := by
    rw [membersNormal_eq_map]
    refine (List.map_congr_left fun m hm => ?_).trans (List.map_id _)
    exact congrArg (Prod.mk m.1) (h.normal m hm)
  refine (read_eq_ok_iff h.toValue_fits hspells).2 (describes_membersNormal_iff.2 ⟨?_, ?_, ?_⟩)
  · rw [under_cons_self, under_cons_of_ne (by decide),
      under_eq_nil fun m hm => (h.not_named m hm).1]
  · refine Or.inr ?_
    rw [under_cons_of_ne (by decide), under_cons_self,
      under_eq_nil fun m hm => (h.not_named m hm).2]
  · rw [others_cons_of_named (Or.inl rfl), others_cons_of_named (Or.inr rfl), hothers, hnormal,
      ordered_of_rising h.rising]

theorem isKept_of_read {members : List (String × Value)} {bs : Input} {user : User}
    (hfits : (Value.object members).Fits greatestDepth)
    (hspells : (Value.object members).SpelledBy bs) (hread : User.read bs = .ok user) :
    user.IsKept := by
  have hmembers : ∀ m ∈ members, m.2.Fits (greatestDepth - 1) := Value.fits_object_iff.1 hfits
  obtain ⟨-, -, hprofile⟩ := describes_membersNormal_iff.1 ((read_eq_ok_iff hfits hspells).1 hread)
  -- what is kept is the normal form of some member that is not named
  have hfrom : ∀ m ∈ user.profile, ∃ n ∈ members, (n.1 ≠ "id" ∧ n.1 ≠ "role") ∧
      m = (n.1, n.2.normal) := by
    intro m hm
    rw [hprofile, membersNormal_eq_map] at hm
    obtain ⟨n, hn, rfl⟩ := List.mem_map.1 (mem_of_mem_ordered hm)
    exact ⟨n, List.mem_of_mem_filter hn, not_named_of_mem_others hn, rfl⟩
  refine ⟨hprofile ▸ rising_ordered _, ?_, ?_, ?_⟩
  · intro m hm
    obtain ⟨n, -, hnot, rfl⟩ := hfrom m hm
    exact hnot
  · intro m hm
    obtain ⟨n, hn, -, rfl⟩ := hfrom m hm
    exact (hmembers n hn).normal
  · intro m hm
    obtain ⟨n, hn, -, rfl⟩ := hfrom m hm
    exact (hmembers n hn).normal_normal

/-- Nothing of a user is lost when it is written and read again, and what is written then
is the same text. It is read from every text that spells the same object. -/
structure Survives (user : User) : Prop where
  readBack : User.read user.toValue.bytes = .ok user
  respelled : ∀ bs, user.toValue.SpelledBy bs → User.read bs = .ok user
  rewritten : (User.read user.toValue.bytes).map (·.toValue.bytes) = .ok user.toValue.bytes

theorem IsKept.survives {user : User} (h : user.IsKept) : user.Survives := by
  have hback : User.read user.toValue.bytes = .ok user := h.read_eq user.toValue.spelledBy_bytes
  refine ⟨hback, fun bs => h.read_eq, ?_⟩
  rw [hback]
  rfl

/-- A user without a profile is kept. -/
theorem isKept_of_parts (id : String) (role : Option String) : IsKept ⟨id, role, []⟩ :=
  ⟨List.Pairwise.nil, List.forall_mem_nil _, List.forall_mem_nil _, List.forall_mem_nil _⟩

end User

/-- An object, however it is written, is read as a user exactly when it has one id, a
text, and at most one role, a text or null. The user has this id and this role, and under
each other name the last value of that name, with everything in it, and under the two
names nothing. A user that was read survives being written and read, and so does every
user that is made from an id and perhaps a role. -/
theorem user_record_loses_nothing (members : List (String × Value)) (bs : Input)
    (hfits : (Value.object members).Fits greatestDepth)
    (hspells : (Value.object members).SpelledBy bs) :
    ((∃ user, User.read bs = .ok user) ↔
      (∃ id, under "id" members = [.text id]) ∧
        ∃ role, MayHold "role" Value.ofText? members role) ∧
    (∀ user, User.read bs = .ok user →
      under "id" members = [.text user.id] ∧ MayHold "role" Value.ofText? members user.role ∧
      Rising user.profile ∧
      (∀ name, find? name user.profile =
        if name = "id" ∨ name = "role" then none
        else (find? name members.reverse).map Value.normal) ∧
      user.Survives) ∧
    ∀ id role, User.Survives ⟨id, role, []⟩ := by
  have hread (user : User) : User.read bs = .ok user ↔ _ :=
    (User.read_eq_ok_iff hfits hspells).trans User.describes_membersNormal_iff
  refine ⟨?_, ?_, fun id role => (User.isKept_of_parts id role).survives⟩
  · simp only [hread]
    constructor
    · rintro ⟨user, hid, hrole, -⟩
      exact ⟨⟨_, hid⟩, _, hrole⟩
    · rintro ⟨⟨id, hid⟩, role, hrole⟩
      exact ⟨⟨id, role, _⟩, hid, hrole, rfl⟩
  · intro user huser
    obtain ⟨hid, hrole, hprofile⟩ := (hread user).1 huser
    have hkept := User.isKept_of_read hfits hspells huser
    refine ⟨hid, hrole, hkept.rising, fun name => ?_, hkept.survives⟩
    have hlast : find? name (membersNormal members).reverse =
        (find? name members.reverse).map Value.normal := by
      rw [← find?_membersNormal, membersNormal_eq_map, membersNormal_eq_map, List.map_reverse]
    rw [hprofile, find?_ordered, ← User.others_membersNormal, User.others, ← List.filter_reverse,
      ← User.others, User.find?_others, hlast]

/-- A role that is null, and a name that comes twice. -/
theorem user_record_loses_nothing_with_repeated_name :
    let members : List (String × Value) :=
      [("role", .null), ("age", .ofNat 41), ("id", .text "u-1"), ("age", .ofNat 42)]
    ∃ user, User.read (Value.object members).bytes = .ok user ∧ user.id = "u-1" ∧
      user.role = none ∧ find? "age" user.profile = some (.ofNat 42) ∧ user.Survives := by
  intro members
  have hfits : (Value.object members).Fits greatestDepth := by
    refine Value.fits_object_iff.2 fun m hm => ?_
    simp only [members, List.mem_cons, List.not_mem_nil, or_false] at hm
    rcases hm with rfl | rfl | rfl | rfl
    · exact .null
    · exact .number (by decide) (by decide)
    · exact .text _
    · exact .number (by decide) (by decide)
  obtain ⟨hreads, hkeeps, -⟩ := user_record_loses_nothing members _ hfits
    (Value.object members).spelledBy_bytes
  obtain ⟨user, huser⟩ := hreads.2 ⟨⟨"u-1", rfl⟩, none, Or.inr rfl⟩
  obtain ⟨hid, hrole, -, hprofile, hsurvives⟩ := hkeeps user huser
  have hage := hprofile "age"
  rw [if_neg (by decide)] at hage
  refine ⟨user, huser, ?_, ?_, hage, hsurvives⟩
  · exact (Value.text.inj (List.cons.inj hid).1).symm
  · rcases hrole with ⟨-, hnone⟩ | hone
    · exact hnone
    · have hsame : [Value.null] = [Value.ofText? user.role] := hone
      cases h : user.role with
      | none => rfl
      | some s =>
          rw [h] at hsame
          cases hsame

end SignedAccess
