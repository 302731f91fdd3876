/-
# Records read back

A record that is written as an object is read member by member, in the order of
writing, onto its draft. What each member does to the draft depends on its name and its
value alone, so the reading is one fold over the members that are written, however they
are spelled.
-/

import SignedAccess.Json.Record
import SignedAccess.Proofs.Json.Skipping

namespace SignedAccess.Json

open Text

/-- The input writes one value, with blanks around it. -/
def Value.SpelledBy (v : Value) (bs : Input) : Prop :=
  ∃ before one after, IsBlanks before ∧ IsBlanks after ∧ v.Spells one ∧
    bs = before ++ (one ++ after)

theorem Value.spelledBy_bytes (v : Value) : v.SpelledBy v.bytes :=
  ⟨[], v.bytes, [], isBlanks_nil, isBlanks_nil, v.spells_written, by rw [List.append_nil]; rfl⟩

/-- More blanks before a value change nothing. -/
theorem Value.SpelledBy.blanks_append {v : Value} {blanks bs : Input} (hspells : v.SpelledBy bs)
    (hblanks : IsBlanks blanks) : v.SpelledBy (blanks ++ bs) := by
  obtain ⟨before, one, after, hbefore, hafter, hone, rfl⟩ := hspells
  refine ⟨blanks ++ before, one, after, fun b hb => ?_, hafter, hone, ?_⟩
  · exact (List.mem_append.1 hb).elim (hblanks b) (hbefore b)
  · rw [List.append_assoc]

/-! ### Scalars that are asked for -/

section Expected

variable {v : Value} {blanks one rest : Input} (hblanks : IsBlanks blanks) (hspells : v.Spells one)

include hblanks hspells

/-- Where a text is asked for, a text is read and everything else is a mismatch. -/
theorem expectText_spells {depth : Nat} (hfits : v.Fits depth) (hends : EndsNumber rest) :
    expectText (blanks ++ (one ++ rest)) =
      match v with
      | .text s => .ok (s, rest)
      | v => .error (.here (.wrongType v.met "a string")) := by
  rw [expectText, readMet_append hblanks, readMet_spells hspells hfits hends]
  cases v <;> rfl

/-- Where a count is asked for, a whole number of 32 bits is read. -/
theorem expectCount_spells {depth : Nat} (hfits : v.Fits depth) (hends : EndsNumber rest) :
    expectCount (blanks ++ (one ++ rest)) =
      match v with
      | .number (.whole n) =>
          if 0 ≤ n ∧ n ≤ greatestCount then .ok (n.toNat, rest)
          else .error (.here (.wrongValue (.number (.whole n)) "u32"))
      | v => .error (.here (.wrongType v.met "u32")) := by
  rw [expectCount, readMet_append hblanks, readMet_spells hspells hfits hends]
  cases hfits <;> rfl

/-- Null is read as nothing, and everything else as it is without null. -/
theorem orNull_spells {α : Type} (read : Input → Except Fault (α × Input)) :
    orNull read (blanks ++ (one ++ rest)) =
      if v.met = .null then .ok (none, rest)
      else (read (one ++ rest)).map fun found => (some found.1, found.2) := by
  obtain ⟨b, more, hone, hbegins⟩ := exists_cons_of_spells hspells
  split
  · rename_i hnull
    cases v with
    | null =>
        have hword : one ++ rest = byteOf 'n' :: (['u', 'l', 'l'].map byteOf ++ rest) := by
          rw [hspells]
          rfl
        rw [hword, orNull, skipSpaces_append_cons hblanks (by decide)]
        simp only [if_true, afterWord_append]
        rfl
    | _ => cases hnull
  · rename_i hsome
    have hb : b ≠ byteOf 'n' := by
      intro hn
      rw [hbegins.null_of hn] at hsome
      exact hsome rfl
    rw [hone, List.cons_append, orNull, skipSpaces_append_cons hblanks hbegins.no_space]
    simp only [if_neg hb]
    cases read (b :: (more ++ rest)) <;> rfl

end Expected

/-! ### Records -/

/-- A part that nothing was read for takes a value of its kind. -/
def once {σ α : Type} (held : Option α) (ask : Value → Except Mismatch α) (hold : α → σ)
    (m : String × Value) : Except Fault σ :=
  if held.isSome then .error (.here (.repeated m.1))
  else within (.member m.1) (lifted ((ask m.2).map hold))

theorem once_eq_ok_iff {σ α : Type} {held : Option α} {ask : Value → Except Mismatch α}
    {hold : α → σ} {m : String × Value} {after : σ} :
    once held ask hold m = .ok after ↔ held = none ∧ ∃ a, ask m.2 = .ok a ∧ hold a = after := by
  unfold once
  cases held with
  | some found => simp
  | none => cases ask m.2 <;> simp [Except.map, lifted, within]

namespace Record

section Member

variable {σ α : Type} {r : Record σ α} {depth : Nat} {draft : σ} {name : String}
  {field : RecordField σ} {bs after : Input}

/-- A field that comes again is refused before its value is looked at. -/
theorem readMember_of_isSet (hfield : r.fields.find? (·.name == name) = some field)
    (hset : field.isSet draft = true) :
    r.readMember depth draft name bs = .error (.here (.repeated name)) := by
  rw [readMember, hfield]
  exact if_pos hset

theorem readMember_of_field (hfield : r.fields.find? (·.name == name) = some field)
    (hset : field.isSet draft = false) (hcolon : afterColon bs = .ok after) :
    r.readMember depth draft name bs = within (.member name) (field.read depth draft after) := by
  rw [readMember, hfield]
  simp only [hset, Bool.false_eq_true, if_false, hcolon]
  rfl

/-- A field that reads a value of its kind takes it where nothing was read before. -/
theorem readMember_once {β : Type} {held : Option β} {ask : Value → Except Mismatch β}
    {hold : β → σ} {v : Value} {rest : Input}
    (hfield : r.fields.find? (·.name == name) = some field)
    (hset : field.isSet draft = held.isSome) (hcolon : afterColon bs = .ok after)
    (hread : field.read depth draft after = (lifted ((ask v).map hold)).map (·, rest)) :
    r.readMember depth draft name bs = (once held ask hold (name, v)).map (·, rest) := by
  cases held with
  | some found => exact readMember_of_isSet hfield hset
  | none =>
      rw [readMember_of_field hfield hset hcolon, hread, once]
      cases ask v <;> rfl

/-- A member that no field names is passed over where the record does not keep it. -/
theorem readMember_of_skip (hkeep : r.keep = none)
    (hnone : r.fields.find? (·.name == name) = none) (hcolon : afterColon bs = .ok after) :
    r.readMember depth draft name bs = (skipValue after).map (draft, ·) := by
  rw [readMember, hnone, hkeep]
  simp only [hcolon, bind, Except.bind]
  cases skipValue after <;> rfl

/-- A member that no field names is handed to the record where it keeps such members. -/
theorem readMember_of_keep {keep : σ → String → Value → σ} (hkeep : r.keep = some keep)
    (hnone : r.fields.find? (·.name == name) = none) (hcolon : afterColon bs = .ok after) :
    r.readMember depth draft name bs =
      (readValue depth after).map fun found => (keep draft name found.1, found.2) := by
  rw [readMember, hnone, hkeep]
  simp only [hcolon, bind, Except.bind]
  cases readValue depth after <;> rfl

end Member

variable {σ α : Type} {r : Record σ α} {members : List (String × Value)} {depth : Nat}
  (step : σ → String × Value → Except Fault σ)

/-- The members of a record are taken one by one where the record takes each of them. -/
theorem read_members {inner : Input} (hspells : MembersSpell true members inner)
    (hmember : ∀ m ∈ members, ∀ s colon one rest, IsMarked (byteOf ':') colon →
      m.2.Spells one → EndsNumber rest →
      r.readMember depth s m.1 (colon ++ (one ++ rest)) = (step s m).map (·, rest))
    (rest : Input) :
    r.read (depth + 1) (byteOf '\x7b' :: (inner ++ byteOf '\x7d' :: rest)) =
      (members.foldlM step r.draft >>= fun draft => lifted (r.finish draft)).map (·, rest) := by
  have hmet : readMet (byteOf '\x7b' :: (inner ++ byteOf '\x7d' :: rest)) =
      .ok (.map, byteOf '\x7b' :: (inner ++ byteOf '\x7d' :: rest)) := rfl
  have hlength := length_le_of_membersSpell hspells
  rw [read, hmet]
  simp only [bind, Except.bind, List.drop_one, List.tail_cons]
  rw [foldMembers_spells step hspells hmember
    (by simp only [List.length_cons, List.length_append]; omega)]
  cases hfold : members.foldlM step r.draft with
  | error fault => rfl
  | ok draft => simp only [Except.map]

/-- A record is read from the whole of an input that writes it as an object. -/
theorem readAll_members {bs : Input} (hspells : (Value.object members).SpelledBy bs)
    (hmember : ∀ m ∈ members, ∀ s colon one rest, IsMarked (byteOf ':') colon →
      m.2.Spells one → EndsNumber rest →
      r.readMember (greatestDepth - 1) s m.1 (colon ++ (one ++ rest)) = (step s m).map (·, rest)) :
    r.readAll bs = members.foldlM step r.draft >>= fun draft => lifted (r.finish draft) := by
  obtain ⟨before, _, after, hbefore, hafter, ⟨inner, hinner, rfl⟩, rfl⟩ := hspells
  have hread : r.read greatestDepth (before ++
      (byteOf '\x7b' :: (inner ++ [byteOf '\x7d']) ++ after)) =
        (members.foldlM step r.draft >>= fun draft => lifted (r.finish draft)).map (·, after) := by
    rw [read, readMet_append hbefore, ← read, List.cons_append, List.append_assoc]
    exact read_members step hinner hmember after
  rw [readAll, hread]
  cases members.foldlM step r.draft >>= fun draft => lifted (r.finish draft) with
  | error fault => rfl
  | ok a =>
      have hend : skipSpaces after = [] := by
        rw [← List.append_nil after, skipSpaces_append hafter]
        rfl
      exact if_pos hend

end Record

end SignedAccess.Json
