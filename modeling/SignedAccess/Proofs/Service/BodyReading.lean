/-
# What a grant body says

A body that is written as an object is read exactly when each of its five parts comes at
most once with a value of its kind, and the content type comes once. Null counts as
absent. What comes under other names does not matter, whatever it is and however deep it
is nested, and neither does the order of the members nor how they are spelled.
-/

import SignedAccess.Proofs.Json.Parts
import SignedAccess.Proofs.Json.Records
import SignedAccess.Service.GrantBody
import SignedAccess.Session.User

namespace SignedAccess

open Json

/-! ### Values that may be null -/

namespace Json

/-- A count or null. -/
def Value.ofCount? : Option Nat → Value
  | none => .null
  | some n => .ofNat n

theorem Value.ofCount?_injective : Function.Injective Value.ofCount? := by
  intro m n h
  cases m with
  | none =>
      cases n with
      | none => rfl
      | some n => cases h
  | some m =>
      cases n with
      | none => cases h
      | some n =>
          injection h with hnumber
          injection hnumber with hwhole
          rw [Int.ofNat.inj hwhole]

/-- A value that must be a whole number of 32 bits or null. -/
def countOrNullOf : Value → Except Mismatch (Option Nat)
  | .null => .ok none
  | .number (.whole n) =>
      if 0 ≤ n ∧ n ≤ greatestCount then .ok (some n.toNat)
      else .error (.wrongValue (.number (.whole n)) "u32")
  | v => .error (.wrongType v.met "u32")

theorem textOf_eq_ok_iff {v : Value} {s : String} : User.textOf v = .ok s ↔ v = .text s := by
  cases v <;> simp [User.textOf]

theorem textOrNullOf_eq_ok_iff {v : Value} {s : Option String} :
    User.textOrNullOf v = .ok s ↔ v = Value.ofText? s := by
  cases v <;> cases s <;> simp [User.textOrNullOf, User.textOf, Except.map, Value.ofText?]

/-- The number is one of 32 bits, if there is one. -/
def IsCount (n : Option Nat) : Prop := ∀ k ∈ n, k ≤ greatestCount

theorem countOrNullOf_eq_ok_iff {v : Value} {n : Option Nat} :
    countOrNullOf v = .ok n ↔ v = Value.ofCount? n ∧ IsCount n := by
  constructor
  · intro h
    unfold countOrNullOf at h
    split at h
    · cases h
      exact ⟨rfl, nofun⟩
    · rename_i k
      split at h
      · rename_i hcount
        cases h
        have hback : (k.toNat : Int) = k := Int.toNat_of_nonneg hcount.1
        refine ⟨by rw [Value.ofCount?, Value.ofNat, hback], fun l hl => ?_⟩
        cases hl
        omega
      · cases h
    · cases h
  · rintro ⟨rfl, hcount⟩
    cases n with
    | none => rfl
    | some n =>
        have hmost := hcount n rfl
        exact if_pos ⟨Int.natCast_nonneg n, Int.ofNat_le.2 hmost⟩

section Spelled

variable {v : Value} {depth : Nat} {blanks one rest : Input} (hblanks : IsBlanks blanks)
  (hspells : v.Spells one) (hfits : v.Fits depth) (hends : EndsNumber rest)

include hblanks hspells hfits hends

theorem orNull_expectText :
    orNull expectText (blanks ++ (one ++ rest)) =
      (lifted (User.textOrNullOf v)).map (·, rest) := by
  have htext := expectText_spells isBlanks_nil hspells hfits hends
  rw [List.nil_append] at htext
  rw [orNull_spells hblanks hspells, htext]
  cases v <;> rfl

theorem orNull_expectCount :
    orNull expectCount (blanks ++ (one ++ rest)) =
      (lifted (countOrNullOf v)).map (·, rest) := by
  have hcount := expectCount_spells isBlanks_nil hspells hfits hends
  rw [List.nil_append] at hcount
  rw [orNull_spells hblanks hspells, hcount]
  cases hfits with
  | @number _ n =>
      simp only [Value.met, reduceCtorEq, if_false, countOrNullOf]
      split <;> rfl
  | _ => rfl

end Spelled

end Json

namespace GrantBody

/-! ### One more member -/

/-- The names of the parts. -/
def names : List String := ["bucket", "key", "filename", "contentType", "expiresInSeconds"]

namespace Draft

/-- One more member of a body. -/
def take (draft : Draft) (m : String × Value) : Except Fault Draft :=
  if m.1 = "bucket" then
    once draft.bucket User.textOrNullOf (fun s => { draft with bucket := some s }) m
  else if m.1 = "key" then
    once draft.key User.textOrNullOf (fun s => { draft with key := some s }) m
  else if m.1 = "filename" then
    once draft.filename User.textOrNullOf (fun s => { draft with filename := some s }) m
  else if m.1 = "contentType" then
    once draft.contentType User.textOf (fun s => { draft with contentType := some s }) m
  else if m.1 = "expiresInSeconds" then
    once draft.expires countOrNullOf (fun n => { draft with expires := some n }) m
  else .ok draft

theorem take_of_not_mem {draft : Draft} {name : String} {v : Value} (hname : name ∉ names) :
    draft.take (name, v) = .ok draft := by
  simp only [names, List.mem_cons, List.not_mem_nil, or_false, not_or] at hname
  obtain ⟨hbucket, hkey, hfilename, hcontent, hexpires⟩ := hname
  simp only [take, if_neg hbucket, if_neg hkey, if_neg hfilename, if_neg hcontent,
    if_neg hexpires]

/-- What one more member does to a draft: it fills an empty part with a value of its kind, or
it has none of the names and does nothing. -/
inductive Takes (draft : Draft) : String × Value → Draft → Prop
  | bucket {s : Option String} (hnone : draft.bucket = none) :
      Takes draft ("bucket", Value.ofText? s) { draft with bucket := some s }
  | key {s : Option String} (hnone : draft.key = none) :
      Takes draft ("key", Value.ofText? s) { draft with key := some s }
  | filename {s : Option String} (hnone : draft.filename = none) :
      Takes draft ("filename", Value.ofText? s) { draft with filename := some s }
  | contentType {s : String} (hnone : draft.contentType = none) :
      Takes draft ("contentType", .text s) { draft with contentType := some s }
  | expires {n : Option Nat} (hnone : draft.expires = none) (hcount : IsCount n) :
      Takes draft ("expiresInSeconds", Value.ofCount? n) { draft with expires := some n }
  | other {name : String} {v : Value} (hname : name ∉ names) : Takes draft (name, v) draft

theorem take_eq_ok_iff {draft after : Draft} {m : String × Value} :
    draft.take m = .ok after ↔ draft.Takes m after := by
  constructor
  · obtain ⟨name, v⟩ := m
    intro htake
    by_cases hname : name ∈ names
    · simp only [names, List.mem_cons, List.not_mem_nil, or_false] at hname
      rcases hname with rfl | rfl | rfl | rfl | rfl
      all_goals
        simp only [take, if_true, String.reduceEq, if_false, once_eq_ok_iff,
          textOrNullOf_eq_ok_iff, textOf_eq_ok_iff, countOrNullOf_eq_ok_iff] at htake
      · obtain ⟨hnone, s, rfl, rfl⟩ := htake
        exact .bucket hnone
      · obtain ⟨hnone, s, rfl, rfl⟩ := htake
        exact .key hnone
      · obtain ⟨hnone, s, rfl, rfl⟩ := htake
        exact .filename hnone
      · obtain ⟨hnone, s, rfl, rfl⟩ := htake
        exact .contentType hnone
      · obtain ⟨hnone, n, ⟨rfl, hcount⟩, rfl⟩ := htake
        exact .expires hnone hcount
    · rw [take_of_not_mem hname] at htake
      cases htake
      exact .other hname
  · intro htakes
    cases htakes with
    | other hname => exact take_of_not_mem hname
    | bucket hnone | key hnone | filename hnone =>
        simp [take, once_eq_ok_iff, textOrNullOf_eq_ok_iff, hnone]
    | contentType hnone => simp [take, once_eq_ok_iff, textOf_eq_ok_iff, hnone]
    | expires hnone hcount =>
        simp [take, once_eq_ok_iff, countOrNullOf_eq_ok_iff, hnone, hcount]

end Draft

/-- However a member is spelled, it is taken for its name and its value. Only the value of a
part has to fit. -/
theorem readMember_spells {v : Value} {depth : Nat} {colon one rest : Input} (draft : Draft)
    (name : String) (hcolon : IsMarked (byteOf ':') colon) (hspells : v.Spells one)
    (hfits : name ∈ names → v.Fits depth) (hends : EndsNumber rest) :
    record.readMember depth draft name (colon ++ (one ++ rest)) =
      (draft.take (name, v)).map (·, rest) := by
  obtain ⟨blanks, hblanks, hskip⟩ := afterColon_append hcolon (one ++ rest)
  by_cases hname : name ∈ names
  · have htext := orNull_expectText hblanks hspells (hfits hname) hends
    have hcontent := expectText_spells hblanks hspells (hfits hname) hends
    have hcount := orNull_expectCount hblanks hspells (hfits hname) hends
    simp only [names, List.mem_cons, List.not_mem_nil, or_false] at hname
    rcases hname with rfl | rfl | rfl | rfl | rfl
    · refine Record.readMember_once rfl rfl hskip ?_
      simp only [htext]
      cases User.textOrNullOf v <;> rfl
    · refine Record.readMember_once rfl rfl hskip ?_
      simp only [htext]
      cases User.textOrNullOf v <;> rfl
    · refine Record.readMember_once rfl rfl hskip ?_
      simp only [htext]
      cases User.textOrNullOf v <;> rfl
    · refine Record.readMember_once rfl rfl hskip ?_
      simp only [hcontent]
      cases v <;> rfl
    · refine Record.readMember_once rfl rfl hskip ?_
      simp only [hcount]
      cases countOrNullOf v <;> rfl
  · have hnone : record.fields.find? (·.name == name) = none := by
      simp only [names, List.mem_cons, List.not_mem_nil, or_false, not_or] at hname
      simp [record, Ne.symm hname.1, Ne.symm hname.2.1, Ne.symm hname.2.2.1,
        Ne.symm hname.2.2.2.1, Ne.symm hname.2.2.2.2]
    rw [Record.readMember_of_skip rfl hnone hskip, skipValue_spells hblanks hspells hends,
      Draft.take_of_not_mem hname]
    rfl

/-! ### Parts of a body -/

/-- A part that is a text or null. -/
def textPart (name : String) (held : Draft → Option (Option String)) : DraftPart Draft where
  name := name
  held := fun draft => (held draft).map Value.ofText?
  takes := fun v => ∃ s, v = Value.ofText? s

/-- The content type, which is a text. -/
def contentTypePart : DraftPart Draft where
  name := "contentType"
  held := fun draft => draft.contentType.map .text
  takes := fun v => ∃ s, v = .text s

/-- The number of seconds, which may be null. -/
def expiresPart : DraftPart Draft where
  name := "expiresInSeconds"
  held := fun draft => draft.expires.map Value.ofCount?
  takes := fun v => ∃ n, v = Value.ofCount? n ∧ IsCount n

/-- The parts of a body. -/
def parts : List (DraftPart Draft) := [textPart "bucket" Draft.bucket, textPart "key" Draft.key,
  textPart "filename" Draft.filename, contentTypePart, expiresPart]

theorem keepsToParts_take : KeepsToParts parts Draft.take where
  held := by
    intro draft after m htake p hp
    simp only [parts, List.mem_cons, List.not_mem_nil, or_false] at hp
    cases Draft.take_eq_ok_iff.1 htake with
    | other hname =>
        rw [under_singleton, if_neg, List.append_nil]
        rintro rfl
        exact hname (by rcases hp with rfl | rfl | rfl | rfl | rfl <;> decide)
    | _ hnone => rcases hp with rfl | rfl | rfl | rfl | rfl <;>
        simp [textPart, contentTypePart, expiresPart, hnone]
  takes := by
    intro draft after m htake p hp
    simp only [parts, List.mem_cons, List.not_mem_nil, or_false] at hp
    cases Draft.take_eq_ok_iff.1 htake with
    | other hname =>
        rw [under_singleton, if_neg]
        · exact nofun
        · rintro rfl
          exact hname (by rcases hp with rfl | rfl | rfl | rfl | rfl <;> decide)
    | expires hnone hcount =>
        rcases hp with rfl | rfl | rfl | rfl | rfl <;>
          simp [textPart, contentTypePart, expiresPart]
        exact ⟨_, rfl, hcount⟩
    | _ hnone =>
        rcases hp with rfl | rfl | rfl | rfl | rfl <;>
          simp [textPart, contentTypePart, expiresPart]
  succeeds := by
    rintro draft ⟨name, v⟩ hparts
    have hat (p : DraftPart Draft) (hp : p ∈ parts) (hname : p.name = name) := hparts p hp hname
    by_cases hname : name ∈ names
    · simp only [names, List.mem_cons, List.not_mem_nil, or_false] at hname
      rcases hname with rfl | rfl | rfl | rfl | rfl
      · obtain ⟨hnone, s, rfl⟩ := hat (textPart "bucket" Draft.bucket) (by simp [parts]) rfl
        exact ⟨_, Draft.take_eq_ok_iff.2 (.bucket (Option.map_eq_none_iff.1 hnone))⟩
      · obtain ⟨hnone, s, rfl⟩ := hat (textPart "key" Draft.key) (by simp [parts]) rfl
        exact ⟨_, Draft.take_eq_ok_iff.2 (.key (Option.map_eq_none_iff.1 hnone))⟩
      · obtain ⟨hnone, s, rfl⟩ := hat (textPart "filename" Draft.filename) (by simp [parts]) rfl
        exact ⟨_, Draft.take_eq_ok_iff.2 (.filename (Option.map_eq_none_iff.1 hnone))⟩
      · obtain ⟨hnone, s, rfl⟩ := hat contentTypePart (by simp [parts]) rfl
        exact ⟨_, Draft.take_eq_ok_iff.2 (.contentType (Option.map_eq_none_iff.1 hnone))⟩
      · obtain ⟨hnone, n, rfl, hcount⟩ := hat expiresPart (by simp [parts]) rfl
        exact ⟨_, Draft.take_eq_ok_iff.2 (.expires (Option.map_eq_none_iff.1 hnone) hcount)⟩
    · exact ⟨draft, Draft.take_of_not_mem hname⟩

/-- The members of a body: at most one under each name of its own, null or of its kind, and
just one under the name of the content type. -/
structure DescribedBy (members : List (String × Value)) (body : GrantBody) : Prop where
  bucket : MayHold "bucket" Value.ofText? members body.bucket
  key : MayHold "key" Value.ofText? members body.key
  filename : MayHold "filename" Value.ofText? members body.filename
  contentType : under "contentType" members = [.text body.contentType]
  expires : MayHold "expiresInSeconds" Value.ofCount? members body.expires
  count : IsCount body.expires

/-! ### Bodies on text -/

theorem finish_eq_ok_iff {draft : Draft} {body : GrantBody} :
    lifted (record.finish draft) = .ok body ↔
      draft.bucket.join = body.bucket ∧ draft.key.join = body.key ∧
        draft.filename.join = body.filename ∧ draft.contentType = some body.contentType ∧
        draft.expires.join = body.expires := by
  obtain ⟨bucket, key, filename, contentType, expires⟩ := draft
  obtain ⟨bucket', key', filename', contentType', expires'⟩ := body
  cases contentType <;> simp [record, required, lifted, bind, Except.bind]

section Run

variable {members : List (String × Value)} {draft : Draft}
  (hrun : members.foldlM Draft.take {} = .ok draft)

include hrun

/-- What a run leaves in a part that was empty. -/
theorem held_of_run {p : DraftPart Draft} (hp : p ∈ parts) (hempty : p.held {} = none) :
    (p.held draft).toList = under p.name members := by
  rw [keepsToParts_take.held_run hrun hp, hempty]
  rfl

theorem bucket_of_run : (draft.bucket.map Value.ofText?).toList = under "bucket" members :=
  held_of_run hrun (show textPart "bucket" Draft.bucket ∈ parts by simp [parts]) rfl

theorem key_of_run : (draft.key.map Value.ofText?).toList = under "key" members :=
  held_of_run hrun (show textPart "key" Draft.key ∈ parts by simp [parts]) rfl

theorem filename_of_run : (draft.filename.map Value.ofText?).toList = under "filename" members :=
  held_of_run hrun (show textPart "filename" Draft.filename ∈ parts by simp [parts]) rfl

theorem contentType_of_run :
    (draft.contentType.map Value.text).toList = under "contentType" members :=
  held_of_run hrun (show contentTypePart ∈ parts by simp [parts]) rfl

theorem expires_of_run :
    (draft.expires.map Value.ofCount?).toList = under "expiresInSeconds" members :=
  held_of_run hrun (show expiresPart ∈ parts by simp [parts]) rfl

/-- What a run leaves as the number of seconds is one of 32 bits. -/
theorem isCount_of_run : IsCount draft.expires.join := by
  cases hheld : draft.expires with
  | none => exact nofun
  | some n =>
      have hunder := expires_of_run hrun
      rw [hheld] at hunder
      obtain ⟨k, hsame, hcount⟩ :=
        keepsToParts_take.takes_run hrun (show expiresPart ∈ parts by simp [parts])
          (Value.ofCount? n) (hunder ▸ List.mem_singleton_self _)
      rwa [Option.join_some, Value.ofCount?_injective hsame]

theorem describedBy_of_run {body : GrantBody} (hfinish : lifted (record.finish draft) = .ok body) :
    DescribedBy members body := by
  obtain ⟨hbucket, hkey, hfilename, hcontent, hexpires⟩ := finish_eq_ok_iff.1 hfinish
  refine ⟨hbucket ▸ mayHold_join (bucket_of_run hrun), hkey ▸ mayHold_join (key_of_run hrun),
    hfilename ▸ mayHold_join (filename_of_run hrun), ?_,
    hexpires ▸ mayHold_join (expires_of_run hrun), hexpires ▸ isCount_of_run hrun⟩
  rw [← contentType_of_run hrun, hcontent]
  rfl

theorem finish_of_describedBy {body : GrantBody} (h : DescribedBy members body) :
    lifted (record.finish draft) = .ok body := by
  refine finish_eq_ok_iff.2 ⟨h.bucket.join_eq Value.ofText?_injective (bucket_of_run hrun),
    h.key.join_eq Value.ofText?_injective (key_of_run hrun),
    h.filename.join_eq Value.ofText?_injective (filename_of_run hrun), ?_,
    h.expires.join_eq Value.ofCount?_injective (expires_of_run hrun)⟩
  have hunder := contentType_of_run hrun
  rw [h.contentType] at hunder
  cases hheld : draft.contentType with
  | none =>
      rw [hheld] at hunder
      cases hunder
  | some s =>
      rw [hheld] at hunder
      rw [Value.text.inj (List.cons.inj hunder).1]

end Run

theorem exists_run_of_describedBy {members : List (String × Value)} {body : GrantBody}
    (h : DescribedBy members body) : ∃ draft, members.foldlM Draft.take {} = .ok draft := by
  apply keepsToParts_take.succeeds_run <;> intro p hp <;>
    simp only [parts, List.mem_cons, List.not_mem_nil, or_false] at hp <;>
    rcases hp with rfl | rfl | rfl | rfl | rfl
  · exact h.bucket.length_le
  · exact h.key.length_le
  · exact h.filename.length_le
  · exact Nat.le_of_eq (congrArg List.length h.contentType)
  · exact h.expires.length_le
  · exact fun v hv => ⟨body.bucket, h.bucket.eq_write_of_mem hv⟩
  · exact fun v hv => ⟨body.key, h.key.eq_write_of_mem hv⟩
  · exact fun v hv => ⟨body.filename, h.filename.eq_write_of_mem hv⟩
  · exact fun v hv => ⟨body.contentType, List.mem_singleton.1 (h.contentType ▸ hv)⟩
  · exact fun v hv => ⟨body.expires, h.expires.eq_write_of_mem hv, h.count⟩

/-- What describes a body fits, whatever else there is. -/
theorem DescribedBy.fits {members : List (String × Value)} {body : GrantBody}
    (h : DescribedBy members body) {m : String × Value} (hm : m ∈ members) (hname : m.1 ∈ names)
    (depth : Nat) : m.2.Fits depth := by
  have hunder := mem_under_of_mem hm
  have htext (s : Option String) : (Value.ofText? s).Fits depth := by
    cases s with
    | none => exact .null
    | some s => exact .text s
  obtain ⟨name, v⟩ := m
  simp only [names, List.mem_cons, List.not_mem_nil, or_false] at hname hunder
  rcases hname with rfl | rfl | rfl | rfl | rfl
  · exact h.bucket.eq_write_of_mem hunder ▸ htext _
  · exact h.key.eq_write_of_mem hunder ▸ htext _
  · exact h.filename.eq_write_of_mem hunder ▸ htext _
  · rw [h.contentType, List.mem_singleton] at hunder
    exact hunder ▸ .text _
  · rw [h.expires.eq_write_of_mem hunder]
    cases hexpires : body.expires with
    | none => exact .null
    | some n =>
        exact Value.fits_ofNat (Nat.lt_of_le_of_lt (h.count n hexpires) (by decide))

/-- A body that is written as an object is read as what its members say. Only the values of
its own parts have to fit. -/
theorem readAll_eq_ok_iff {members : List (String × Value)} {bs : Input} {body : GrantBody}
    (hfits : ∀ m ∈ members, m.1 ∈ names → m.2.Fits (greatestDepth - 1))
    (hspells : (Value.object members).SpelledBy bs) :
    record.readAll bs = .ok body ↔ DescribedBy members body := by
  have hread : record.readAll bs =
      members.foldlM Draft.take {} >>= fun draft => lifted (record.finish draft) :=
    Record.readAll_members Draft.take hspells fun m hm draft colon one rest hcolon hone hends =>
      readMember_spells draft m.1 hcolon hone (hfits m hm) hends
  rw [hread, Text.bind_eq_ok]
  constructor
  · rintro ⟨draft, hrun, hfinish⟩
    exact describedBy_of_run hrun hfinish
  · intro h
    obtain ⟨draft, hrun⟩ := exists_run_of_describedBy h
    exact ⟨draft, hrun, finish_of_describedBy hrun h⟩

end GrantBody

end SignedAccess
