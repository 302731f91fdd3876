/-
# Names that are settled

What reading a name gives is written in ASCII without capital letters: the
tables of what stands for a character and of what is composed hold none, and the
form of a label is written in small letters, digits and hyphens. Such a text is
read again as it is, since folding and composing change nothing in it and its
labels need no form. Whether it is a name at all is not said here.
-/

import SignedAccess.Domain.Ascii
import SignedAccess.Proofs.Domain.Form
import SignedAccess.Proofs.Text.Cuts
import SignedAccess.Proofs.Text.Escapes

namespace SignedAccess.Domain

open Text

/-! ### Small letters -/

/-- The character is no capital letter. -/
def IsSmall (c : Char) : Prop := c.toNat < 0x41 ∨ 0x5A < c.toNat

theorem toLower_of_isSmall {c : Char} (hc : IsSmall c) : c.toLower = c := by
  unfold Char.toLower
  apply dif_neg
  intro hcapital
  have hlow : 0x41 ≤ c.toNat := UInt32.le_iff_toNat_le.1 hcapital.1
  have hhigh : c.toNat ≤ 0x5A := UInt32.le_iff_toNat_le.1 hcapital.2
  rcases hc with hc | hc <;> omega

theorem isSmall_toLower (c : Char) : IsSmall c.toLower := by
  by_cases hc : 0x41 ≤ c.toNat ∧ c.toNat ≤ 0x5A
  · have hall : ∀ n < 0x80, IsSmall (Char.ofNat n).toLower := by
      unfold IsSmall
      decide
    exact forall_ascii (p := fun d => IsSmall d.toLower) hall (by omega)
  · have hsmall : IsSmall c := by
      unfold IsSmall
      omega
    rwa [toLower_of_isSmall hsmall]

theorem isSmall_of_outside {c : Char} (hc : 0x80 ≤ c.toNat) : IsSmall c := by
  unfold IsSmall
  omega

/-- A number above the capital letters is that of no capital letter, also where
it is the number of no character. -/
theorem isSmall_charOfNat {n : Nat} (hn : n < 0x41 ∨ 0x5A < n) : IsSmall (Char.ofNat n) := by
  by_cases hvalid : n.isValidChar
  · unfold IsSmall
    rwa [toNat_charOfNat hvalid]
  · unfold Char.ofNat
    rw [dif_neg hvalid]
    exact Or.inl (by decide)

/-- No character is folded to a capital letter. -/
theorem isSmall_of_fold? {c d : Char} {folded : List Char} (hfold : fold? c = some folded)
    (hd : d ∈ folded) : IsSmall d := by
  unfold fold? at hfold
  split at hfold
  · cases hfold
    rw [List.mem_singleton.1 hd]
    exact isSmall_toLower c
  · rename_i hascii
    have houtside : 0x80 ≤ c.toNat := by simpa [isAscii] using hascii
    split at hfold
    · simp at hfold
    · split at hfold
      · cases hfold
        simp at hd
      · cases hfold
        unfold respelling? at hd
        cases hfind : respellings.find? (·.covers c.toNat) with
        | none =>
            rw [hfind] at hd
            rw [List.mem_singleton.1 hd]
            exact isSmall_of_outside houtside
        | some entry =>
            rw [hfind] at hd
            obtain ⟨t, _, rfl⟩ := List.mem_map.1 hd
            exact isSmall_toLower _

/-- A small ASCII character stands for itself. -/
theorem fold?_of_isSmall {c : Char} (hascii : c.toNat < 0x80) (hsmall : IsSmall c) :
    fold? c = some [c] := by
  unfold fold?
  rw [if_pos (by simpa [isAscii] using hascii), toLower_of_isSmall hsmall]

/-! ### Composition of small letters -/

/-- No character of the table of compositions is a capital letter. -/
theorem isSmall_of_mem_compositions {e : Nat × Nat × Nat} (he : e ∈ compositions) :
    IsSmall (Char.ofNat e.1) ∧ IsSmall (Char.ofNat e.2.1) ∧ IsSmall (Char.ofNat e.2.2) := by
  have hall : ∀ e ∈ compositions, (e.1 < 0x41 ∨ 0x5A < e.1) ∧
      (e.2.1 < 0x41 ∨ 0x5A < e.2.1) ∧ (e.2.2 < 0x41 ∨ 0x5A < e.2.2) := by decide +kernel
  obtain ⟨hwhole, hfirst, hsecond⟩ := hall e he
  exact ⟨isSmall_charOfNat hwhole, isSmall_charOfNat hfirst, isSmall_charOfNat hsecond⟩

/-- Characters of a script that begins above the capital letters are small. -/
theorem isSmall_charOfNat_add {first : Nat} (hfirst : 0x5A < first) (n : Nat) :
    IsSmall (Char.ofNat (first + n)) :=
  isSmall_charOfNat (Or.inr (Nat.lt_of_lt_of_le hfirst (Nat.le_add_right _ _)))

theorem isSmall_of_letters? {c d : Char} {letters : List Char}
    (hletters : letters? c = some letters) (hd : d ∈ letters) : IsSmall d := by
  have hlead : 0x5A < firstLead := by decide
  have hvowel : 0x5A < firstVowel := by decide
  have htrail : 0x5A < beforeTrail := by decide
  unfold letters? at hletters
  split at hletters
  · simp only at hletters
    split at hletters
    · rw [← Option.some.inj hletters] at hd
      simp only [List.mem_cons, List.not_mem_nil, or_false] at hd
      rcases hd with hd | hd <;> rw [hd]
      · exact isSmall_charOfNat_add hlead _
      · exact isSmall_charOfNat_add hvowel _
    · rw [← Option.some.inj hletters] at hd
      simp only [List.mem_cons, List.not_mem_nil, or_false] at hd
      rcases hd with hd | hd | hd <;> rw [hd]
      · exact isSmall_charOfNat_add hlead _
      · exact isSmall_charOfNat_add hvowel _
      · exact isSmall_charOfNat_add htrail _
  · cases hletters

theorem isSmall_of_parts? {c a b : Char} (hparts : parts? c = some (a, b)) :
    IsSmall a ∧ IsSmall b := by
  unfold parts? at hparts
  split at hparts
  · cases hparts
  · obtain ⟨e, he, heq⟩ := Option.map_eq_some_iff.1 hparts
    cases heq
    exact (isSmall_of_mem_compositions (List.mem_of_find?_eq_some he)).2

theorem isSmall_of_syllable? {a b c : Char} (hsyllable : syllable? a b = some c) : IsSmall c := by
  have hfirst : 0x5A < firstSyllable := by decide
  unfold syllable? at hsyllable
  simp only at hsyllable
  split at hsyllable
  · rw [← Option.some.inj hsyllable]
    exact isSmall_charOfNat_add hfirst _
  · split at hsyllable
    · rename_i hlater
      rw [← Option.some.inj hsyllable]
      exact isSmall_charOfNat_add (Nat.lt_of_lt_of_le hfirst hlater.1) _
    · cases hsyllable

theorem isSmall_of_join? {a b c : Char} (hjoin : join? a b = some c) : IsSmall c := by
  unfold join? at hjoin
  split at hjoin
  · cases hjoin
  · rcases Option.or_eq_some_iff.1 hjoin with hsyllable | ⟨_, htable⟩
    · exact isSmall_of_syllable? hsyllable
    · obtain ⟨e, he, heq⟩ := Option.map_eq_some_iff.1 htable
      cases heq
      exact (isSmall_of_mem_compositions (List.mem_of_find?_eq_some he)).1

/-- Taking a small character apart gives small ones. -/
theorem isSmall_of_mem_takeApart {steps : Nat} {c d : Char} (hc : IsSmall c)
    (hd : d ∈ takeApart steps c) : IsSmall d := by
  induction steps generalizing c with
  | zero => rwa [List.mem_singleton.1 hd]
  | succ steps ih =>
      rw [takeApart] at hd
      split at hd
      · rename_i letters _ hletters
        exact isSmall_of_letters? hletters hd
      · rename_i a b _ hparts
        obtain ⟨ha, hb⟩ := isSmall_of_parts? hparts
        rcases List.mem_append.1 hd with hd | hd
        · exact ih ha hd
        · exact ih hb hd
      · rwa [List.mem_singleton.1 hd]

theorem mem_place {c d : Char} {done : List Char} (hd : d ∈ place c done) :
    d = c ∨ d ∈ done := by
  induction done with
  | nil => exact Or.inl (List.mem_singleton.1 hd)
  | cons e rest ih =>
      unfold place at hd
      split at hd
      · rcases List.mem_cons.1 hd with rfl | hd
        · exact Or.inr List.mem_cons_self
        · exact (ih hd).imp_right (List.mem_cons_of_mem e)
      · exact List.mem_cons.1 hd

theorem mem_foldl_place {cs done : List Char} {d : Char}
    (hd : d ∈ cs.foldl (fun done c => place c done) done) : d ∈ cs ∨ d ∈ done := by
  induction cs generalizing done with
  | nil => exact Or.inr hd
  | cons c rest ih =>
      rcases ih hd with hrest | hplaced
      · exact Or.inl (List.mem_cons_of_mem c hrest)
      · rcases mem_place hplaced with rfl | hdone
        · exact Or.inl List.mem_cons_self
        · exact Or.inr hdone

theorem isSmall_of_mem_takeAllApart {cs : List Char} (hcs : ∀ c ∈ cs, IsSmall c) {d : Char}
    (hd : d ∈ takeAllApart cs) : IsSmall d := by
  unfold takeAllApart at hd
  rcases mem_foldl_place (List.mem_reverse.1 hd) with hparts | hnil
  · obtain ⟨c, hc, hin⟩ := List.mem_flatMap.1 hparts
    exact isSmall_of_mem_takeApart (hcs c hc) hin
  · exact absurd hnil List.not_mem_nil

theorem isSmall_of_mem_next {j : Joined} {c : Char} (hj : ∀ d ∈ j.all, IsSmall d)
    (hc : IsSmall c) {d : Char} (hd : d ∈ (j.next c).all) : IsSmall d := by
  unfold Joined.next at hd
  simp only at hd
  split at hd
  · rename_i joined hjoin
    have hsmall : IsSmall joined := by
      split at hjoin
      · obtain ⟨opening, _, hopening⟩ := Option.bind_eq_some_iff.1 hjoin
        exact isSmall_of_join? hopening
      · cases hjoin
    simp only [Joined.all, List.mem_append, Option.toList_some, List.mem_singleton] at hd hj
    rcases hd with (hmarks | rfl) | hdone
    · exact hj d (Or.inl (Or.inl hmarks))
    · exact hsmall
    · exact hj d (Or.inr hdone)
  · split at hd
    · simp only [Joined.all, List.nil_append, Option.toList_some, List.singleton_append,
        List.mem_cons] at hd
      rcases hd with rfl | hd
      · exact hc
      · exact hj d hd
    · simp only [Joined.all, List.cons_append, List.mem_cons] at hd
      rcases hd with rfl | hd
      · exact hc
      · exact hj d hd

/-- Composing small characters gives small ones. -/
theorem isSmall_of_mem_compose {cs : List Char} (hcs : ∀ c ∈ cs, IsSmall c) {d : Char}
    (hd : d ∈ compose cs) : IsSmall d := by
  have hfold : ∀ (ds : List Char) (j : Joined), (∀ c ∈ ds, IsSmall c) →
      (∀ c ∈ j.all, IsSmall c) → ∀ c ∈ (ds.foldl Joined.next j).all, IsSmall c := by
    intro ds
    induction ds with
    | nil => exact fun j _ hj => hj
    | cons e rest ih =>
        intro j hds hj
        have he := hds e List.mem_cons_self
        exact ih (j.next e) (fun c hc => hds c (List.mem_cons_of_mem e hc))
          fun c hc => isSmall_of_mem_next hj he hc
  have hnone : ∀ c ∈ (⟨[], none, []⟩ : Joined).all, IsSmall c :=
    fun c hc => absurd hc List.not_mem_nil
  exact hfold (takeAllApart cs) _ (fun c hc => isSmall_of_mem_takeAllApart hcs hc) hnone d
    (List.mem_reverse.1 hd)

/-! ### Composition of ASCII -/

theorem classOf_of_ascii {c : Char} (hc : c.toNat < 0x80) : classOf c = 0 := by
  have hfirst : classTable = (0x0, 0) :: (0x300, 230) :: classTable.drop 2 := rfl
  unfold classOf
  rw [hfirst, entryAt?, if_pos (Nat.zero_le _), entryAt?, if_neg (by omega)]
  rfl

theorem takeApart_of_ascii {c : Char} (hc : c.toNat < 0x80) (steps : Nat) :
    takeApart steps c = [c] := by
  cases steps with
  | zero => rfl
  | succ steps =>
      have hletters : letters? c = none := by
        have hfirst : 0x80 ≤ firstSyllable := by decide
        unfold letters?
        exact if_neg (by omega)
      have hparts : parts? c = none := by
        have hfirst : 0x80 ≤ firstComposed := by decide
        unfold parts?
        exact if_pos (by omega)
      rw [takeApart, hletters, hparts]

theorem place_of_ascii {c : Char} (hc : c.toNat < 0x80) (done : List Char) :
    place c done = c :: done := by
  cases done with
  | nil => rfl
  | cons d rest =>
      rw [place, if_neg]
      rintro ⟨hne, _⟩
      exact hne (classOf_of_ascii hc)

theorem takeAllApart_of_ascii {cs : List Char} (hcs : ∀ c ∈ cs, c.toNat < 0x80) :
    takeAllApart cs = cs := by
  have hapart : ∀ ds : List Char, (∀ c ∈ ds, c.toNat < 0x80) →
      ds.flatMap (takeApart deepest) = ds := by
    intro ds hds
    induction ds with
    | nil => rfl
    | cons d rest ih =>
        rw [List.flatMap_cons, takeApart_of_ascii (hds d List.mem_cons_self),
          ih fun c hc => hds c (List.mem_cons_of_mem d hc), List.singleton_append]
  have hplace : ∀ (ds done : List Char), (∀ c ∈ ds, c.toNat < 0x80) →
      ds.foldl (fun done c => place c done) done = ds.reverse ++ done := by
    intro ds
    induction ds with
    | nil => exact fun done _ => rfl
    | cons d rest ih =>
        intro done hds
        rw [List.foldl_cons, place_of_ascii (hds d List.mem_cons_self),
          ih _ fun c hc => hds c (List.mem_cons_of_mem d hc)]
        simp
  unfold takeAllApart
  rw [hapart cs hcs, hplace cs [] hcs, List.append_nil, List.reverse_reverse]

theorem all_next_of_ascii {c : Char} (hc : c.toNat < 0x80) (j : Joined) :
    (j.next c).all = c :: j.all := by
  have hjoin : ∀ a, join? a c = none := by
    have hfirst : 0x80 ≤ firstJoined := by decide
    intro a
    unfold join?
    exact if_pos (by omega)
  have hnone : j.opening.bind (join? · c) = none := by
    cases j.opening with
    | none => rfl
    | some a => exact hjoin a
  unfold Joined.next
  rw [hnone]
  simp only [ite_self]
  rw [if_pos (classOf_of_ascii hc)]
  rfl

/-- Nothing in ASCII is composed. -/
theorem compose_of_ascii {cs : List Char} (hcs : ∀ c ∈ cs, c.toNat < 0x80) :
    compose cs = cs := by
  have hfold : ∀ (ds : List Char) (j : Joined), (∀ c ∈ ds, c.toNat < 0x80) →
      (ds.foldl Joined.next j).all = ds.reverse ++ j.all := by
    intro ds
    induction ds with
    | nil => exact fun j _ => rfl
    | cons d rest ih =>
        intro j hds
        rw [List.foldl_cons, ih _ fun c hc => hds c (List.mem_cons_of_mem d hc),
          all_next_of_ascii (hds d List.mem_cons_self)]
        simp
  unfold compose
  rw [takeAllApart_of_ascii hcs, hfold cs _ hcs]
  simp [Joined.all]

/-! ### Labels -/

/-- A character of a name in ASCII. -/
def IsSettled (c : Char) : Prop := c.toNat < 0x80 ∧ IsSmall c

theorem isSettled_of_digit? {c : Char} (hc : (Label.digit? c).isSome = true) : IsSettled c := by
  have hbounds : (0x61 ≤ c.toNat ∧ c.toNat ≤ 0x7A) ∨ (0x30 ≤ c.toNat ∧ c.toNat ≤ 0x39) := by
    unfold Label.digit? at hc
    split at hc
    · rename_i hletter
      exact Or.inl hletter
    · split at hc
      · rename_i hdigit
        exact Or.inr hdigit
      · cases hc
  unfold IsSettled IsSmall
  omega

/-- The form of a label is written in small letters, digits and hyphens, and the
ASCII characters of the label. -/
theorem isSettled_of_mem_encode {label : List Char} (hlabel : ∀ c ∈ label, IsSmall c) {c : Char}
    (hc : c ∈ Label.encode label) : IsSettled c := by
  rw [Label.encode_eq] at hc
  rcases List.mem_append.1 hc with hfront | hdigits
  · rcases List.mem_append.1 hfront with hplain | hhyphen
    · obtain ⟨hin, hascii⟩ := List.mem_filter.1 hplain
      exact ⟨by simpa using hascii, hlabel c hin⟩
    · split at hhyphen
      · cases hhyphen
      · rw [List.mem_singleton.1 hhyphen]
        exact ⟨by decide, Or.inl (by decide)⟩
  · exact isSettled_of_digit? (Label.areDigits_digitsOf label _ hdigits)

theorem isSettled_of_mem_formMark {c : Char} (hc : c ∈ formMark) : IsSettled c := by
  have hall : ∀ d ∈ formMark, IsSettled d := by
    unfold IsSettled IsSmall
    exact forall_mem_of_all (by decide)
  exact hall c hc

/-- What a label of small characters is in ASCII is settled. -/
theorem isSettled_of_mem_inAscii? {label form : List Char} (hlabel : ∀ c ∈ label, IsSmall c)
    (hform : inAscii? label = some form) {c : Char} (hc : c ∈ form) : IsSettled c := by
  unfold inAscii? at hform
  split at hform
  · rename_i hascii
    cases hform
    have hlow : c.toNat < 0x80 := by simpa [isAscii] using List.all_eq_true.1 hascii c hc
    exact ⟨hlow, hlabel c hc⟩
  · split at hform
    · cases hform
    · cases hform
      rcases List.mem_append.1 hc with hmark | hencoded
      · exact isSettled_of_mem_formMark hmark
      · exact isSettled_of_mem_encode hlabel hencoded

/-- A label in ASCII is what it is in ASCII. -/
theorem inAscii?_of_ascii {label : List Char} (hlabel : ∀ c ∈ label, c.toNat < 0x80) :
    inAscii? label = some label := by
  have hascii : label.all isAscii = true := by
    apply List.all_eq_true.2
    intro c hc
    simpa [isAscii] using hlabel c hc
  exact if_pos hascii

/-! ### Names -/

theorem toAscii?_eq_some {name text : List Char} (hname : toAscii? name = some text) :
    ∃ folded forms, name.mapM fold? = some folded ∧
      (fields (· == '.') (compose folded.flatten)).mapM inAscii? = some forms ∧
      text = ['.'].intercalate forms := by
  unfold toAscii? at hname
  obtain ⟨folded, hfolded, hlabels⟩ := Option.bind_eq_some_iff.1 hname
  obtain ⟨full, _, hproper⟩ := Option.bind_eq_some_iff.1 hlabels
  split at hproper
  · obtain ⟨forms, hforms, htext⟩ := Option.bind_eq_some_iff.1 hproper
    exact ⟨folded, forms, hfolded, hforms, (Option.some.inj htext).symm⟩
  · cases hproper

/-- A name in ASCII is settled. -/
theorem isSettled_of_mem_toAscii? {name text : List Char} (hname : toAscii? name = some text)
    {c : Char} (hc : c ∈ text) : IsSettled c := by
  obtain ⟨folded, forms, hfolded, hforms, rfl⟩ := toAscii?_eq_some hname
  have hsmall : ∀ d ∈ folded.flatten, IsSmall d := by
    intro d hd
    obtain ⟨piece, hpiece, hin⟩ := List.mem_flatten.1 hd
    obtain ⟨e, _, he⟩ := exists_of_mem_mapM hfolded hpiece
    exact isSmall_of_fold? he hin
  rcases mem_intercalate hc with rfl | ⟨form, hform, hin⟩
  · exact ⟨by decide, Or.inl (by decide)⟩
  · obtain ⟨label, hlabel, hascii⟩ := exists_of_mem_mapM hforms hform
    refine isSettled_of_mem_inAscii? (fun d hd => ?_) hascii hin
    have hjoined : d ∈ compose folded.flatten := by
      rw [← intercalate_fields '.' (compose folded.flatten)]
      exact mem_intercalate_of_mem hlabel hd
    exact isSmall_of_mem_compose hsmall hjoined

/-- A settled text is read as it is, if it is read as a name. -/
theorem toAscii?_of_isSettled {text again : List Char} (htext : ∀ c ∈ text, IsSettled c)
    (hagain : toAscii? text = some again) : again = text := by
  obtain ⟨folded, forms, hfolded, hforms, rfl⟩ := toAscii?_eq_some hagain
  have hself : folded.flatten = text := by
    have hmap := mapM_eq_some_map fun c hc => fold?_of_isSmall (htext c hc).1 (htext c hc).2
    rw [hmap] at hfolded
    rw [← Option.some.inj hfolded, ← List.flatMap_def]
    exact List.flatMap_singleton' text
  have hkept : (fields (· == '.') text).mapM inAscii? = some (fields (· == '.') text) := by
    have hlabels : ∀ label ∈ fields (· == '.') text, inAscii? label = some label := by
      intro label hlabel
      apply inAscii?_of_ascii
      intro c hc
      have hin : c ∈ text := by
        rw [← intercalate_fields '.' text]
        exact mem_intercalate_of_mem hlabel hc
      exact (htext c hin).1
    have hmap := mapM_eq_some_map hlabels
    rwa [List.map_id'] at hmap
  rw [hself, compose_of_ascii fun c hc => (htext c hc).1, hkept] at hforms
  rw [← Option.some.inj hforms, intercalate_fields]

end SignedAccess.Domain
