/-
# Values read back

However a value is spelled, it is read as the value that is kept: the members of its
objects in order, and of equal names the last. The loops over items and members are
followed by one lemma each; the number of rounds is bounded by the length of the input,
as every part takes at least one byte.
-/

import SignedAccess.Proofs.Json.Members
import SignedAccess.Proofs.Json.Scalars

namespace SignedAccess.Json

open Text Decimal

/-! ### What stands at the head of a value -/

theorem afterWord_append (cs : List Char) (rest : Input) :
    afterWord cs (cs.map byteOf ++ rest) = .ok rest := by
  induction cs with
  | nil => rfl
  | cons c more ih => rw [List.map_cons, List.cons_append, afterWord, if_pos rfl, ih]

/-- What is left of the input when it is known what a value looks like: brackets are left
in place. -/
def Value.left (v : Value) (one rest : Input) : Input :=
  match v with
  | .array _ | .object _ => one ++ rest
  | _ => rest

theorem readMet_append {blanks : Input} (h : IsBlanks blanks) (rest : Input) :
    readMet (blanks ++ rest) = readMet rest := by
  rw [readMet, readMet, skipSpaces_append h]

theorem isSpace_of_isDigit {b : UInt8} (hb : isDigit b = true) : isSpace b = false := by
  simp only [isDigit, Bool.and_eq_true, decide_eq_true_eq, UInt8.le_iff_toNat_le] at hb
  have hne : ∀ d : UInt8, d.toNat < 0x30 → (b == d) = false := by
    intro d hd
    rw [beq_eq_false_iff_ne]
    rintro rfl
    exact absurd hb.1 (Nat.not_le.2 hd)
  simp only [isSpace, hne 0x20 (by decide), hne 0x09 (by decide), hne 0x0a (by decide),
    hne 0x0d (by decide), Bool.or_self]

/-- A digit begins a number. -/
theorem readMet_digit {c : Char} (hc : c.isDigit = true) (rest : Input) :
    readMet (byteOf c :: rest) =
      (readNumber false (byteOf c :: rest)).map fun read => (.number read.1, read.2) := by
  have hdigit := isDigit_byteOf hc
  have hback := ofNat_toNat_byteOf (Nat.lt_of_le_of_lt (toNat_of_isDigit hc).2 (by decide))
  rw [readMet, skipSpaces_cons (isSpace_of_isDigit hdigit)]
  dsimp only
  rw [hback]
  split
  case h_8 =>
    rw [if_pos hdigit]
    cases readNumber false (byteOf c :: rest) <;> rfl
  all_goals exact absurd hc (by decide)

theorem readMet_minus (rest : Input) :
    readMet (byteOf '-' :: rest) =
      (readNumber true rest).map fun read => (.number read.1, read.2) := by
  have hback : Char.ofNat (byteOf '-').toNat = '-' := ofNat_toNat_byteOf (by decide)
  rw [readMet, skipSpaces_cons (by decide)]
  simp only [hback]
  cases readNumber true rest <;> rfl

theorem encode_decimal (n : Nat) : encode (decimal n) = (decimal n).map byteOf :=
  encode_of_ascii fun _ hc =>
    Nat.lt_of_le_of_lt (toNat_of_isDigit (isDigit_of_mem_decimal hc)).2 (by decide)

theorem readMet_whole {n : Int} (hlow : -(deepest : Int) ≤ n) (hhigh : n < significandLimit)
    {rest : Input} (hends : EndsNumber rest) :
    readMet (encode (wholeWritten n) ++ rest) = .ok (.number (.whole n), rest) := by
  have hsize : n.natAbs < significandLimit := by
    unfold deepest at hlow
    unfold significandLimit at hhigh ⊢
    omega
  unfold wholeWritten
  split
  · rename_i hneg
    have hwritten : encode ('-' :: decimal n.natAbs) =
        byteOf '-' :: encode (decimal n.natAbs) := rfl
    rw [hwritten, List.cons_append, readMet_minus, encode_decimal,
      readNumber_decimal hsize (wholeNumber_of_neg hneg hlow) hends]
    rfl
  · rename_i hnonneg
    have hread := readNumber_decimal hsize (wholeNumber_of_nonneg (Int.not_lt.1 hnonneg)) hends
    obtain ⟨first, more, hcons⟩ := List.exists_cons_of_ne_nil (decimal_ne_nil n.natAbs)
    have hfirst : first.isDigit = true :=
      isDigit_of_mem_decimal (hcons ▸ List.mem_cons_self)
    rw [hcons, List.map_cons, List.cons_append] at hread
    rw [encode_decimal, hcons, List.map_cons, List.cons_append, readMet_digit hfirst, hread]
    rfl

theorem readMet_text {s : String} {one : Input} (h : SpellsText s one) (rest : Input) :
    readMet (one ++ rest) = .ok (.text s, rest) := by
  obtain ⟨inner, hinner, rfl⟩ := h
  have hback : Char.ofNat (byteOf '"').toNat = '"' := ofNat_toNat_byteOf (by decide)
  rw [List.cons_append, List.append_assoc, readMet, skipSpaces_cons (by decide)]
  simp only [hback]
  rw [List.singleton_append, readText_spellsChars hinner]
  rfl

/-- What a value looks like is known from its head, however it is spelled. -/
theorem readMet_spells {v : Value} {depth : Nat} {one rest : Input} (hspells : v.Spells one)
    (hfits : v.Fits depth) (hends : EndsNumber rest) :
    readMet (one ++ rest) = .ok (v.met, v.left one rest) := by
  cases hfits with
  | null =>
      subst hspells
      have hword : encode Value.null.written ++ rest =
          byteOf 'n' :: (['u', 'l', 'l'].map byteOf ++ rest) := rfl
      have hback : Char.ofNat (byteOf 'n').toNat = 'n' := ofNat_toNat_byteOf (by decide)
      rw [hword, readMet, skipSpaces_cons (by decide)]
      simp only [hback, afterWord_append]
      rfl
  | boolean b =>
      subst hspells
      cases b with
      | true =>
          have hword : encode (Value.boolean true).written ++ rest =
              byteOf 't' :: (['r', 'u', 'e'].map byteOf ++ rest) := rfl
          have hback : Char.ofNat (byteOf 't').toNat = 't' := ofNat_toNat_byteOf (by decide)
          rw [hword, readMet, skipSpaces_cons (by decide)]
          simp only [hback, afterWord_append]
          rfl
      | false =>
          have hword : encode (Value.boolean false).written ++ rest =
              byteOf 'f' :: (['a', 'l', 's', 'e'].map byteOf ++ rest) := rfl
          have hback : Char.ofNat (byteOf 'f').toNat = 'f' := ofNat_toNat_byteOf (by decide)
          rw [hword, readMet, skipSpaces_cons (by decide)]
          simp only [hback, afterWord_append]
          rfl
  | number hlow hhigh =>
      subst hspells
      exact readMet_whole hlow hhigh hends
  | text s => exact readMet_text hspells rest
  | array hitems =>
      obtain ⟨inner, -, rfl⟩ := hspells
      have hback : Char.ofNat (byteOf '[').toNat = '[' := ofNat_toNat_byteOf (by decide)
      rw [List.cons_append, readMet, skipSpaces_cons (by decide)]
      simp only [hback]
      rfl
  | object hmembers =>
      obtain ⟨inner, -, rfl⟩ := hspells
      have hback : Char.ofNat (byteOf '\x7b').toNat = '\x7b' := ofNat_toNat_byteOf (by decide)
      rw [List.cons_append, readMet, skipSpaces_cons (by decide)]
      simp only [hback]
      rfl

/-- A number is written as one, perhaps with a minus sign before it. -/
theorem Number.isUnsigned_written (n : Number) :
    ∃ cs, IsUnsigned cs ∧ (n.written = cs ∨ n.written = '-' :: cs) := by
  cases n with
  | whole n =>
      refine ⟨_, (isWhole_decimal n.natAbs).isUnsigned, ?_⟩
      rw [written, wholeWritten]
      split
      · exact Or.inr rfl
      · exact Or.inl rfl
  | real x => exact x.isUnsigned_written

theorem Number.exists_cons_written (n : Number) :
    ∃ b more, encode n.written = b :: more ∧ (b = byteOf '-' ∨ isDigit b = true) := by
  obtain ⟨cs, hcs, hwritten | hwritten⟩ := n.isUnsigned_written
  · obtain ⟨first, more, rfl, hfirst⟩ := hcs.exists_cons
    refine ⟨byteOf first, more.map byteOf, ?_, Or.inr (isDigit_byteOf hfirst)⟩
    rw [hwritten, encode_of_ascii fun c hc => hcs.isAscii hc, List.map_cons]
  · exact ⟨_, _, congrArg encode hwritten, Or.inl rfl⟩

/-- A byte that a value can begin with: no blank and no closing bracket. -/
structure Begins (v : Value) (b : UInt8) : Prop where
  no_space : isSpace b = false
  no_close : b ≠ byteOf ']'
  null_of : b = byteOf 'n' → v = .null

/-- A value begins with a byte that tells it from what stands between values, and null
from other values. -/
theorem exists_cons_of_spells {v : Value} {one : Input} (hspells : v.Spells one) :
    ∃ b more, one = b :: more ∧ Begins v b := by
  have hother {b : UInt8} (hspace : isSpace b = false) (hclose : b ≠ byteOf ']')
      (hnull : b ≠ byteOf 'n') : Begins v b := ⟨hspace, hclose, fun h => absurd h hnull⟩
  cases v with
  | null => exact ⟨_, _, hspells, by decide, by decide, fun _ => rfl⟩
  | boolean b => cases b <;> exact ⟨_, _, hspells, hother (by decide) (by decide) (by decide)⟩
  | number n =>
      obtain ⟨b, more, hcons, rfl | hdigit⟩ := n.exists_cons_written
      · exact ⟨_, more, hspells.trans hcons, hother (by decide) (by decide) (by decide)⟩
      · refine ⟨b, more, hspells.trans hcons, hother (isSpace_of_isDigit hdigit) ?_ ?_⟩ <;>
          · rintro rfl
            exact absurd hdigit (by decide)
  | text s =>
      obtain ⟨inner, -, rfl⟩ := hspells
      exact ⟨_, _, rfl, hother (by decide) (by decide) (by decide)⟩
  | array items =>
      obtain ⟨inner, -, rfl⟩ := hspells
      exact ⟨_, _, rfl, hother (by decide) (by decide) (by decide)⟩
  | object members =>
      obtain ⟨inner, -, rfl⟩ := hspells
      exact ⟨_, _, rfl, hother (by decide) (by decide) (by decide)⟩

/-! ### What stands between parts -/

theorem skipSpaces_isMarked {mark : UInt8} {bs : Input} (h : IsMarked mark bs)
    (hmark : isSpace mark = false) (rest : Input) :
    ∃ after, IsBlanks after ∧ skipSpaces (bs ++ rest) = mark :: (after ++ rest) := by
  obtain ⟨before, after, hbefore, hafter, rfl⟩ := h
  refine ⟨after, hafter, ?_⟩
  rw [List.append_assoc, List.cons_append, skipSpaces_append_cons hbefore hmark]

theorem endsNumber_blanks {blanks : Input} (h : IsBlanks blanks) : EndsNumber blanks := by
  intro first hfirst
  have hspace : isSpace first = true := h first (List.mem_of_mem_head? hfirst)
  simp only [isSpace, Bool.or_eq_true, beq_iff_eq] at hspace
  rcases hspace with ((rfl | rfl) | rfl) | rfl <;> decide

/-- After blanks, a comma or a bracket no number goes on. -/
theorem endsNumber_append_cons {blanks : Input} (h : IsBlanks blanks) {b : UInt8}
    (hb : b = byteOf ',' ∨ b = byteOf ']' ∨ b = byteOf '\x7d') (rest : Input) :
    EndsNumber (blanks ++ b :: rest) := by
  intro first hfirst
  cases blanks with
  | nil =>
      cases hfirst
      rcases hb with rfl | rfl | rfl <;> decide
  | cons blank more =>
      cases hfirst
      exact endsNumber_blanks h first rfl

theorem endsNumber_of_leads {lead : Input} (h : Leads false lead) (rest : Input) :
    EndsNumber (lead ++ rest) := by
  obtain ⟨before, after, hbefore, -, rfl⟩ := h
  rw [List.append_assoc, List.cons_append]
  exact endsNumber_append_cons hbefore (Or.inl rfl) _

/-! ### Items -/

theorem endsNumber_of_itemsSpell {items : List Value} {bs : Input}
    (h : ItemsSpell false items bs) (rest : Input) : EndsNumber (bs ++ byteOf ']' :: rest) := by
  cases items with
  | nil => exact endsNumber_append_cons h (Or.inr (Or.inl rfl)) rest
  | cons v more =>
      obtain ⟨lead, one, others, hlead, -, -, rfl⟩ := h
      rw [List.append_assoc]
      exact endsNumber_of_leads hlead _

theorem nextItem_leads {isFirst : Bool} {lead : Input} (h : Leads isFirst lead) {b : UInt8}
    (hspace : isSpace b = false) (hclose : b ≠ byteOf ']') (rest : Input) :
    nextItem isFirst (lead ++ b :: rest) = .ok (some (b :: rest)) := by
  cases isFirst with
  | true =>
      rw [nextItem, skipSpaces_append_cons h hspace]
      exact if_neg hclose
  | false =>
      obtain ⟨after, hafter, hskip⟩ := skipSpaces_isMarked h (by decide) (b :: rest)
      have hcomma : ¬byteOf ',' = byteOf ']' := by decide
      rw [nextItem, hskip]
      simp only [if_neg hcomma, Bool.false_eq_true, if_false, if_true,
        skipSpaces_append_cons hafter hspace, if_neg hclose]

theorem nextItem_end {blanks : Input} (h : IsBlanks blanks) (isFirst : Bool) (rest : Input) :
    nextItem isFirst (blanks ++ byteOf ']' :: rest) = .ok none := by
  rw [nextItem, skipSpaces_append_cons h (by decide)]
  exact if_pos rfl

theorem endItems_append {blanks : Input} (h : IsBlanks blanks) (rest : Input) :
    endItems (blanks ++ byteOf ']' :: rest) = .ok rest := by
  rw [endItems, skipSpaces_append_cons h (by decide)]
  exact if_pos rfl

section Items

variable {items : List Value} {isFirst : Bool} {inner : Input}

theorem length_le_of_itemsSpell (hspells : ItemsSpell isFirst items inner) :
    items.length ≤ inner.length := by
  induction items generalizing isFirst inner with
  | nil => exact Nat.zero_le _
  | cons v more ih =>
      obtain ⟨lead, one, others, -, hone, hmore, rfl⟩ := hspells
      obtain ⟨b, tail, rfl, -⟩ := exists_cons_of_spells hone
      have hle := ih hmore
      simp only [List.length_cons, List.length_append]
      omega

/-- Items are folded one by one where each of them is. -/
theorem foldItems_spells {σ : Type} {item : σ → Input → Except Fault (σ × Input)}
    (step : σ → Value → σ) (hspells : ItemsSpell isFirst items inner)
    (hitem : ∀ v ∈ items, ∀ s one rest, v.Spells one → EndsNumber rest →
      item s (one ++ rest) = .ok (step s v, rest))
    {budget : Nat} (hbudget : items.length < budget) (state : σ) (rest : Input) :
    foldItems item budget isFirst state (inner ++ byteOf ']' :: rest) =
      .ok (items.foldl step state, rest) := by
  induction items generalizing isFirst inner budget state with
  | nil =>
      obtain ⟨fewer, rfl⟩ := Nat.exists_eq_succ_of_ne_zero (Nat.ne_zero_of_lt hbudget)
      rw [foldItems, nextItem_end hspells]
      simp only [bind, Except.bind, endItems_append hspells]
      rfl
  | cons v more ih =>
      obtain ⟨fewer, rfl⟩ := Nat.exists_eq_succ_of_ne_zero (Nat.ne_zero_of_lt hbudget)
      obtain ⟨lead, one, others, hlead, hone, hmore, rfl⟩ := hspells
      obtain ⟨b, tail, rfl, hbegins⟩ := exists_cons_of_spells hone
      have hread := hitem v List.mem_cons_self state (b :: tail) _ hone
        (endsNumber_of_itemsSpell hmore rest)
      rw [List.append_assoc, List.append_assoc, List.cons_append, foldItems,
        nextItem_leads hlead hbegins.no_space hbegins.no_close]
      simp only [bind, Except.bind]
      rw [← List.cons_append, hread]
      exact ih hmore (fun w hw => hitem w (List.mem_cons_of_mem _ hw))
        (Nat.lt_of_succ_lt_succ hbudget) _

end Items

/-! ### Members -/

theorem endsNumber_of_membersSpell {members : List (String × Value)} {bs : Input}
    (h : MembersSpell false members bs) (rest : Input) :
    EndsNumber (bs ++ byteOf '\x7d' :: rest) := by
  cases members with
  | nil => exact endsNumber_append_cons h (Or.inr (Or.inr rfl)) rest
  | cons m more =>
      obtain ⟨lead, named, colon, one, others, hlead, -, -, -, -, rfl⟩ := h
      rw [List.append_assoc]
      exact endsNumber_of_leads hlead _

theorem nextMember_leads {isFirst : Bool} {lead : Input} (h : Leads isFirst lead) (rest : Input) :
    nextMember isFirst (lead ++ byteOf '"' :: rest) = .ok (some rest) := by
  have hquote : ¬byteOf '"' = byteOf '\x7d' := by decide
  cases isFirst with
  | true =>
      rw [nextMember, skipSpaces_append_cons h (by decide)]
      simp only [if_neg hquote, if_true]
  | false =>
      obtain ⟨after, hafter, hskip⟩ := skipSpaces_isMarked h (by decide) (byteOf '"' :: rest)
      have hcomma : ¬byteOf ',' = byteOf '\x7d' := by decide
      rw [nextMember, hskip]
      simp only [if_neg hcomma, Bool.false_eq_true, if_false, if_true,
        skipSpaces_append_cons hafter (show isSpace (byteOf '"') = false by decide)]

theorem nextMember_end {blanks : Input} (h : IsBlanks blanks) (isFirst : Bool) (rest : Input) :
    nextMember isFirst (blanks ++ byteOf '\x7d' :: rest) = .ok none := by
  rw [nextMember, skipSpaces_append_cons h (by decide)]
  exact if_pos rfl

theorem endMembers_append {blanks : Input} (h : IsBlanks blanks) (rest : Input) :
    endMembers (blanks ++ byteOf '\x7d' :: rest) = .ok rest := by
  rw [endMembers, skipSpaces_append_cons h (by decide)]
  exact if_pos rfl

theorem afterColon_append {colon : Input} (h : IsMarked (byteOf ':') colon) (rest : Input) :
    ∃ blanks, IsBlanks blanks ∧ afterColon (colon ++ rest) = .ok (blanks ++ rest) := by
  obtain ⟨after, hafter, hskip⟩ := skipSpaces_isMarked h (by decide) rest
  refine ⟨after, hafter, ?_⟩
  rw [afterColon, hskip]
  exact if_pos rfl

section Members

variable {members : List (String × Value)} {isFirst : Bool} {inner : Input}

theorem length_le_of_membersSpell (hspells : MembersSpell isFirst members inner) :
    members.length ≤ inner.length := by
  induction members generalizing isFirst inner with
  | nil => exact Nat.zero_le _
  | cons m more ih =>
      obtain ⟨lead, named, colon, one, others, -, ⟨_, -, rfl⟩, -, -, hmore, rfl⟩ := hspells
      have hle := ih hmore
      simp only [List.length_cons, List.length_append]
      omega

/-- Members are folded one by one where each of them is, up to the first fault. -/
theorem foldMembers_spells {σ : Type} {member : σ → String → Input → Except Fault (σ × Input)}
    (step : σ → String × Value → Except Fault σ) (hspells : MembersSpell isFirst members inner)
    (hmember : ∀ m ∈ members, ∀ s colon one rest, IsMarked (byteOf ':') colon →
      m.2.Spells one → EndsNumber rest →
      member s m.1 (colon ++ (one ++ rest)) = (step s m).map (·, rest))
    {budget : Nat} (hbudget : members.length < budget) (state : σ) (rest : Input) :
    foldMembers member budget isFirst state (inner ++ byteOf '\x7d' :: rest) =
      (members.foldlM step state).map (·, rest) := by
  induction members generalizing isFirst inner budget state with
  | nil =>
      obtain ⟨fewer, rfl⟩ := Nat.exists_eq_succ_of_ne_zero (Nat.ne_zero_of_lt hbudget)
      rw [foldMembers, nextMember_end hspells]
      simp only [bind, Except.bind, endMembers_append hspells]
      rfl
  | cons m more ih =>
      obtain ⟨fewer, rfl⟩ := Nat.exists_eq_succ_of_ne_zero (Nat.ne_zero_of_lt hbudget)
      obtain ⟨lead, named, colon, one, others, hlead, ⟨chars, hchars, rfl⟩, hcolon, hone, hmore,
        rfl⟩ := hspells
      have hread := hmember m List.mem_cons_self state colon one _ hcolon hone
        (endsNumber_of_membersSpell hmore rest)
      have hinput : lead ++ (byteOf '"' :: (chars ++ [byteOf '"']) ++ (colon ++ (one ++ others))) ++
          byteOf '\x7d' :: rest = lead ++ byteOf '"' :: (chars ++ byteOf '"' ::
            (colon ++ (one ++ (others ++ byteOf '\x7d' :: rest)))) := by
        simp only [List.append_assoc, List.cons_append, List.nil_append]
      rw [hinput, foldMembers, nextMember_leads hlead, List.foldlM_cons]
      simp only [bind, Except.bind, readText_spellsChars hchars, hread]
      cases step state m with
      | error fault => rfl
      | ok after =>
          exact ih hmore (fun w hw => hmember w (List.mem_cons_of_mem _ hw))
            (Nat.lt_of_succ_lt_succ hbudget) after

end Members

/-! ### Values -/

/-- The value that is known in full once it is known what it looks like. -/
def Met.scalar? : Met → Option Value
  | .null => some .null
  | .boolean b => some (.boolean b)
  | .number n => some (.number n)
  | .text s => some (.text s)
  | .sequence | .map => none

theorem readValue_of_scalar? {depth : Nat} {bs rest : Input} {met : Met} {v : Value}
    (hmet : readMet bs = .ok (met, rest)) (hscalar : met.scalar? = some v) :
    readValue depth bs = .ok (v, rest) := by
  cases depth <;> rw [readValue, readWith, hmet] <;> cases met <;> cases hscalar <;> rfl

section ReadWith

variable {read : Input → Except Fault (Value × Input)} {inner : Input}

/-- Items are read where each of them is. -/
theorem readWith_items {items : List Value} (hspells : ItemsSpell true items inner)
    (hread : ∀ v ∈ items, ∀ one rest, v.Spells one → EndsNumber rest →
      read (one ++ rest) = .ok (v.normal, rest)) (rest : Input) :
    readWith (some read) (byteOf '[' :: (inner ++ byteOf ']' :: rest)) =
      .ok ((Value.array items).normal, rest) := by
  have hmet : readMet (byteOf '[' :: (inner ++ byteOf ']' :: rest)) =
      .ok (.sequence, byteOf '[' :: (inner ++ byteOf ']' :: rest)) := rfl
  have hlength := length_le_of_itemsSpell hspells
  rw [readWith, hmet]
  simp only [bind, Except.bind, List.drop_one, List.tail_cons]
  rw [foldItems_spells (fun items v => v.normal :: items) hspells]
  · simp only [List.foldl_flip_cons_eq_append, List.append_nil, List.reverse_reverse,
      Value.normal, itemsNormal_eq_map]
  · intro v hv s one rest hone hends
    rw [hread v hv one rest hone hends]
  · simp only [List.length_cons, List.length_append]
    omega

/-- Members are read where the value of each of them is. -/
theorem readWith_members {members : List (String × Value)}
    (hspells : MembersSpell true members inner)
    (hread : ∀ m ∈ members, ∀ one rest, m.2.Spells one → EndsNumber rest →
      read (one ++ rest) = .ok (m.2.normal, rest))
    (hblanks : ∀ blanks rest, IsBlanks blanks → read (blanks ++ rest) = read rest) (rest : Input) :
    readWith (some read) (byteOf '\x7b' :: (inner ++ byteOf '\x7d' :: rest)) =
      .ok ((Value.object members).normal, rest) := by
  have hmet : readMet (byteOf '\x7b' :: (inner ++ byteOf '\x7d' :: rest)) =
      .ok (.map, byteOf '\x7b' :: (inner ++ byteOf '\x7d' :: rest)) := rfl
  have hlength := length_le_of_membersSpell hspells
  rw [readWith, hmet]
  simp only [bind, Except.bind, List.drop_one, List.tail_cons]
  rw [foldMembers_spells (fun members m => .ok (put m.1 m.2.normal members)) hspells]
  · have hall : members.foldlM (m := Except Fault)
        (fun members m => .ok (put m.1 m.2.normal members)) [] =
          .ok (ordered (membersNormal members)) := by
      rw [membersNormal_eq_map, ordered, List.foldl_map]
      exact List.foldlM_pure
    rw [hall]
    rfl
  · intro m hm s colon one rest hcolon hone hends
    obtain ⟨blanks, hafter, hskip⟩ := afterColon_append hcolon (one ++ rest)
    rw [hskip]
    simp only [hblanks blanks _ hafter, hread m hm one rest hone hends]
    rfl
  · simp only [List.length_cons, List.length_append]
    omega

end ReadWith

theorem readValue_append {blanks : Input} (h : IsBlanks blanks) (depth : Nat) (rest : Input) :
    readValue depth (blanks ++ rest) = readValue depth rest := by
  cases depth <;> rw [readValue, readWith, readWith, readMet_append h]

/-- However a value is spelled, it is read as it is kept. -/
theorem readValue_spells {v : Value} {depth : Nat} {one rest : Input} (hspells : v.Spells one)
    (hfits : v.Fits depth) (hends : EndsNumber rest) :
    readValue depth (one ++ rest) = .ok (v.normal, rest) := by
  induction hfits generalizing one rest with
  | null => exact readValue_of_scalar? (readMet_spells hspells (@Value.Fits.null 0) hends) rfl
  | boolean b =>
      exact readValue_of_scalar? (readMet_spells hspells (@Value.Fits.boolean 0 b) hends) rfl
  | number hlow hhigh =>
      subst hspells
      exact readValue_of_scalar? (readMet_whole hlow hhigh hends) rfl
  | text s => exact readValue_of_scalar? (readMet_text hspells rest) rfl
  | array hitems ih =>
      obtain ⟨inner, hinner, rfl⟩ := hspells
      rw [readValue, List.cons_append, List.append_assoc, List.singleton_append]
      exact readWith_items hinner (fun v hv one rest => ih v hv) rest
  | object hmembers ih =>
      obtain ⟨inner, hinner, rfl⟩ := hspells
      rw [readValue, List.cons_append, List.append_assoc, List.singleton_append]
      exact readWith_members hinner (fun m hm one rest => ih m hm)
        (fun blanks rest h => readValue_append h _ rest) rest

/-! ### What is kept -/

namespace Value

variable {v : Value} {depth : Nat}

theorem Fits.normal (h : v.Fits depth) : v.normal.Fits depth := by
  induction h with
  | null => exact .null
  | boolean b => exact .boolean b
  | number hlow hhigh => exact .number hlow hhigh
  | text s => exact .text s
  | array _ ih =>
      rw [Value.normal, itemsNormal_eq_map]
      refine .array fun w hw => ?_
      obtain ⟨v, hv, rfl⟩ := List.mem_map.1 hw
      exact ih v hv
  | object _ ih =>
      rw [Value.normal, membersNormal_eq_map]
      refine .object fun n hn => ?_
      obtain ⟨m, hm, rfl⟩ := List.mem_map.1 (mem_of_mem_ordered hn)
      exact ih m hm

/-- A value that is kept stays as it is when it is read once more. -/
theorem Fits.normal_normal (h : v.Fits depth) : v.normal.normal = v.normal := by
  induction h with
  | null | boolean | number | text => rfl
  | array _ ih =>
      rw [Value.normal, Value.normal, itemsNormal_eq_map, itemsNormal_eq_map, List.map_map]
      exact congrArg Value.array (List.map_congr_left ih)
  | @object _ members _ ih =>
      rw [Value.normal, Value.normal, membersNormal_eq_map, membersNormal_eq_map]
      generalize hkept : members.map (fun m => (m.1, m.2.normal)) = kept
      have hsame : (ordered kept).map (fun m => (m.1, m.2.normal)) = ordered kept := by
        subst hkept
        refine (List.map_congr_left fun n hn => ?_).trans (List.map_id _)
        obtain ⟨m, hm, rfl⟩ := List.mem_map.1 (mem_of_mem_ordered hn)
        exact congrArg (Prod.mk m.1) (ih m hm)
      rw [hsame, ordered_of_rising (rising_ordered kept)]

end Value

end SignedAccess.Json
