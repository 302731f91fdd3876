/-
# Words and single spaces

Collapsing a text keeps its words and nothing of what stands between them, so two
texts collapse to the same one exactly when they have the same words. A text that
begins and ends with a word and never has two spaces side by side is its own
collapse exactly when all its blanks are spaces: every other blank is replaced.
-/

import Mathlib.Data.List.DropRight
import SignedAccess.Proofs.Text.Cuts

namespace SignedAccess.Text

/-- All blanks of a text are spaces. -/
def IsPlainlySpaced (cs : List Char) : Prop := ∀ c ∈ cs, isBlank c = true → c = ' '

/-- No two marked characters stand side by side. -/
def KeepsApart (isMark : Char → Bool) (cs : List Char) : Prop :=
  cs.IsChain fun a b => isMark a = false ∨ isMark b = false

/-! ### The ends of a text -/

theorem head?_of_dropWhile_eq_self {isMark : Char → Bool} {cs : List Char}
    (hsame : cs.dropWhile isMark = cs) : ∀ c ∈ cs.head?, isMark c = false := by
  intro c hc
  have hfirst := List.head?_dropWhile_not isMark cs
  rw [hsame, Option.mem_def.1 hc] at hfirst
  exact hfirst

/-- A text that loses nothing at its ends has no marked character there. -/
theorem ends_of_dropEnds_eq_self {isMark : Char → Bool} {cs : List Char}
    (hsame : dropEnds isMark cs = cs) :
    (∀ c ∈ cs.head?, isMark c = false) ∧ (∀ c ∈ cs.getLast?, isMark c = false) := by
  have hfront : cs.dropWhile isMark = cs := by
    have hback : dropEnd isMark (cs.dropWhile isMark) <+: cs.dropWhile isMark :=
      List.rdropWhile_prefix isMark _
    have hlength : cs.length ≤ (cs.dropWhile isMark).length := by
      conv_lhs => rw [← hsame]
      exact hback.length_le
    exact (List.dropWhile_suffix isMark).eq_of_length_le hlength
  refine ⟨head?_of_dropWhile_eq_self hfront, ?_⟩
  have hback : cs.reverse.dropWhile isMark = cs.reverse := by
    rw [dropEnds, hfront, dropEnd] at hsame
    exact List.reverse_eq_iff.1 hsame
  intro c hc
  rw [List.getLast?_eq_head?_reverse] at hc
  exact head?_of_dropWhile_eq_self hback c hc

/-! ### Pieces that are words -/

theorem fields_congr {isMark isOther : Char → Bool} {cs : List Char}
    (hsame : ∀ c ∈ cs, isMark c = isOther c) : fields isMark cs = fields isOther cs := by
  induction cs with
  | nil => rfl
  | cons c rest ih =>
      have hrest := ih fun d hd => hsame d (List.mem_cons_of_mem c hd)
      rw [fields, fields, hsame c List.mem_cons_self, hrest]

/-- A character that is no mark belongs to the first piece. -/
theorem fields_cons_of_not_mark {isMark : Char → Bool} {c : Char} (hc : isMark c = false)
    (rest : List Char) :
    ∃ first more, fields isMark rest = first :: more ∧
      fields isMark (c :: rest) = (c :: first) :: more := by
  obtain ⟨first, more, hcut⟩ := List.exists_cons_of_ne_nil (fields_ne_nil isMark rest)
  refine ⟨first, more, hcut, ?_⟩
  simp [fields, hc, hcut]

/-- Where marks are apart and none stands at the end, every piece after the first
is a word. -/
theorem ne_nil_of_mem_tail_fields {isMark : Char → Bool} {cs : List Char}
    (hapart : KeepsApart isMark cs) (hlast : ∀ c ∈ cs.getLast?, isMark c = false) :
    ∀ piece ∈ (fields isMark cs).tail, piece ≠ [] := by
  induction cs with
  | nil => exact fun piece hpiece => absurd hpiece List.not_mem_nil
  | cons c rest ih =>
      cases rest with
      | nil =>
          have hc := hlast c rfl
          intro piece hpiece
          simp [fields, hc] at hpiece
      | cons d more =>
          obtain ⟨hpair, hrest⟩ := List.isChain_cons_cons.1 hapart
          rw [List.getLast?_cons_cons] at hlast
          have hwords := ih hrest hlast
          cases hc : isMark c with
          | false =>
              obtain ⟨first, others, hcut, hfields⟩ := fields_cons_of_not_mark hc (d :: more)
              rw [hcut] at hwords
              rw [hfields]
              exact hwords
          | true =>
              -- the piece after the mark begins with `d`, which is no mark
              have hd : isMark d = false := by
                rcases hpair with hfalse | hd
                · rw [hc] at hfalse
                  cases hfalse
                · exact hd
              obtain ⟨first, others, _, hfields⟩ := fields_cons_of_not_mark hd more
              have hmark : fields isMark (c :: d :: more) = [] :: fields isMark (d :: more) := by
                rw [fields, if_pos hc]
              rw [hfields] at hwords
              rw [hmark, hfields]
              intro piece hpiece
              rcases List.mem_cons.1 hpiece with rfl | hin
              · exact List.cons_ne_nil d first
              · exact hwords piece hin

/-- Where marks are apart and none stands at an end, every piece is a word. -/
theorem ne_nil_of_mem_fields {isMark : Char → Bool} {cs : List Char} (hne : cs ≠ [])
    (hapart : KeepsApart isMark cs) (hhead : ∀ c ∈ cs.head?, isMark c = false)
    (hlast : ∀ c ∈ cs.getLast?, isMark c = false) :
    ∀ piece ∈ fields isMark cs, piece ≠ [] := by
  have hrest := ne_nil_of_mem_tail_fields hapart hlast
  obtain ⟨c, more, rfl⟩ := List.exists_cons_of_ne_nil hne
  obtain ⟨first, others, _, hfields⟩ := fields_cons_of_not_mark (hhead c rfl) more
  rw [hfields] at hrest ⊢
  intro piece hpiece
  rcases List.mem_cons.1 hpiece with rfl | hin
  · exact List.cons_ne_nil c first
  · exact hrest piece hin

/-! ### Collapsed texts -/

theorem of_mem_words {cs word : List Char} (hword : word ∈ words cs) :
    word ≠ [] ∧ ∀ c ∈ word, isBlank c = false := by
  obtain ⟨hpiece, hne⟩ := List.mem_filter.1 hword
  refine ⟨?_, fun c hc => isMark_eq_false_of_mem_fields hpiece hc⟩
  simpa using hne

/-- Collapsing leaves no blank but the space. -/
theorem isPlainlySpaced_collapse (cs : List Char) : IsPlainlySpaced (collapse cs) := by
  intro c hc hblank
  rcases mem_intercalate hc with rfl | ⟨word, hword, hin⟩
  · rfl
  · rw [(of_mem_words hword).2 c hin] at hblank
    cases hblank

/-- Collapsing keeps the words. -/
theorem words_collapse (cs : List Char) : words (collapse cs) = words cs := by
  by_cases hnone : words cs = []
  · rw [collapse, hnone]
    rfl
  · have hcut : fields isBlank (collapse cs) = words cs :=
      fields_intercalate hnone (by decide) fun word hword => (of_mem_words hword).2
    rw [words, hcut]
    apply List.filter_eq_self.2
    intro word hword
    simpa using (of_mem_words hword).1

theorem collapse_eq_iff {as bs : List Char} : collapse as = collapse bs ↔ words as = words bs := by
  constructor
  · intro heq
    rw [← words_collapse as, heq, words_collapse]
  · intro heq
    rw [collapse, heq, collapse]

/-- A text of words with single spaces between them is its own collapse. -/
theorem collapse_eq_self {cs : List Char} (htrim : trim cs = cs) (hapart : KeepsApart (· == ' ') cs)
    (hplain : IsPlainlySpaced cs) : collapse cs = cs := by
  by_cases hne : cs = []
  · rw [hne]
    rfl
  · have hspace : ∀ c : Char, isBlank c = false → (c == ' ') = false := by
      intro c hc
      rw [beq_eq_false_iff_ne]
      rintro rfl
      exact absurd hc (by decide)
    have hblank : ∀ c ∈ cs, isBlank c = (c == ' ') := by
      intro c hc
      cases hc' : isBlank c with
      | false => exact (hspace c hc').symm
      | true => rw [hplain c hc hc', beq_self_eq_true]
    obtain ⟨hhead, hlast⟩ := ends_of_dropEnds_eq_self htrim
    have hwords : words cs = fields (· == ' ') cs := by
      rw [words, fields_congr hblank]
      apply List.filter_eq_self.2
      intro piece hpiece
      have hword := ne_nil_of_mem_fields hne hapart (fun c hc => hspace c (hhead c hc))
        (fun c hc => hspace c (hlast c hc)) piece hpiece
      simpa using hword
    rw [collapse, hwords, intercalate_fields]

/-- Of the texts without blanks at their ends and without double spaces, those
whose blanks are all spaces stay as they are. -/
theorem collapse_eq_self_iff {cs : List Char} (htrim : trim cs = cs)
    (hapart : KeepsApart (· == ' ') cs) : collapse cs = cs ↔ IsPlainlySpaced cs := by
  constructor
  · intro hsame
    rw [← hsame]
    exact isPlainlySpaced_collapse cs
  · exact collapse_eq_self htrim hapart

end SignedAccess.Text
