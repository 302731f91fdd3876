/-
# Texts that differ in their blanks

A text is respaced by changing runs of blanks into other runs, one after the other: inside
the text a run stays a run, at its ends it may come and go. What no change touches are the
words, and a text can be respaced into every other one with its words, since both can be
respaced into their collapse.
-/

import Mathlib.Logic.Relation
import SignedAccess.Proofs.Text.Spacing

namespace SignedAccess.Text

/-- A run of blanks, perhaps of none. -/
def IsBlankRun (gap : List Char) : Prop := ∀ c ∈ gap, isBlank c = true

/-- A run of blanks is changed into another one. Only at an end may one of the two be
empty. -/
inductive ChangesGap : List Char → List Char → Prop
  | inside (front back : List Char) {gap other : List Char} (hgap : IsBlankRun gap)
      (hother : IsBlankRun other) (hne : gap ≠ []) (hsome : other ≠ []) :
      ChangesGap (front ++ (gap ++ back)) (front ++ (other ++ back))
  | atStart (back : List Char) {gap other : List Char} (hgap : IsBlankRun gap)
      (hother : IsBlankRun other) : ChangesGap (gap ++ back) (other ++ back)
  | atEnd (front : List Char) {gap other : List Char} (hgap : IsBlankRun gap)
      (hother : IsBlankRun other) : ChangesGap (front ++ gap) (front ++ other)

/-- One text becomes the other by changes of its runs of blanks. -/
def IsRespaced : List Char → List Char → Prop := Relation.ReflTransGen ChangesGap

theorem ChangesGap.symm {as bs : List Char} (h : ChangesGap as bs) : ChangesGap bs as := by
  cases h with
  | inside front back hgap hother hne hsome => exact .inside front back hother hgap hsome hne
  | atStart back hgap hother => exact .atStart back hother hgap
  | atEnd front hgap hother => exact .atEnd front hother hgap

theorem IsRespaced.symm {as bs : List Char} (h : IsRespaced as bs) : IsRespaced bs as := by
  induction h with
  | refl => exact .refl
  | tail _ hchange ih => exact .head hchange.symm ih

/-! ### Words around blanks -/

/-- A blank separates the words before it from those after it. -/
theorem words_append_blank {c : Char} (hc : isBlank c = true) (front back : List Char) :
    words (front ++ c :: back) = words front ++ words back := by
  rw [words, fields_append_mark hc, List.filter_append]
  rfl

theorem words_append_left {gap : List Char} (hgap : IsBlankRun gap) (back : List Char) :
    words (gap ++ back) = words back := by
  induction gap with
  | nil => rfl
  | cons c rest ih =>
      obtain ⟨hc, hrest⟩ := List.forall_mem_cons.1 hgap
      rw [List.cons_append, ← List.nil_append (c :: _), words_append_blank hc, ih hrest]
      rfl

theorem words_append_gap {gap : List Char} (hgap : IsBlankRun gap) (hne : gap ≠ [])
    (front back : List Char) : words (front ++ (gap ++ back)) = words front ++ words back := by
  obtain ⟨c, rest, rfl⟩ := List.exists_cons_of_ne_nil hne
  obtain ⟨hc, hrest⟩ := List.forall_mem_cons.1 hgap
  rw [List.cons_append, words_append_blank hc, words_append_left hrest]

theorem words_append_right {gap : List Char} (hgap : IsBlankRun gap) (front : List Char) :
    words (front ++ gap) = words front := by
  by_cases hne : gap = []
  · rw [hne, List.append_nil]
  · rw [← List.append_nil gap, words_append_gap hgap hne]
    exact List.append_nil _

/-- A change of blanks changes no word. -/
theorem ChangesGap.words_eq {as bs : List Char} (h : ChangesGap as bs) : words as = words bs := by
  cases h with
  | inside front back hgap hother hne hsome =>
      rw [words_append_gap hgap hne, words_append_gap hother hsome]
  | atStart back hgap hother => rw [words_append_left hgap, words_append_left hother]
  | atEnd front hgap hother => rw [words_append_right hgap, words_append_right hother]

theorem IsRespaced.words_eq {as bs : List Char} (h : IsRespaced as bs) : words as = words bs := by
  induction h with
  | refl => rfl
  | tail _ hchange ih => exact ih.trans hchange.words_eq

/-! ### The way to the collapse -/

theorem words_of_no_blank {word : List Char} (hne : word ≠ [])
    (hword : ∀ c ∈ word, isBlank c = false) : words word = [word] := by
  rw [words, fields_of_none hword]
  simp [hne]

theorem words_ne_nil {c : Char} (hc : isBlank c = false) (rest : List Char) :
    words (c :: rest) ≠ [] := by
  obtain ⟨first, more, -, hfields⟩ := fields_cons_of_not_mark hc rest
  simp [words, hfields]

/-- A text that begins with a word is this word, a run of blanks and, unless it ends
there, a text that begins with a word again. -/
theorem exists_word_gap {c : Char} (hc : isBlank c = false) (more : List Char) :
    ∃ word gap rest, c :: more = word ++ (gap ++ rest) ∧ word ≠ [] ∧
      (∀ d ∈ word, isBlank d = false) ∧ IsBlankRun gap ∧
      (rest = [] ∨ gap ≠ [] ∧ ∃ d others, rest = d :: others ∧ isBlank d = false) := by
  let isLetter (d : Char) : Bool := !isBlank d
  have hletter : ∀ {d : Char}, isLetter d = true ↔ isBlank d = false := by simp [isLetter]
  have hcut : (c :: more).takeWhile isLetter ++ (c :: more).dropWhile isLetter = c :: more :=
    List.takeWhile_append_dropWhile
  have hword : ∀ d ∈ (c :: more).takeWhile isLetter, isBlank d = false :=
    fun d hd => hletter.1 (List.mem_takeWhile_imp hd)
  have hne : (c :: more).takeWhile isLetter ≠ [] := by
    rw [List.takeWhile_cons_of_pos (hletter.2 hc)]
    exact List.cons_ne_nil _ _
  have hblank := List.head?_dropWhile_not isLetter (c :: more)
  cases htail : (c :: more).dropWhile isLetter with
  | nil =>
      refine ⟨_, [], [], ?_, hne, hword, List.forall_mem_nil _, Or.inl rfl⟩
      rw [htail] at hcut
      rw [List.nil_append, hcut]
  | cons e tail =>
      rw [htail] at hcut hblank
      have he : isBlank e = true := by simpa [isLetter] using hblank
      refine ⟨_, (e :: tail).takeWhile isBlank, (e :: tail).dropWhile isBlank, ?_, hne, hword,
        fun d hd => List.mem_takeWhile_imp hd, ?_⟩
      · rw [List.takeWhile_append_dropWhile, hcut]
      · have hhead := List.head?_dropWhile_not isBlank (e :: tail)
        rw [List.takeWhile_cons_of_pos he]
        cases hrest : (e :: tail).dropWhile isBlank with
        | nil => exact Or.inl rfl
        | cons d others =>
            rw [hrest] at hhead
            exact Or.inr ⟨List.cons_ne_nil _ _, d, others, rfl, hhead⟩

/-- Behind any front, a text that begins with a word is respaced into its collapse. -/
theorem isRespaced_append_collapse (front : List Char) {c : Char} (hc : isBlank c = false)
    (more : List Char) : IsRespaced (front ++ c :: more) (front ++ collapse (c :: more)) := by
  induction hlength : more.length using Nat.strongRecOn generalizing front c more with
  | _ n ih =>
      obtain ⟨word, gap, rest, htext, hne, hword, hgap, hrest⟩ := exists_word_gap hc more
      rw [htext]
      rcases hrest with rfl | ⟨hgapne, d, others, rfl, hd⟩
      · have hcollapse : collapse (word ++ (gap ++ [])) = word ++ [] := by
          rw [collapse, List.append_nil, words_append_right hgap, words_of_no_blank hne hword,
            List.intercalate_singleton, List.append_nil]
        rw [hcollapse, List.append_nil gap, ← List.append_assoc, ← List.append_assoc]
        exact .single (.atEnd (front ++ word) hgap (List.forall_mem_nil _))
      · have hcollapse : collapse (word ++ (gap ++ d :: others)) =
            word ++ ([' '] ++ collapse (d :: others)) := by
          obtain ⟨first, ws, hwords⟩ := List.exists_cons_of_ne_nil (words_ne_nil hd others)
          rw [collapse, words_append_gap hgap hgapne, words_of_no_blank hne hword, collapse, hwords,
            List.singleton_append, List.intercalate_cons_cons, List.append_assoc]
        have hspace : IsBlankRun [' '] := List.forall_mem_singleton.2 (by decide)
        have hchange := ChangesGap.inside (front ++ word) (d :: others) hgap hspace hgapne
          (List.cons_ne_nil _ _)
        have hshorter : others.length < n := by
          have hlong := congrArg List.length htext
          have hpos := List.length_pos_iff.2 hne
          simp only [List.length_append, List.length_cons] at hlong
          omega
        have hstep := ih _ hshorter (front ++ word ++ [' ']) hd others rfl
        rw [hcollapse]
        simp only [List.append_assoc] at hchange hstep ⊢
        exact .head hchange hstep

theorem isRespaced_collapse (cs : List Char) : IsRespaced cs (collapse cs) := by
  have hlead : IsBlankRun (cs.takeWhile isBlank) := fun c hc => List.mem_takeWhile_imp hc
  have hhead := List.head?_dropWhile_not isBlank cs
  have hstart := ChangesGap.atStart (cs.dropWhile isBlank) hlead (List.forall_mem_nil _)
  have hwords := words_append_left hlead (cs.dropWhile isBlank)
  rw [List.takeWhile_append_dropWhile] at hstart hwords
  rw [List.nil_append] at hstart
  refine .head hstart ?_
  rw [collapse_eq_iff.2 hwords]
  cases hrest : cs.dropWhile isBlank with
  | nil => exact .refl
  | cons c more =>
      rw [hrest] at hhead
      exact isRespaced_append_collapse [] hhead more

/-- One text can be respaced into another exactly when they have the same words. -/
theorem isRespaced_iff {as bs : List Char} : IsRespaced as bs ↔ words as = words bs := by
  constructor
  · exact IsRespaced.words_eq
  · intro hwords
    have hback := (isRespaced_collapse bs).symm
    rw [← collapse_eq_iff.2 hwords] at hback
    exact (isRespaced_collapse as).trans hback

end SignedAccess.Text
