/-
# Blank characters, trimming and fields

Blank means Unicode's property `White_Space`, so the no-break space and the
ideographic space count and the zero-width space does not. Text is a list of
characters here. The module holds the cuts that the rest of the library makes
on such lists: trimming at one or both ends, the fields between marks, and the
words between blanks. `intercalate_fields` says that cutting into fields loses
nothing but the marks.
-/

namespace SignedAccess.Text

/-- A character with Unicode's property `White_Space`. -/
def isBlank (c : Char) : Bool :=
  let n := c.toNat
  (9 ≤ n && n ≤ 13) || n == 0x20 || n == 0x85 || n == 0xA0 || n == 0x1680 ||
    (0x2000 ≤ n && n ≤ 0x200A) || n == 0x2028 || n == 0x2029 || n == 0x202F ||
    n == 0x205F || n == 0x3000

/-- An ASCII control character: below the space, or delete. -/
def isControl (c : Char) : Bool := c.toNat < 0x20 || c.toNat == 0x7F

/-- The list without its longest ending made of marked characters. -/
def dropEnd (isMark : Char → Bool) (cs : List Char) : List Char :=
  (cs.reverse.dropWhile isMark).reverse

/-- The list without the marked characters at its start and at its end. -/
def dropEnds (isMark : Char → Bool) (cs : List Char) : List Char :=
  dropEnd isMark (cs.dropWhile isMark)

/-- The text without the blanks around it. -/
def trim (cs : List Char) : List Char := dropEnds isBlank cs

/-- The pieces between marked characters, empty ones included, so there is
always one piece more than there are marks. -/
def fields (isMark : Char → Bool) : List Char → List (List Char)
  | [] => [[]]
  | c :: rest =>
      if isMark c then [] :: fields isMark rest
      else
        match fields isMark rest with
        | [] => [[c]]
        | first :: more => (c :: first) :: more

@[simp]
theorem fields_nil (isMark : Char → Bool) : fields isMark [] = [[]] := rfl

theorem fields_ne_nil (isMark : Char → Bool) (cs : List Char) :
    fields isMark cs ≠ [] := by
  cases cs with
  | nil => simp
  | cons c rest =>
      unfold fields
      split
      · simp
      · split <;> simp

/-- No piece holds a mark. -/
theorem isMark_eq_false_of_mem_fields {isMark : Char → Bool} {cs piece : List Char} {c : Char}
    (hpiece : piece ∈ fields isMark cs) (hc : c ∈ piece) : isMark c = false := by
  induction cs generalizing piece with
  | nil => simp_all
  | cons d rest ih =>
      unfold fields at hpiece
      split at hpiece
      · rcases List.mem_cons.1 hpiece with rfl | hmore
        · simp at hc
        · exact ih hmore hc
      · rename_i hd
        split at hpiece
        · simp_all
        · rename_i first more hfields
          rcases List.mem_cons.1 hpiece with rfl | hmore
          · rcases List.mem_cons.1 hc with rfl | hc
            · simpa using hd
            · exact ih (hfields ▸ List.mem_cons_self) hc
          · exact ih (hfields ▸ List.mem_cons_of_mem _ hmore) hc

/-- Pieces cut at one character and joined by it give the text back. -/
theorem intercalate_fields (mark : Char) (cs : List Char) :
    [mark].intercalate (fields (· == mark) cs) = cs := by
  induction cs with
  | nil => rfl
  | cons c rest ih =>
      unfold fields
      split
      · rename_i hc
        have hne := fields_ne_nil (· == mark) rest
        cases hrest : fields (· == mark) rest with
        | nil => exact absurd hrest hne
        | cons first more =>
            rw [hrest] at ih
            simp [List.intercalate, List.intersperse] at ih ⊢
            exact ⟨(eq_of_beq hc).symm, ih⟩
      · split
        · rename_i hrest
          exact absurd hrest (fields_ne_nil _ rest)
        · rename_i first more hrest
          rw [hrest] at ih
          cases more with
          | nil => simpa [List.intercalate, List.intersperse] using ih
          | cons second others =>
              simpa [List.intercalate, List.intersperse] using ih

/-- The maximal runs of characters that are not blank. -/
def words (cs : List Char) : List (List Char) :=
  (fields isBlank cs).filter (!·.isEmpty)

/-- The words of a text with one space between neighbours. -/
def collapse (cs : List Char) : List Char := [' '].intercalate (words cs)

/-- The text with its ASCII letters in lower case. -/
def lower (cs : List Char) : List Char := cs.map Char.toLower

/-- The pieces before and after the last mark, none when there is no mark. -/
def cutLast (isMark : Char → Bool) (cs : List Char) : Option (List Char × List Char) :=
  match (cs.reverse.span (!isMark ·)) with
  | (_, []) => none
  | (after, _ :: before) => some (before.reverse, after.reverse)

/-- The pieces before and after the first mark, none when there is no mark. -/
def cutFirst (isMark : Char → Bool) (cs : List Char) : Option (List Char × List Char) :=
  match cs.span (!isMark ·) with
  | (_, []) => none
  | (before, _ :: after) => some (before, after)

end SignedAccess.Text
