/-
# Cuts and joins

Cutting a text at a mark undoes joining pieces that do not hold it. The module
says so for every way of cutting: at the first mark, at the last one, at all of
them, and at the end of a longest run. Pieces that have been cut are read one
by one, and the reading of all is known from that of each.
-/

import Mathlib.Data.List.TakeDrop
import Mathlib.Data.List.TakeWhile
import SignedAccess.Text.Blank

namespace SignedAccess.Text

variable {α β : Type}

/-! ### Runs -/

/-- A run ends at the first element outside it. -/
theorem takeWhile_append_stop {p : α → Bool} {xs rest : List α} {stop : α}
    (hall : ∀ x ∈ xs, p x = true) (hstop : p stop = false) :
    (xs ++ stop :: rest).takeWhile p = xs := by
  rw [List.takeWhile_append_of_pos hall, List.takeWhile_cons_of_neg (by simp [hstop]),
    List.append_nil]

/-- What follows a run begins with the first element outside it. -/
theorem dropWhile_append_stop {p : α → Bool} {xs rest : List α} {stop : α}
    (hall : ∀ x ∈ xs, p x = true) (hstop : p stop = false) :
    (xs ++ stop :: rest).dropWhile p = stop :: rest := by
  rw [List.dropWhile_append_of_pos hall, List.dropWhile_cons_of_neg (by simp [hstop])]

theorem span_append_stop {p : α → Bool} {xs rest : List α} {stop : α}
    (hall : ∀ x ∈ xs, p x = true) (hstop : p stop = false) :
    (xs ++ stop :: rest).span p = (xs, stop :: rest) := by
  rw [List.span_eq_takeWhile_dropWhile, takeWhile_append_stop hall hstop,
    dropWhile_append_stop hall hstop]

theorem span_eq_self {p : α → Bool} {xs : List α} (hall : ∀ x ∈ xs, p x = true) :
    xs.span p = (xs, []) := by
  rw [List.span_eq_takeWhile_dropWhile, List.takeWhile_eq_self_iff.2 hall,
    List.dropWhile_eq_nil_iff.2 hall]

/-- A text with no marked character at its ends keeps both of them. -/
theorem dropEnds_eq_self {isMark : Char → Bool} {cs : List Char}
    (hnone : ∀ c ∈ cs, isMark c = false) : dropEnds isMark cs = cs := by
  have hkeep : ∀ ds : List Char, (∀ c ∈ ds, isMark c = false) → ds.dropWhile isMark = ds := by
    intro ds hds
    cases ds with
    | nil => rfl
    | cons d rest =>
        exact List.dropWhile_cons_of_neg (by simp [hds d List.mem_cons_self])
  unfold dropEnds dropEnd
  rw [hkeep cs hnone, hkeep cs.reverse fun c hc => hnone c (List.mem_reverse.1 hc),
    List.reverse_reverse]

/-! ### One cut -/

/-- The first mark is where the text before it ends. -/
theorem cutFirst_append {isMark : Char → Bool} {before after : List Char} {mark : Char}
    (hbefore : ∀ c ∈ before, isMark c = false) (hmark : isMark mark = true) :
    cutFirst isMark (before ++ mark :: after) = some (before, after) := by
  unfold cutFirst
  rw [span_append_stop (fun c hc => by simp [hbefore c hc]) (by simp [hmark])]

/-- The last mark is where the text after it begins. -/
theorem cutLast_append {isMark : Char → Bool} {before after : List Char} {mark : Char}
    (hafter : ∀ c ∈ after, isMark c = false) (hmark : isMark mark = true) :
    cutLast isMark (before ++ mark :: after) = some (before, after) := by
  have hreverse : (before ++ mark :: after).reverse = after.reverse ++ mark :: before.reverse := by
    simp
  unfold cutLast
  rw [hreverse, span_append_stop
    (fun c hc => by simp [hafter c (List.mem_reverse.1 hc)]) (by simp [hmark])]
  simp

theorem cutLast_of_none {isMark : Char → Bool} {cs : List Char}
    (hnone : ∀ c ∈ cs, isMark c = false) : cutLast isMark cs = none := by
  unfold cutLast
  rw [span_eq_self fun c hc => by simp [hnone c (List.mem_reverse.1 hc)]]

/-! ### All cuts -/

theorem fields_of_none {isMark : Char → Bool} {cs : List Char}
    (hnone : ∀ c ∈ cs, isMark c = false) : fields isMark cs = [cs] := by
  induction cs with
  | nil => rfl
  | cons c rest ih =>
      have hrest := ih fun d hd => hnone d (List.mem_cons_of_mem _ hd)
      simp [fields, hnone c List.mem_cons_self, hrest]

/-- The piece before a mark is the first one. -/
theorem fields_append_cons {isMark : Char → Bool} {piece rest : List Char} {mark : Char}
    (hpiece : ∀ c ∈ piece, isMark c = false) (hmark : isMark mark = true) :
    fields isMark (piece ++ mark :: rest) = piece :: fields isMark rest := by
  induction piece with
  | nil => simp [fields, hmark]
  | cons c more ih =>
      have hmore := ih fun d hd => hpiece d (List.mem_cons_of_mem _ hd)
      simp [fields, hpiece c List.mem_cons_self, hmore]

/-- The last piece goes on where the text goes on; the pieces before it stay. -/
theorem fields_append (isMark : Char → Bool) (front back : List Char) :
    fields isMark (front ++ back) = (fields isMark front).dropLast ++
      fields isMark ((fields isMark front).getLast (fields_ne_nil isMark front) ++ back) := by
  induction front with
  | nil => simp
  | cons c rest ih =>
      obtain ⟨first, more, hcut⟩ := List.exists_cons_of_ne_nil (fields_ne_nil isMark rest)
      simp only [hcut] at ih
      cases hc : isMark c with
      | true => simp [fields, hc, ih, hcut]
      | false =>
          -- the character joins the first piece, which is the last one where no other follows
          cases more with
          | nil => simp_all [fields]
          | cons second others => simp_all [fields]

/-- A mark anywhere in a text separates the pieces before it from those after it. -/
theorem fields_append_mark {isMark : Char → Bool} {mark : Char} (hmark : isMark mark = true)
    (front back : List Char) :
    fields isMark (front ++ mark :: back) = fields isMark front ++ fields isMark back := by
  have hne := fields_ne_nil isMark front
  have hlast : ∀ c ∈ (fields isMark front).getLast hne, isMark c = false :=
    fun c hc => isMark_eq_false_of_mem_fields (List.getLast_mem hne) hc
  rw [fields_append, fields_append_cons hlast hmark, List.append_cons,
    List.dropLast_concat_getLast hne]

/-- Pieces that do not hold the mark are found again after they have been joined
by it. -/
theorem fields_intercalate {isMark : Char → Bool} {mark : Char} {pieces : List (List Char)}
    (hne : pieces ≠ []) (hmark : isMark mark = true)
    (hpieces : ∀ piece ∈ pieces, ∀ c ∈ piece, isMark c = false) :
    fields isMark ([mark].intercalate pieces) = pieces := by
  induction pieces with
  | nil => exact absurd rfl hne
  | cons first more ih =>
      have hfirst := hpieces first List.mem_cons_self
      cases more with
      | nil => rw [List.intercalate_singleton, fields_of_none hfirst]
      | cons second others =>
          rw [List.intercalate_cons_cons, List.append_assoc, List.singleton_append,
            fields_append_cons hfirst hmark, ih (List.cons_ne_nil _ _) fun piece hp =>
              hpieces piece (List.mem_cons_of_mem _ hp)]

/-- Every character of joined pieces is the mark or stands in a piece. -/
theorem mem_intercalate {mark c : Char} {pieces : List (List Char)}
    (hc : c ∈ [mark].intercalate pieces) : c = mark ∨ ∃ piece ∈ pieces, c ∈ piece := by
  induction pieces with
  | nil => simp [List.intercalate] at hc
  | cons first more ih =>
      cases more with
      | nil =>
          rw [List.intercalate_singleton] at hc
          exact Or.inr ⟨first, List.mem_cons_self, hc⟩
      | cons second others =>
          rw [List.intercalate_cons_cons, List.append_assoc, List.singleton_append,
            List.mem_append, List.mem_cons] at hc
          rcases hc with hfirst | rfl | hrest
          · exact Or.inr ⟨first, List.mem_cons_self, hfirst⟩
          · exact Or.inl rfl
          · rcases ih hrest with rfl | ⟨piece, hp, hin⟩
            · exact Or.inl rfl
            · exact Or.inr ⟨piece, List.mem_cons_of_mem _ hp, hin⟩

theorem mem_intercalate_of_mem {mark c : Char} {piece : List Char} {pieces : List (List Char)}
    (hpiece : piece ∈ pieces) (hc : c ∈ piece) : c ∈ [mark].intercalate pieces := by
  induction pieces with
  | nil => exact absurd hpiece List.not_mem_nil
  | cons first more ih =>
      cases more with
      | nil =>
          rw [List.intercalate_singleton]
          rwa [← List.mem_singleton.1 hpiece]
      | cons second others =>
          rw [List.intercalate_cons_cons, List.mem_append, List.mem_append]
          rcases List.mem_cons.1 hpiece with rfl | hin
          · exact Or.inl (Or.inl hc)
          · exact Or.inr (ih hin)

/-- Joined pieces are as long as each of them. -/
theorem length_le_intercalate {mark : Char} {piece : List Char} {pieces : List (List Char)}
    (hpiece : piece ∈ pieces) : piece.length ≤ ([mark].intercalate pieces).length := by
  induction pieces with
  | nil => exact absurd hpiece List.not_mem_nil
  | cons first more ih =>
      cases more with
      | nil =>
          rw [List.intercalate_singleton, List.mem_singleton.1 hpiece]
      | cons second others =>
          rw [List.intercalate_cons_cons, List.length_append, List.length_append]
          rcases List.mem_cons.1 hpiece with rfl | hin
          · omega
          · have hmore := ih hin
            omega

/-! ### Piece by piece -/

/-- All are read when each is. -/
theorem mapM_eq_some_map {f : α → Option β} {g : α → β} {xs : List α}
    (hread : ∀ x ∈ xs, f x = some (g x)) : xs.mapM f = some (xs.map g) := by
  induction xs with
  | nil => rfl
  | cons x rest ih =>
      rw [List.mapM_cons, hread x List.mem_cons_self,
        ih fun y hy => hread y (List.mem_cons_of_mem _ hy)]
      rfl

theorem mapM_cons_eq_some {f : α → Option β} {x : α} {xs : List α} {ys : List β}
    (hread : (x :: xs).mapM f = some ys) :
    ∃ y more, f x = some y ∧ xs.mapM f = some more ∧ ys = y :: more := by
  rw [List.mapM_cons] at hread
  obtain ⟨y, hy, hmore⟩ := Option.bind_eq_some_iff.1 hread
  obtain ⟨more, hrest, hcons⟩ := Option.bind_eq_some_iff.1 hmore
  exact ⟨y, more, hy, hrest, (Option.some.inj hcons).symm⟩

theorem length_of_mapM {f : α → Option β} {xs : List α} {ys : List β}
    (hread : xs.mapM f = some ys) : ys.length = xs.length := by
  induction xs generalizing ys with
  | nil =>
      cases hread
      rfl
  | cons x rest ih =>
      obtain ⟨y, more, _, hmore, rfl⟩ := mapM_cons_eq_some hread
      rw [List.length_cons, List.length_cons, ih hmore]

/-- What has been read was read from one of the pieces. -/
theorem exists_of_mem_mapM {f : α → Option β} {xs : List α} {ys : List β} {y : β}
    (hread : xs.mapM f = some ys) (hy : y ∈ ys) : ∃ x ∈ xs, f x = some y := by
  induction xs generalizing ys with
  | nil =>
      cases hread
      exact absurd hy List.not_mem_nil
  | cons x rest ih =>
      obtain ⟨first, more, hfirst, hmore, rfl⟩ := mapM_cons_eq_some hread
      rcases List.mem_cons.1 hy with rfl | hin
      · exact ⟨x, List.mem_cons_self, hfirst⟩
      · obtain ⟨z, hz, hzy⟩ := ih hmore hin
        exact ⟨z, List.mem_cons_of_mem _ hz, hzy⟩

/-- Two readings after each other succeed when both do. -/
theorem bind_eq_ok {ε : Type} {x : Except ε α} {f : α → Except ε β} {b : β} :
    x >>= f = .ok b ↔ ∃ a, x = .ok a ∧ f a = .ok b := by
  cases x with
  | error fault =>
      constructor
      · intro h
        cases h
      · rintro ⟨a, ha, _⟩
        cases ha
  | ok a =>
      constructor
      · exact fun h => ⟨a, rfl, h⟩
      · rintro ⟨_, ha, hb⟩
        cases ha
        exact hb

/-- A check that comes first must pass. -/
theorem unit_bind_eq_ok {ε : Type} {x : Except ε Unit} {f : Unit → Except ε β} {b : β} :
    x >>= f = .ok b ↔ x = .ok () ∧ f () = .ok b := by
  rw [bind_eq_ok]
  exact ⟨fun ⟨_, hx, hb⟩ => ⟨hx, hb⟩, fun ⟨hx, hb⟩ => ⟨(), hx, hb⟩⟩

/-- A sequence fails where its first part fails, or else where what follows fails. -/
theorem bind_eq_error {ε : Type} {x : Except ε α} {f : α → Except ε β} {fault : ε} :
    x >>= f = .error fault ↔ x = .error fault ∨ ∃ a, x = .ok a ∧ f a = .error fault := by
  cases x with
  | error found => simp [bind, Except.bind]
  | ok a => simp [bind, Except.bind]

end SignedAccess.Text
