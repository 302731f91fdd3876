/-
# The spread form

The spread form writes the same value as the compact one: it only has blanks where blanks
may stand, a new line and some spaces before each part and before a closing bracket, and a
space after each colon. So both forms are read as the same value.
-/

import SignedAccess.Proofs.Json.Records

namespace SignedAccess.Json

open Text

/-! ### Blanks between the parts -/

theorem isBlanks_newLine (depth : Nat) : IsBlanks (encode (newLine depth)) := by
  have hascii : ∀ c ∈ newLine depth, c = '\n' ∨ c = ' ' := by
    intro c hc
    rcases List.mem_cons.1 hc with rfl | hc
    · exact Or.inl rfl
    · exact Or.inr (List.eq_of_mem_replicate hc)
  rw [encode_of_ascii fun c hc => by rcases hascii c hc with rfl | rfl <;> decide]
  intro b hb
  obtain ⟨c, hc, rfl⟩ := List.mem_map.1 hb
  rcases hascii c hc with rfl | rfl <;> decide

theorem leads_newLine (isFirst : Bool) (depth : Nat) :
    Leads isFirst (compactLead isFirst false ++ encode (newLine depth)) := by
  cases isFirst with
  | true => exact isBlanks_newLine depth
  | false => exact ⟨[], _, isBlanks_nil, isBlanks_newLine depth, rfl⟩

theorem isMarked_colon : IsMarked (byteOf ':') (encode [':', ' ']) :=
  ⟨[], [byteOf ' '], isBlanks_nil, List.forall_mem_singleton.2 rfl, rfl⟩

/-! ### The form as a whole -/

mutual

/-- The spread form spells the value, at whatever depth it begins. -/
theorem Value.spells_spread : ∀ (v : Value) (depth : Nat), v.Spells (encode (v.spread depth))
  | .null, _ => rfl
  | .boolean _, _ => rfl
  | .number _, _ => rfl
  | .text s, _ => spellsText_textWritten s
  | .array [], _ => ⟨[], isBlanks_nil, rfl⟩
  | .array (first :: rest), depth => by
      refine ⟨_, itemsSpell_spread (first :: rest) (depth + 1) true (isBlanks_newLine depth), ?_⟩
      rw [Value.spread, List.cons_append, List.cons_append, encode_cons, encode_append,
        encode_append]
      rfl
  | .object [], _ => ⟨[], isBlanks_nil, rfl⟩
  | .object (first :: rest), depth => by
      refine ⟨_, membersSpell_spread (first :: rest) (depth + 1) true (isBlanks_newLine depth),
        ?_⟩
      rw [Value.spread, List.cons_append, List.cons_append, encode_cons, encode_append,
        encode_append]
      rfl

theorem itemsSpell_spread : ∀ (items : List Value) (depth : Nat) (isFirst : Bool)
    {closing : Input}, IsBlanks closing → ItemsSpell isFirst items
      (compactLead isFirst items.isEmpty ++ (encode (itemsSpread depth items) ++ closing))
  | [], depth, isFirst, closing, hclosing => by
      rw [compactLead, List.isEmpty_nil, Bool.or_true]
      exact hclosing
  | [v], depth, isFirst, closing, hclosing =>
      ⟨_, _, closing, leads_newLine isFirst depth, v.spells_spread depth, hclosing, by
        simp only [itemsSpread, encode_append, List.append_assoc]
        rfl⟩
  | v :: next :: rest, depth, isFirst, closing, hclosing =>
      ⟨_, _, _, leads_newLine isFirst depth, v.spells_spread depth,
        itemsSpell_spread (next :: rest) depth false hclosing, by
          simp only [itemsSpread, encode_append, encode_cons, List.append_assoc]
          rfl⟩

theorem membersSpell_spread : ∀ (members : List (String × Value)) (depth : Nat) (isFirst : Bool)
    {closing : Input}, IsBlanks closing → MembersSpell isFirst members
      (compactLead isFirst members.isEmpty ++ (encode (membersSpread depth members) ++ closing))
  | [], depth, isFirst, closing, hclosing => by
      rw [compactLead, List.isEmpty_nil, Bool.or_true]
      exact hclosing
  | [(name, v)], depth, isFirst, closing, hclosing =>
      ⟨_, _, _, _, closing, leads_newLine isFirst depth, spellsText_textWritten name,
        isMarked_colon, v.spells_spread depth, hclosing, by
          simp only [membersSpread, encode_append, encode_cons, List.append_assoc]
          rfl⟩
  | (name, v) :: next :: rest, depth, isFirst, closing, hclosing =>
      ⟨_, _, _, _, _, leads_newLine isFirst depth, spellsText_textWritten name,
        isMarked_colon, v.spells_spread depth,
        membersSpell_spread (next :: rest) depth false hclosing, by
          simp only [membersSpread, encode_append, encode_cons, List.append_assoc]
          rfl⟩

end

/-- The spread form on lines of its own. -/
theorem Value.spelledBy_pretty (v : Value) : v.SpelledBy (Text.bytes (v.pretty ++ "\n")) := by
  refine ⟨[], _, [byteOf '\n'], isBlanks_nil, List.forall_mem_singleton.2 rfl,
    v.spells_spread 0, ?_⟩
  rw [Text.bytes, String.toList_append, encode_append, Value.pretty, String.toList_ofList]
  rfl

/-- However a value is written that can be kept, it is read as it is kept. -/
theorem Value.read_of_spelledBy {v : Value} {bs : Input} (hfits : v.Fits greatestDepth)
    (hspells : v.SpelledBy bs) : Value.read bs = .ok v.normal := by
  obtain ⟨before, one, after, hbefore, hafter, hone, rfl⟩ := hspells
  have hlast : skipSpaces after = [] := by
    have h := skipSpaces_append hafter []
    rwa [List.append_nil] at h
  rw [Value.read, readValue_append hbefore,
    readValue_spells hone hfits (endsNumber_blanks hafter), whole, if_pos hlast]

end SignedAccess.Json
