/-
# The options among the words

A word with two hyphens in front names an option when an option's word follows, with
nothing after it or an equals sign. Taking one more word keeps what the words before it
have named, and adds what it names itself; a word that stands for a value names nothing.
So an accepted command line has given a value to just the options that are named in it.
-/

import SignedAccess.Proofs.Text.Cuts
import SignedAccess.Proofs.Text.Escapes
import SignedAccess.Setup.Options

namespace SignedAccess

open Text

namespace OptionName

/-- The option that a word names. -/
def named? : List UInt8 → Option OptionName
  | 0x2d :: 0x2d :: rest =>
      (decode? (rest.takeWhile (· != 0x3d))).bind fun cs => ofWord? (String.ofList cs)
  | _ => none

/-- One of the words names the option. -/
def IsNamedIn (o : OptionName) (words : List (List UInt8)) : Prop :=
  ∃ word ∈ words, named? word = some o

/-- The option stands among the words: it is one of them, or begins one of them, with an
equals sign behind it. -/
def StandsIn (o : OptionName) (words : List (List UInt8)) : Prop :=
  bytes ("--" ++ o.word) ∈ words ∨ ∃ value, bytes ("--" ++ o.word ++ "=") ++ value ∈ words

theorem named?_word (o : OptionName) : named? (bytes ("--" ++ o.word)) = some o := by
  cases o <;> decide +kernel

/-- What follows the equals sign does not matter. -/
theorem named?_word_append (o : OptionName) (value : List UInt8) :
    named? (bytes ("--" ++ o.word ++ "=") ++ value) = some o := by
  have hsplit : bytes ("--" ++ o.word ++ "=") ++ value =
      0x2d :: 0x2d :: (bytes o.word ++ 0x3d :: value) := by
    cases o <;> rfl
  have hname : ∀ b ∈ bytes o.word, (b != 0x3d) = true := by
    cases o <;> decide +kernel
  have hword : ofWord? o.word = some o := by
    cases o <;> decide +kernel
  rw [hsplit, named?, takeWhile_append_stop hname rfl, bytes, decode?_encode]
  rw [Option.bind_some, String.ofList_toList, hword]

theorem StandsIn.isNamedIn {o : OptionName} {words : List (List UInt8)} (h : o.StandsIn words) :
    o.IsNamedIn words := by
  rcases h with hword | ⟨value, hword⟩
  · exact ⟨_, hword, named?_word o⟩
  · exact ⟨_, hword, named?_word_append o value⟩

end OptionName

namespace Options

variable {options after : Options} {o p : OptionName}

/-- Giving an option its value adds this option and no other. -/
theorem has_set {value : String} (hset : options.set p value = .ok after) :
    after.has o = true ↔ options.has o = true ∨ p = o := by
  cases p with
  | port | maxExpiry =>
      simp only [set, bind_eq_ok] at hset
      obtain ⟨n, -, hafter⟩ := hset
      cases hafter
      cases o <;> simp [has]
  | _ =>
      cases hset
      cases o <;> simp [has]

theorem has_give {value : Option (List UInt8)} (hgive : options.give p value = .ok after) :
    after.has o = true ↔ options.has o = true ∨ p = o := by
  unfold give at hgive
  split at hgive
  · cases hgive
  · split at hgive
    · cases hgive
    · split at hgive
      · cases hgive
      · exact has_set hgive

end Options

namespace WordState

variable {state after : WordState} {word : List UInt8} {o : OptionName}

/-- The option has been given a value, or waits for it. -/
def Holds (state : WordState) (o : OptionName) : Prop :=
  state.options.has o = true ∨ ∃ value, state.waiting = some (o, value)

/-- Once the value of the option that waits has been looked at, none waits. -/
theorem holds_settle (hsettle : state.settle = .ok after) :
    after.waiting = none ∧ (after.options.has o = true ↔ state.Holds o) := by
  unfold settle at hsettle
  split at hsettle
  · rename_i hnone
    cases hsettle
    exact ⟨hnone, by simp [Holds, hnone]⟩
  · rename_i p value hwaiting
    obtain ⟨options, hgive, hafter⟩ := bind_eq_ok.1 hsettle
    cases hafter
    refine ⟨rfl, (Options.has_give hgive).trans ?_⟩
    simp [Holds, hwaiting]

theorem not_stopWith {stop : OptionStop} : state.stopWith stop ≠ .ok after := by
  unfold stopWith
  cases state.settle <;> simp [bind, Except.bind]

/-- A word for a value leaves what is held as it was. -/
theorem holds_takePlain (htake : state.takePlain word = .ok after) :
    after.Holds o ↔ state.Holds o := by
  unfold takePlain at htake
  split at htake
  · rename_i p _ hwaiting
    cases htake
    simp [Holds, hwaiting]
  · cases htake

theorem not_takeShort : state.takeShort word ≠ .ok after := by
  unfold takeShort
  split
  · exact not_stopWith
  · exact not_stopWith
  · simp
  · simp

/-- A word with two hyphens in front names an option, and this is held from then on. -/
theorem holds_takeLong (htake : state.takeLong word = .ok after) :
    after.Holds o ↔ state.Holds o ∨ OptionName.named? (0x2d :: 0x2d :: word) = some o := by
  unfold takeLong at htake
  dsimp only at htake
  split at htake
  · cases htake
  · rename_i cs hdecode
    -- Words that ask for a text end the reading, with a value as well as without.
    split at htake
    · split at htake
      · cases htake
      · exact absurd htake not_stopWith
    · split at htake
      · split at htake
        · cases htake
        · exact absurd htake not_stopWith
      · split at htake
        · cases htake
        · rename_i p hword
          obtain ⟨settled, hsettle, htake⟩ := bind_eq_ok.1 htake
          obtain ⟨hnone, hsettled⟩ := @holds_settle _ _ o hsettle
          have hnamed : OptionName.named? (0x2d :: 0x2d :: word) = some p := by
            rw [OptionName.named?, hdecode]
            exact hword
          rw [hnamed, Option.some.injEq, ← hsettled]
          split at htake
          · obtain ⟨options, hgive, hafter⟩ := bind_eq_ok.1 htake
            cases hafter
            rw [← Options.has_give hgive]
            simp [Holds, hnone]
          · cases htake
            simp [Holds]

/-- One more word adds the option that it names, if it names one. -/
theorem holds_take (htake : state.take word = .ok after) :
    after.Holds o ↔ state.Holds o ∨ OptionName.named? word = some o := by
  unfold take at htake
  split at htake
  · rename_i hclosed
    simp [takePlain, hclosed] at htake
  · split at htake
    · cases htake
      have hnone : OptionName.named? [0x2d, 0x2d] = none := by decide +kernel
      simp [Holds, hnone]
    · exact holds_takeLong htake
    · rw [holds_takePlain htake]
      simp [OptionName.named?]
    · exact absurd htake not_takeShort
    · rename_i hlong
      have hnone : OptionName.named? word = none := by
        unfold OptionName.named?
        split
        · exact absurd rfl (hlong _)
        · rfl
      rw [holds_takePlain htake, hnone]
      simp

/-- All words together add the options that they name. -/
theorem holds_foldlM_take {words : List (List UInt8)}
    (htake : words.foldlM take state = .ok after) :
    after.Holds o ↔ state.Holds o ∨ o.IsNamedIn words := by
  induction words generalizing state with
  | nil =>
      cases htake
      simp [OptionName.IsNamedIn]
  | cons word rest ih =>
      rw [List.foldlM_cons] at htake
      obtain ⟨between, hfirst, hrest⟩ := bind_eq_ok.1 htake
      rw [ih hrest, holds_take hfirst, or_assoc]
      simp [OptionName.IsNamedIn]

end WordState

/-- An accepted command line gives a value to the options that are named in it and to no
other. -/
theorem Options.has_ofWords {words : List (List UInt8)} {options : Options} {o : OptionName}
    (hwords : Options.ofWords words = .ok options) :
    options.has o = true ↔ o.IsNamedIn words := by
  obtain ⟨state, htake, hlast⟩ := bind_eq_ok.1 hwords
  obtain ⟨settled, hsettle, hoptions⟩ := bind_eq_ok.1 hlast
  cases hoptions
  have hempty : ¬WordState.Holds {} o := by
    cases o <;> simp [WordState.Holds, has]
  rw [(WordState.holds_settle hsettle).2, WordState.holds_foldlM_take htake]
  exact or_iff_right hempty

end SignedAccess
