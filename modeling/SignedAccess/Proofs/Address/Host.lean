/-
# Hosts read back

A host that was read from a text is read again from its own writing: four bytes
and eight groups always, a name when it is read at all. What comes out of
reading a host keeps within the bounds that writing needs, so the two halves of
the module are, for each kind of host, what reading promises and how writing is
read.
-/

import Mathlib.Data.List.Basic
import SignedAccess.Address.Host
import SignedAccess.Proofs.Domain.Settled
import SignedAccess.Proofs.Text.Numerals

namespace SignedAccess.Host

open Text

/-! ### Four bytes -/

/-- The four bytes of a number, the highest first. -/
def bytesOf (value : Nat) : List Nat :=
  [value / 16777216 % 256, value / 65536 % 256, value / 256 % 256, value % 256]

theorem bytes4Written_eq (value : Nat) :
    bytes4Written value = ['.'].intercalate ((bytesOf value).map decimal) := rfl

theorem lt_of_mem_bytesOf {value n : Nat} (hn : n ∈ bytesOf value) : n < 256 := by
  simp only [bytesOf, List.mem_cons, List.not_mem_nil, or_false] at hn
  rcases hn with rfl | rfl | rfl | rfl <;> exact Nat.mod_lt _ (by omega)

theorem ne_point_of_mem_decimal {n : Nat} {c : Char} (hc : c ∈ decimal n) :
    (c == '.') = false := by
  rw [beq_eq_false_iff_ne]
  rintro rfl
  exact absurd (isDigit_of_mem_decimal hc) (by decide)

theorem labels_bytes4Written (value : Nat) :
    labels (bytes4Written value) = (bytesOf value).map decimal := by
  have hfields : fields (· == '.') (bytes4Written value) = (bytesOf value).map decimal := by
    rw [bytes4Written_eq]
    apply fields_intercalate (by simp [bytesOf]) rfl
    intro piece hpiece c hc
    obtain ⟨n, _, rfl⟩ := List.mem_map.1 hpiece
    exact ne_point_of_mem_decimal hc
  unfold labels
  rw [hfields]
  exact if_neg (by simp [bytesOf, decimal_ne_nil])

theorem oldNumber?_decimal {n : Nat} (hn : n < 256) :
    oldNumber? (decimal n) = some (some n) := by
  have hall : ∀ m < 256, oldNumber? (decimal m) = some (some m) := by decide +kernel
  exact hall n hn

/-- Four bytes in writing are read as those bytes. -/
theorem bytes4?_bytes4Written {value : Nat} (hvalue : value < bytes4Limit) :
    bytes4? (bytes4Written value) = some value := by
  have hnumbers : ((bytesOf value).map decimal).mapM (fun label => (oldNumber? label).join) =
      some (bytesOf value) := by
    have hjoin : ∀ n ∈ bytesOf value, (oldNumber? (decimal n)).join = some (id n) := by
      intro n hn
      rw [oldNumber?_decimal (lt_of_mem_bytesOf hn)]
      rfl
    rw [List.mapM_map]
    have hmap := mapM_eq_some_map (f := fun n => (oldNumber? (decimal n)).join) (g := id) hjoin
    rwa [List.map_id] at hmap
  have hlast : (bytesOf value).getLast? = some (value % 256) := rfl
  have hfront : (bytesOf value).dropLast =
      [value / 16777216 % 256, value / 65536 % 256, value / 256 % 256] := rfl
  have hsmall : ((bytesOf value).dropLast.any (255 < ·)) = false := by
    simp only [hfront, List.any_cons, List.any_nil]
    grind
  unfold bytes4?
  rw [labels_bytes4Written, hnumbers]
  simp only [Option.bind_eq_bind, Option.bind_some, hlast, hsmall]
  rw [hfront]
  have hrange : value < 4294967296 := hvalue
  have hlow : value % 256 < 256 := Nat.mod_lt _ (by omega)
  have hsum : value / 16777216 % 256 * 16777216 + value / 65536 % 256 * 65536 +
      value / 256 % 256 * 256 + value % 256 = value := by omega
  simpa using And.intro hlow hsum

/-- Whether a text is read as four bytes is a matter of its last label. -/
theorem endsInNumber_bytes4Written (value : Nat) :
    endsInNumber (bytes4Written value) = true := by
  have hlast : (labels (bytes4Written value)).getLast? = some (decimal (value % 256)) := by
    rw [labels_bytes4Written]
    rfl
  have hdigits : (decimal (value % 256)).all Char.isDigit = true :=
    List.all_eq_true.2 fun c hc => isDigit_of_mem_decimal hc
  unfold endsInNumber
  rw [hlast]
  simp [hdigits, decimal_ne_nil]

/-- Bytes that each count for their place and a number that fits into the room they
leave make a number of four bytes. -/
theorem foldl_bytes_lt (weight room : Nat → Nat)
    (hweight : weight 0 = 16777216 ∧ weight 1 = 65536 ∧ weight 2 = 256)
    (hroom : room 0 = 4294967296 ∧ room 1 = 16777216 ∧ room 2 = 65536 ∧ room 3 = 256)
    {front : List Nat} {last : Nat} (hcount : front.length ≤ 3) (hfront : ∀ n ∈ front, n ≤ 255)
    (hlast : last < room front.length) :
    front.zipIdx.foldl (fun sum (n, i) => sum + n * weight i) 0 + last < bytes4Limit := by
  obtain ⟨hw0, hw1, hw2⟩ := hweight
  obtain ⟨hr0, hr1, hr2, hr3⟩ := hroom
  unfold bytes4Limit
  rcases front with _ | ⟨a, _ | ⟨b, _ | ⟨c, _ | ⟨d, rest⟩⟩⟩⟩
  · have hbound : last < room 0 := hlast
    have hsum : List.foldl (fun sum (x : Nat × Nat) => sum + x.1 * weight x.2) 0
        ([] : List Nat).zipIdx = 0 := rfl
    rw [hsum]
    omega
  · have ha := hfront a (by simp)
    have hbound : last < room 1 := hlast
    have hsum : List.foldl (fun sum (x : Nat × Nat) => sum + x.1 * weight x.2) 0 [a].zipIdx =
        a * weight 0 := by simp
    rw [hsum, hw0]
    omega
  · have ha := hfront a (by simp)
    have hb := hfront b (by simp)
    have hbound : last < room 2 := hlast
    have hsum : List.foldl (fun sum (x : Nat × Nat) => sum + x.1 * weight x.2) 0 [a, b].zipIdx =
        a * weight 0 + b * weight 1 := by simp
    rw [hsum, hw0, hw1]
    omega
  · have ha := hfront a (by simp)
    have hb := hfront b (by simp)
    have hc := hfront c (by simp)
    have hbound : last < room 3 := hlast
    have hsum : List.foldl (fun sum (x : Nat × Nat) => sum + x.1 * weight x.2) 0
        [a, b, c].zipIdx = a * weight 0 + b * weight 1 + c * weight 2 := by simp
    rw [hsum, hw0, hw1, hw2]
    omega
  · simp only [List.length_cons] at hcount
    omega

/-- Four bytes make a number of thirty-two bits. -/
theorem lt_of_bytes4? {text : List Char} {value : Nat} (hread : bytes4? text = some value) :
    value < bytes4Limit := by
  unfold bytes4? at hread
  obtain ⟨numbers, _, hlast⟩ := Option.bind_eq_some_iff.1 hread
  obtain ⟨last, _, hsum⟩ := Option.bind_eq_some_iff.1 hlast
  simp only at hsum
  split at hsum
  · cases hsum
  · rename_i hcount
    split at hsum
    · cases hsum
    · rename_i hfront
      split at hsum
      · cases hsum
      · rename_i hroom
        have hsmall : ∀ n ∈ numbers.dropLast, n ≤ 255 := by simpa using hfront
        rw [← Option.some.inj hsum]
        exact foldl_bytes_lt (fun i => Nat.pow 256 (3 - i)) (fun k => Nat.pow 256 (4 - k))
          ⟨rfl, rfl, rfl⟩ ⟨rfl, rfl, rfl, rfl⟩ (Nat.le_of_not_lt hcount) hsmall
          (Nat.lt_of_not_le hroom)

/-! ### Eight groups -/

/-- Groups in writing with colons between them. -/
def joinedGroups (groups : List Nat) : List Char := [':'].intercalate (groups.map hexOfNat)

theorem groups8Written_eq (groups : List Nat) :
    groups8Written groups =
      match longestRun groups with
      | some (start, length) =>
          joinedGroups (groups.take start) ++ [':', ':'] ++
            joinedGroups (groups.drop (start + length))
      | none => joinedGroups groups := rfl

/-- How many zero groups stand from a place on. -/
def zerosFrom (groups : List Nat) (i : Nat) : Nat :=
  ((groups.drop i).takeWhile (· == 0)).length

/-- The better of the longest run so far and the one at a place. -/
def betterRun (groups : List Nat) (best : Option (Nat × Nat)) (i : Nat) : Option (Nat × Nat) :=
  if zerosFrom groups i < 2 then best
  else
    match best with
    | some (_, most) => if most < zerosFrom groups i then some (i, zerosFrom groups i) else best
    | none => some (i, zerosFrom groups i)

theorem longestRun_eq_foldl (groups : List Nat) :
    longestRun groups = (List.range groups.length).foldl (betterRun groups) none := rfl

/-- A run of zeros that is long enough to be left out. -/
def IsRun (groups : List Nat) (best : Option (Nat × Nat)) : Prop :=
  ∀ i n, best = some (i, n) → 2 ≤ n ∧ n = zerosFrom groups i

theorem isRun_betterRun {groups : List Nat} {best : Option (Nat × Nat)}
    (hbest : IsRun groups best) (place : Nat) : IsRun groups (betterRun groups best place) := by
  intro i n hnext
  unfold betterRun at hnext
  split at hnext
  · exact hbest i n hnext
  · rename_i hlong
    split at hnext
    · split at hnext
      · cases hnext
        exact ⟨by omega, rfl⟩
      · exact hbest i n hnext
    · cases hnext
      exact ⟨by omega, rfl⟩

/-- The run that is left out has at least two groups, all of them zero. -/
theorem longestRun_eq_some {groups : List Nat} {start length : Nat}
    (hrun : longestRun groups = some (start, length)) :
    2 ≤ length ∧ length = zerosFrom groups start := by
  have hfold : ∀ (places : List Nat) (best : Option (Nat × Nat)), IsRun groups best →
      IsRun groups (places.foldl (betterRun groups) best) := by
    intro places
    induction places with
    | nil => exact fun best hbest => hbest
    | cons place rest ih => exact fun best hbest => ih _ (isRun_betterRun hbest place)
  have hnone : IsRun groups none := fun i n hnone => by cases hnone
  rw [longestRun_eq_foldl] at hrun
  exact hfold _ none hnone start length hrun

/-- The groups are what stands before the run, zeros, and what stands after it. -/
theorem eq_append_zeros {groups : List Nat} {start length : Nat}
    (hlength : length = zerosFrom groups start) :
    groups.take start ++ List.replicate length 0 ++ groups.drop (start + length) = groups := by
  have hzeros : (groups.drop start).takeWhile (· == 0) = List.replicate length 0 := by
    refine List.eq_replicate_iff.2 ⟨hlength.symm, fun n hn => ?_⟩
    simpa using List.mem_takeWhile_imp hn
  have hrest : (groups.drop start).dropWhile (· == 0) = groups.drop (start + length) := by
    have hsplit : (groups.drop start).takeWhile (· == 0) ++
        (groups.drop start).dropWhile (· == 0) = groups.drop start :=
      List.takeWhile_append_dropWhile
    rw [← List.drop_drop, ← hsplit, List.drop_left' hlength.symm, hsplit]
  calc groups.take start ++ List.replicate length 0 ++ groups.drop (start + length)
      = groups.take start ++ ((groups.drop start).takeWhile (· == 0) ++
          (groups.drop start).dropWhile (· == 0)) := by
        rw [hzeros, hrest, List.append_assoc]
    _ = groups := by rw [List.takeWhile_append_dropWhile, List.take_append_drop]

theorem ne_of_mem_hexOfNat {n : Nat} {c mark : Char} (hmark : hexValue? mark = none)
    (hc : c ∈ hexOfNat n) : c ≠ mark := by
  rintro rfl
  have hsome := hexValue?_isSome_of_mem_hexOfNat hc
  rw [hmark] at hsome
  cases hsome

/-- A group in writing is read as that group. -/
theorem group?_hexOfNat {n : Nat} (hn : n < 65536) : group? (hexOfNat n) = some n := by
  have hlength := length_hexOfNat_le hn
  have hne : ¬((hexOfNat n).isEmpty ∨ 4 < (hexOfNat n).length) := by
    rintro (hempty | hlong)
    · exact hexOfNat_ne_nil n (List.isEmpty_iff.1 hempty)
    · omega
  unfold group?
  rw [if_neg hne, mapM_hexValue?_eq_some fun c hc => hexValue?_isSome_of_mem_hexOfNat hc,
    Option.map_some, foldl_hexValue?_hexOfNat]

theorem joinedGroups_cons_cons (n m : Nat) (more : List Nat) :
    joinedGroups (n :: m :: more) = hexOfNat n ++ ':' :: joinedGroups (m :: more) := by
  unfold joinedGroups
  rw [List.map_cons, List.map_cons, List.intercalate_cons_cons, List.append_assoc]
  rfl

/-- Groups in writing begin with a digit of the first one. -/
theorem joinedGroups_cons_eq (n : Nat) (more : List Nat) :
    ∃ c rest, joinedGroups (n :: more) = c :: rest ∧ c ∈ hexOfNat n := by
  cases hdigits : hexOfNat n with
  | nil => exact absurd hdigits (hexOfNat_ne_nil n)
  | cons c digits =>
      cases more with
      | nil =>
          have hone : joinedGroups [n] = hexOfNat n := List.intercalate_singleton
          exact ⟨c, digits, hone.trans hdigits, List.mem_cons_self⟩
      | cons m others =>
          rw [joinedGroups_cons_cons, hdigits]
          exact ⟨c, _, rfl, List.mem_cons_self⟩

theorem fields_joinedGroups {groups : List Nat} (hne : groups ≠ []) :
    fields (· == ':') (joinedGroups groups) = groups.map hexOfNat := by
  apply fields_intercalate (by simpa using hne) rfl
  intro piece hpiece c hc
  obtain ⟨n, _, rfl⟩ := List.mem_map.1 hpiece
  rw [beq_eq_false_iff_ne]
  exact ne_of_mem_hexOfNat rfl hc

/-- Groups in writing are read as those groups. -/
theorem groupList?_joinedGroups (mayPoint : Bool) {groups : List Nat}
    (hsmall : ∀ n ∈ groups, n < 65536) :
    groupList? mayPoint (joinedGroups groups) = some groups := by
  by_cases hne : groups = []
  · rw [hne]
    rfl
  · have hempty : (joinedGroups groups).isEmpty = false := by
      have hfields := fields_joinedGroups hne
      cases hjoined : joinedGroups groups with
      | nil =>
          rw [hjoined, fields_nil] at hfields
          cases groups with
          | nil => exact absurd rfl hne
          | cons n more =>
              have hhead := (List.cons.inj hfields).1
              exact absurd hhead.symm (hexOfNat_ne_nil n)
      | cons c rest => rfl
    have hlast : (groups.map hexOfNat).getLast? = some (hexOfNat (groups.getLast hne)) := by
      rw [List.getLast?_map, List.getLast?_eq_getLast_of_ne_nil hne]
      rfl
    have hpoint : (hexOfNat (groups.getLast hne)).contains '.' = false := by
      rw [List.contains_eq_mem, decide_eq_false_iff_not]
      exact fun hin => ne_of_mem_hexOfNat rfl hin rfl
    have hfront : (groups.map hexOfNat).dropLast.mapM group? = some groups.dropLast := by
      rw [← List.map_dropLast, List.mapM_map]
      have hread : ∀ n ∈ groups.dropLast, group? (hexOfNat n) = some (id n) :=
        fun n hn => group?_hexOfNat (hsmall n (List.dropLast_subset _ hn))
      have hmap := mapM_eq_some_map hread
      rwa [List.map_id] at hmap
    unfold groupList?
    rw [hempty, fields_joinedGroups hne]
    simp only [Bool.false_eq_true, if_false, hfront, hlast, Option.bind_eq_bind, Option.bind_some,
      Option.getD_some, hpoint, Bool.and_false,
      group?_hexOfNat (hsmall _ (List.getLast_mem hne)), Option.pure_def,
      List.dropLast_append_getLast hne]

/-- A colon that no other one follows does not cut. -/
theorem cutColons_cons {c : Char} {rest : List Char} (hpair : c ≠ ':' ∨ rest.head? ≠ some ':') :
    cutColons (c :: rest) = (cutColons rest).map fun (before, after) => (c :: before, after) := by
  rw [cutColons]
  rintro others rfl rfl
  rcases hpair with hc | hrest
  · exact hc rfl
  · exact hrest rfl

/-- Groups in writing hold no pair of colons and do not end in a colon, so what
comes after them is cut as if it stood alone. -/
theorem cutColons_joinedGroups_append (groups : List Nat) (rest : List Char) :
    cutColons (joinedGroups groups ++ rest) =
      (cutColons rest).map fun (before, after) => (joinedGroups groups ++ before, after) := by
  have hpiece : ∀ (piece tail : List Char), (∀ c ∈ piece, c ≠ ':') →
      cutColons (piece ++ tail) =
        (cutColons tail).map fun (before, after) => (piece ++ before, after) := by
    intro piece tail hcs
    induction piece with
    | nil => simp
    | cons c more ih =>
        rw [List.cons_append, cutColons_cons (Or.inl (hcs c List.mem_cons_self)),
          ih fun d hd => hcs d (List.mem_cons_of_mem c hd), Option.map_map]
        rfl
  induction groups with
  | nil => simp [joinedGroups, List.intercalate]
  | cons n more ih =>
      have hn : ∀ c ∈ hexOfNat n, c ≠ ':' := fun c hc => ne_of_mem_hexOfNat rfl hc
      cases more with
      | nil =>
          have hone : joinedGroups [n] = hexOfNat n := List.intercalate_singleton
          rw [hone, hpiece _ _ hn]
      | cons m others =>
          have hhead : (joinedGroups (m :: others) ++ rest).head? ≠ some ':' := by
            obtain ⟨c, tail, heq, hc⟩ := joinedGroups_cons_eq m others
            rw [heq]
            intro hcolon
            exact ne_of_mem_hexOfNat rfl hc (Option.some.inj hcolon)
          rw [joinedGroups_cons_cons, List.append_assoc, hpiece _ _ hn, List.cons_append,
            cutColons_cons (Or.inr hhead), ih]
          cases cutColons rest with
          | none => rfl
          | some pieces => simp

/-- Eight groups in writing are read as those groups. -/
theorem groups8?_groups8Written {groups : List Nat} (hlength : groups.length = 8)
    (hsmall : ∀ n ∈ groups, n < 65536) : groups8? (groups8Written groups) = some groups := by
  rw [groups8Written_eq]
  cases hrun : longestRun groups with
  | none =>
      have hcut : cutColons (joinedGroups groups) = none := by
        have happend := cutColons_joinedGroups_append groups []
        rwa [List.append_nil] at happend
      unfold groups8?
      simp only [hcut, groupList?_joinedGroups true hsmall, Option.bind_eq_bind, Option.bind_some]
      exact if_pos hlength
  | some run =>
      obtain ⟨start, length⟩ := run
      obtain ⟨hlong, hzeros⟩ := longestRun_eq_some hrun
      have hparts := eq_append_zeros hzeros
      have hcount : (groups.take start).length + length + (groups.drop (start + length)).length =
          8 := by
        have hlengths := congrArg List.length hparts
        rwa [List.length_append, List.length_append, List.length_replicate, hlength] at hlengths
      have hcut : cutColons (joinedGroups (groups.take start) ++ [':', ':'] ++
          joinedGroups (groups.drop (start + length))) =
          some (joinedGroups (groups.take start), joinedGroups (groups.drop (start + length))) := by
        rw [List.append_assoc, cutColons_joinedGroups_append]
        simp [cutColons]
      have hfront : groupList? false (joinedGroups (groups.take start)) =
          some (groups.take start) :=
        groupList?_joinedGroups false fun n hn => hsmall n (List.mem_of_mem_take hn)
      have hback : groupList? true (joinedGroups (groups.drop (start + length))) =
          some (groups.drop (start + length)) :=
        groupList?_joinedGroups true fun n hn => hsmall n (List.mem_of_mem_drop hn)
      have hgap : 8 - ((groups.take start).length + (groups.drop (start + length)).length) =
          length := by omega
      unfold groups8?
      simp only [hcut, hfront, hback, Option.bind_eq_bind, Option.bind_some, hgap]
      rw [if_neg (by omega), hparts]

/-! ### What reading groups promises -/

theorem lt_of_hexValue? {c : Char} {v : Nat} (hc : hexValue? c = some v) : v < 16 := by
  unfold hexValue? at hc
  simp only at hc
  split at hc
  · cases hc
    omega
  · split at hc
    · cases hc
      omega
    · split at hc
      · cases hc
        omega
      · cases hc

theorem foldl_digits_lt {values : List Nat} (hvalues : ∀ v ∈ values, v < 16) (n : Nat) :
    values.foldl (fun n v => 16 * n + v) n < (n + 1) * Nat.pow 16 values.length := by
  induction values generalizing n with
  | nil => simp
  | cons v rest ih =>
      have hv := hvalues v List.mem_cons_self
      have hpow : Nat.pow 16 (v :: rest).length = Nat.pow 16 rest.length * 16 := rfl
      calc rest.foldl (fun n v => 16 * n + v) (16 * n + v)
          < (16 * n + v + 1) * Nat.pow 16 rest.length :=
            ih (fun u hu => hvalues u (List.mem_cons_of_mem v hu)) _
        _ ≤ ((n + 1) * 16) * Nat.pow 16 rest.length := Nat.mul_le_mul_right _ (by omega)
        _ = (n + 1) * Nat.pow 16 (v :: rest).length := by
            rw [hpow, Nat.mul_comm (Nat.pow 16 rest.length), Nat.mul_assoc]

theorem lt_of_group? {text : List Char} {n : Nat} (hread : group? text = some n) : n < 65536 := by
  unfold group? at hread
  split at hread
  · cases hread
  · rename_i hshape
    obtain ⟨values, hvalues, rfl⟩ := Option.map_eq_some_iff.1 hread
    have hsmall : ∀ v ∈ values, v < 16 := by
      intro v hv
      obtain ⟨c, _, hc⟩ := exists_of_mem_mapM hvalues hv
      exact lt_of_hexValue? hc
    have hshort : values.length ≤ 4 := by
      rw [length_of_mapM hvalues]
      omega
    calc values.foldl (fun n v => 16 * n + v) 0 < (0 + 1) * Nat.pow 16 values.length :=
          foldl_digits_lt hsmall 0
      _ ≤ (0 + 1) * Nat.pow 16 4 := Nat.mul_le_mul_left _ (Nat.pow_le_pow_right (by omega) hshort)

theorem lt_of_mem_pointed? {text : List Char} {groups : List Nat}
    (hread : pointed? text = some groups) {n : Nat} (hn : n ∈ groups) : n < 65536 := by
  unfold pointed? at hread
  simp only at hread
  split at hread
  · cases hread
  · obtain ⟨values, hvalues, hgroups⟩ := Option.bind_eq_some_iff.1 hread
    have hsmall : ∀ v ∈ values, v ≤ 255 := by
      intro v hv
      obtain ⟨part, _, hpart⟩ := exists_of_mem_mapM hvalues hv
      split at hpart
      · cases hpart
      · split at hpart
        · rename_i hbyte
          cases hpart
          exact readNat_le hbyte
        · cases hpart
    split at hgroups
    · rename_i a b c d
      cases hgroups
      have ha := hsmall a (by simp)
      have hb := hsmall b (by simp)
      have hc := hsmall c (by simp)
      have hd := hsmall d (by simp)
      rcases List.mem_cons.1 hn with rfl | hn
      · omega
      · rw [List.mem_singleton.1 hn]
        omega
    · cases hgroups

theorem lt_of_mem_groupList? {mayPoint : Bool} {text : List Char} {groups : List Nat}
    (hread : groupList? mayPoint text = some groups) {n : Nat} (hn : n ∈ groups) :
    n < 65536 := by
  unfold groupList? at hread
  split at hread
  · cases hread
    cases hn
  · obtain ⟨front, hfront, hlast⟩ := Option.bind_eq_some_iff.1 hread
    have hsmall : ∀ m ∈ front, m < 65536 := by
      intro m hm
      obtain ⟨part, _, hpart⟩ := exists_of_mem_mapM hfront hm
      exact lt_of_group? hpart
    simp only at hlast
    split at hlast
    · obtain ⟨pair, hpair, heq⟩ := Option.bind_eq_some_iff.1 hlast
      cases heq
      rcases List.mem_append.1 hn with hin | hin
      · exact hsmall n hin
      · exact lt_of_mem_pointed? hpair hin
    · obtain ⟨one, hone, heq⟩ := Option.bind_eq_some_iff.1 hlast
      cases heq
      rcases List.mem_append.1 hn with hin | hin
      · exact hsmall n hin
      · rw [List.mem_singleton.1 hin]
        exact lt_of_group? hone

/-- What is read as groups is eight groups of sixteen bits. -/
theorem of_groups8? {text : List Char} {groups : List Nat}
    (hread : groups8? text = some groups) :
    groups.length = 8 ∧ ∀ n ∈ groups, n < 65536 := by
  unfold groups8? at hread
  split at hread
  · obtain ⟨front, hfront, hrest⟩ := Option.bind_eq_some_iff.1 hread
    obtain ⟨back, hback, heq⟩ := Option.bind_eq_some_iff.1 hrest
    simp only at heq
    split at heq
    · cases heq
    · rename_i hcount
      cases heq
      refine ⟨?_, fun n hn => ?_⟩
      · rw [List.length_append, List.length_append, List.length_replicate]
        omega
      · rcases List.mem_append.1 hn with hn | hn
        · rcases List.mem_append.1 hn with hn | hn
          · exact lt_of_mem_groupList? hfront hn
          · rw [List.eq_of_mem_replicate hn]
            omega
        · exact lt_of_mem_groupList? hback hn
  · obtain ⟨all, hall, heq⟩ := Option.bind_eq_some_iff.1 hread
    split at heq
    · rename_i hlength
      cases heq
      exact ⟨hlength, fun n hn => lt_of_mem_groupList? hall hn⟩
    · cases heq

/-! ### Hosts as they are read -/

/-- What every host of a scheme that knows about hosts keeps to. -/
def IsSettled : Host → Prop
  | name text => text.toList ≠ [] ∧ endsInNumber text.toList = false ∧
      ∀ c ∈ text.toList, Domain.IsSettled c ∧ isForbidden c = false
  | bytes4 value => value < bytes4Limit
  | groups8 groups => groups.length = 8 ∧ ∀ n ∈ groups, n < 65536

theorem isSettled_of_bracketed? {text : List Char} {host : Host}
    (hread : bracketed? text = some (.ok host)) : host.IsSettled := by
  unfold bracketed? at hread
  split at hread
  · split at hread
    · split at hread
      · rename_i hgroups
        cases hread
        exact of_groups8? hgroups
      · cases hread
    · cases hread
  · cases hread

/-- What is read as a host is settled. -/
theorem isSettled_of_read {text : List Char} {host : Host} (hread : read text = .ok host) :
    host.IsSettled := by
  unfold read at hread
  split at hread
  · rename_i hbrackets
    rw [hread] at hbrackets
    exact isSettled_of_bracketed? hbrackets
  · split at hread
    · cases hread
    · rename_i cs hname
      split at hread
      · cases hread
      · rename_i hforbidden
        split at hread
        · cases hread
        · rename_i hempty
          split at hread
          · split at hread
            · rename_i hbytes
              cases hread
              exact lt_of_bytes4? hbytes
            · cases hread
          · rename_i hnumber
            cases hread
            obtain ⟨decoded, _, hascii⟩ := Option.bind_eq_some_iff.1 hname
            simp only [IsSettled, String.toList_ofList]
            refine ⟨by simpa using hempty, by simpa using hnumber, fun c hc => ?_⟩
            refine ⟨Domain.isSettled_of_mem_toAscii? hascii hc, ?_⟩
            have hall : ∀ d ∈ cs, isForbidden d = false := by simpa using hforbidden
            exact hall c hc

/-- The host of a name in ASCII: four bytes when its last label is a number. -/
def ofAscii (cs : List Char) : Except AddressFault Host :=
  if endsInNumber cs then
    match bytes4? cs with
    | some value => .ok (bytes4 value)
    | none => .error .badBytes4
  else .ok (name (String.ofList cs))

/-- A settled text of allowed characters is read as it is, if it is read. -/
theorem ofAscii_of_read {cs : List Char} {host : Host}
    (hcs : ∀ c ∈ cs, Domain.IsSettled c ∧ isForbidden c = false) (hread : read cs = .ok host) :
    ofAscii cs = .ok host := by
  have hbracket : bracketed? cs = none := by
    unfold bracketed?
    split
    · exact absurd (hcs '[' List.mem_cons_self).2 (by decide)
    · rfl
  have hpercent : ∀ c ∈ cs, c ≠ '%' := by
    rintro c hc rfl
    exact absurd (hcs '%' hc).2 (by decide)
  have hnone : cs.any isForbidden = false := by
    rw [List.any_eq_false]
    intro c hc
    rw [(hcs c hc).2]
    exact Bool.false_ne_true
  unfold read at hread
  rw [hbracket, unescape_eq_encode hpercent, decode?_encode, Option.bind_some] at hread
  simp only at hread
  split at hread
  · cases hread
  · rename_i again hascii
    obtain rfl := Domain.toAscii?_of_isSettled (fun c hc => (hcs c hc).1) hascii
    rw [hnone] at hread
    simp only [Bool.false_eq_true, if_false] at hread
    split at hread
    · cases hread
    · exact hread

theorem isSettled_of_isDigit {c : Char} (hc : c.isDigit = true) :
    Domain.IsSettled c ∧ isForbidden c = false := by
  have hbounds := toNat_of_isDigit hc
  refine forall_ascii (p := fun d => d.isDigit = true →
    Domain.IsSettled d ∧ isForbidden d = false) ?_ (by omega) hc
  unfold Domain.IsSettled Domain.IsSmall
  decide

theorem isSettled_of_mem_bytes4Written {value : Nat} {c : Char} (hc : c ∈ bytes4Written value) :
    Domain.IsSettled c ∧ isForbidden c = false := by
  rw [bytes4Written_eq] at hc
  rcases mem_intercalate hc with rfl | ⟨piece, hpiece, hin⟩
  · exact ⟨⟨by decide, Or.inl (by decide)⟩, by decide⟩
  · obtain ⟨n, _, rfl⟩ := List.mem_map.1 hpiece
    exact isSettled_of_isDigit (isDigit_of_mem_decimal hin)

/-- A settled host is read from its own writing as itself, if it is read. -/
theorem eq_of_read_written {host again : Host} (hhost : host.IsSettled)
    (hread : read host.written = .ok again) : again = host := by
  cases host with
  | name text =>
      obtain ⟨_, hnumber, hchars⟩ := hhost
      have hascii := ofAscii_of_read hchars hread
      unfold ofAscii at hascii
      rw [hnumber, String.ofList_toList] at hascii
      cases hascii
      rfl
  | bytes4 value =>
      have hascii := ofAscii_of_read (fun c hc => isSettled_of_mem_bytes4Written hc) hread
      unfold ofAscii at hascii
      rw [endsInNumber_bytes4Written, bytes4?_bytes4Written hhost] at hascii
      cases hascii
      rfl
  | groups8 groups =>
      obtain ⟨hlength, hsmall⟩ := hhost
      have hbracket : bracketed? (written (groups8 groups)) = some (.ok (groups8 groups)) := by
        have hlast : (groups8Written groups ++ [']']).getLast? = some ']' :=
          List.getLast?_concat
        unfold written bracketed?
        simp only [List.cons_append, hlast, if_true, List.dropLast_concat,
          groups8?_groups8Written hlength hsmall]
      unfold read at hread
      rw [hbracket] at hread
      cases hread
      rfl

end SignedAccess.Host
