/-
# Whose name an address gives

A user name stands before the last `@` of an authority, and an authority ends at the first
slash after it. So a path that begins with a slash adds no user name to a base address,
whatever else it holds: `userInfo?_read_append` says that an address that is read from both
names a user only if the base address does. Blanks at the end of the base address make the
one difference between reading it alone and before a path, and they are no part of a name.
-/

import SignedAccess.Proofs.Address.Reread

namespace SignedAccess

open Text

namespace Text

/-! ### Cuts in a longer text -/

/-- Dropping from the front stops at an unmarked character. -/
theorem dropWhile_append_cons {isMark : Char → Bool} {stop : Char} (hstop : isMark stop = false)
    (front rest : List Char) :
    (front ++ stop :: rest).dropWhile isMark = front.dropWhile isMark ++ stop :: rest := by
  induction front with
  | nil => exact List.dropWhile_cons_of_neg (by simp [hstop])
  | cons c front ih =>
      cases hc : isMark c <;> simp [hc, ih]

/-- Dropping from the end stops at an unmarked character. -/
theorem dropEnd_append_cons {isMark : Char → Bool} {stop : Char} (hstop : isMark stop = false)
    (front rest : List Char) :
    dropEnd isMark (front ++ stop :: rest) = front ++ stop :: dropEnd isMark rest := by
  unfold dropEnd
  rw [List.reverse_append, List.reverse_cons, List.append_assoc, List.singleton_append,
    dropWhile_append_cons hstop]
  simp

/-- What is dropped from the end is marked. -/
theorem exists_dropEnd_append (isMark : Char → Bool) (cs : List Char) :
    ∃ dropped, cs = dropEnd isMark cs ++ dropped ∧ ∀ c ∈ dropped, isMark c = true := by
  refine ⟨(cs.reverse.takeWhile isMark).reverse, ?_, fun c hc => ?_⟩
  · rw [dropEnd, ← List.reverse_append, List.takeWhile_append_dropWhile, List.reverse_reverse]
  · exact List.mem_takeWhile_imp (List.mem_reverse.1 hc)

/-- More text without a mark moves no cut. -/
theorem cutLast_append_of_none {isMark : Char → Bool} (cs : List Char) {more : List Char}
    (hmore : ∀ c ∈ more, isMark c = false) :
    cutLast isMark (cs ++ more) =
      (cutLast isMark cs).map fun (before, after) => (before, after ++ more) := by
  have hall : ∀ c ∈ more.reverse, (!isMark c) = true := by
    intro c hc
    rw [hmore c (List.mem_reverse.1 hc), Bool.not_false]
  unfold cutLast
  rw [List.reverse_append, List.span_eq_takeWhile_dropWhile, List.span_eq_takeWhile_dropWhile,
    List.takeWhile_append_of_pos hall, List.dropWhile_append_of_pos hall]
  cases cs.reverse.dropWhile (!isMark ·) <;> simp

end Text

namespace Address

/-- User name and password, if the address names a user. -/
def userInfo? (a : Address) : Option UserInfo := a.authority.bind (·.userInfo)

/-! ### What is read as a user name -/

/-- The user name and password that begin a text. -/
def userInfoIn (text : List Char) : Option UserInfo :=
  (cutLast (· == '@') (text.takeWhile fun c => !endsAuthority true c)).bind
    fun (before, _) => readUserInfo? before

theorem userInfo_of_readHostAndPort {scheme : String} {info : Option UserInfo}
    {text rest : List Char} {authority : Authority} (hspecial : isSpecial scheme = true)
    (hread : readHostAndPort scheme info text = .ok (authority, rest)) :
    authority.userInfo = info := by
  unfold readHostAndPort at hread
  simp only [hspecial, true_and, if_true] at hread
  split at hread
  · cases hread
  · obtain ⟨host, -, hread⟩ := bind_eq_ok.1 hread
    split at hread
    · cases hread
    · split at hread
      · obtain ⟨⟨port, left⟩, -, heq⟩ := bind_eq_ok.1 hread
        cases heq
        rfl
      · cases hread
        rfl

theorem userInfo_of_readAuthority {scheme : String} {text rest : List Char}
    {authority : Authority} (hspecial : isSpecial scheme = true)
    (hread : readAuthority scheme text = .ok (authority, rest)) :
    authority.userInfo = userInfoIn text := by
  rw [readAuthority_eq, hspecial] at hread
  unfold userInfoIn
  split at hread
  · rename_i hcut
    rw [hcut]
    split at hread
    · exact userInfo_of_readHostAndPort hspecial hread
    · cases hread
  · rename_i before after _ hcut
    rw [hcut]
    exact userInfo_of_readHostAndPort hspecial hread
  · rename_i hcut
    rw [hcut]
    exact userInfo_of_readHostAndPort hspecial hread

/-- Blanks and a path after a text leave its user name as it is. -/
theorem userInfoIn_append (text : List Char) {blanks : List Char}
    (hblanks : ∀ c ∈ blanks, c.toNat ≤ 0x20) (path : List Char) :
    userInfoIn (text ++ (blanks ++ '/' :: path)) = userInfoIn text := by
  have hinside : ∀ c ∈ blanks, (!endsAuthority true c) = true ∧ (c == '@') = false := by
    intro c hc
    have hlow := hblanks c hc
    refine forall_ascii (p := fun d => d.toNat ≤ 0x20 →
      (!endsAuthority true d) = true ∧ (d == '@') = false) ?_ (by omega) hlow
    decide
  have hslash : (!endsAuthority true '/') = false := rfl
  have hback : (blanks ++ '/' :: path).takeWhile (fun c => !endsAuthority true c) = blanks :=
    takeWhile_append_stop (fun c hc => (hinside c hc).1) hslash
  unfold userInfoIn
  rw [List.takeWhile_append, hback]
  split
  · rename_i hlength
    have hwhole := (List.takeWhile_prefix fun c => !endsAuthority true c).eq_of_length hlength
    rw [hwhole, cutLast_append_of_none _ fun c hc => (hinside c hc).2, Option.bind_map]
    rfl
  · rfl

/-! ### Whole addresses -/

/-- A character that counts inside a text. -/
def counts (c : Char) : Bool := c != '\t' && c != '\n' && c != '\r'

/-- The text without what does not count around it and inside it. -/
def cleaned (text : List Char) : List Char := (dropEnds (·.toNat ≤ 0x20) text).filter counts

theorem scheme_of_read {text : List Char} {a : Address} (hread : read text = .ok a) :
    ∃ rest, readScheme? (cleaned text) = some (a.scheme, rest) := by
  unfold read at hread
  simp only at hread
  split at hread
  case h_1 => cases hread
  case h_2 scheme rest hscheme =>
    refine ⟨rest, hscheme.trans ?_⟩
    split at hread
    · rename_i hfile
      rw [scheme_of_readFile hread, hfile]
    · split at hread
      · obtain ⟨⟨authority, after⟩, -, heq⟩ := bind_eq_ok.1 hread
        cases heq
        rfl
      · split at hread
        · obtain ⟨⟨authority, after⟩, -, heq⟩ := bind_eq_ok.1 hread
          cases heq
          rfl
        · cases hread
          rfl
        · cases hread
          rfl

/-- An address whose scheme has a port of its own names the user that its text does. -/
theorem userInfo?_of_read {text rest : List Char} {a : Address} {scheme : String}
    (hscheme : hasDefaultPort scheme = true)
    (hcleaned : readScheme? (cleaned text) = some (scheme, rest)) (hread : read text = .ok a) :
    rest.dropWhile (fun c => c == '/' || c == '\\') ≠ [] ∧
      a.userInfo? = userInfoIn (rest.dropWhile fun c => c == '/' || c == '\\') := by
  obtain ⟨hspecial, hfile⟩ := isSpecial_of_hasDefaultPort hscheme
  unfold read at hread
  change readScheme? ((dropEnds (·.toNat ≤ 0x20) text).filter fun c =>
    c != '\t' && c != '\n' && c != '\r') = _ at hcleaned
  simp only [hcleaned, hfile, hspecial, if_false, if_true] at hread
  obtain ⟨⟨authority, after⟩, hauthority, heq⟩ := bind_eq_ok.1 hread
  cases heq
  refine ⟨?_, userInfo_of_readAuthority hspecial hauthority⟩
  intro hnil
  rw [hnil, readAuthority_eq, hspecial] at hauthority
  simp [cutLast, readHostAndPort, hspecial, spanHost] at hauthority

theorem readScheme?_append_text {text rest : List Char} {scheme : String}
    (hread : readScheme? text = some (scheme, rest)) (more : List Char) :
    readScheme? (text ++ more) = some (scheme, rest ++ more) := by
  cases text with
  | nil => cases hread
  | cons c others =>
      unfold readScheme? at hread ⊢
      rw [List.span_eq_takeWhile_dropWhile] at hread
      simp only [List.cons_append] at hread ⊢
      split at hread
      case isFalse => cases hread
      case isTrue halpha =>
        split at hread
        case h_2 => cases hread
        case h_1 name after hcut =>
          obtain ⟨rfl, rfl⟩ := Prod.mk.inj (Option.some.inj hread)
          obtain ⟨hname, hafter⟩ := Prod.mk.inj hcut
          have hchars : ∀ d ∈ name, isSchemeChar d = true := fun d hd =>
            List.mem_takeWhile_imp (hname ▸ hd)
          have htext : c :: (others ++ more) = name ++ ':' :: (after ++ more) := by
            rw [← List.cons_append, ← List.takeWhile_append_dropWhile (p := isSchemeChar)
              (l := c :: others), hname, hafter, List.append_assoc, List.cons_append]
          rw [if_pos halpha, htext, span_append_stop hchars (by decide)]
          rfl

/-- Before a path a text is read as it is alone, but for the blanks at its end. -/
theorem cleaned_append (base path : List Char) :
    ∃ blanks rest, cleaned (base ++ '/' :: path) = cleaned base ++ (blanks ++ '/' :: rest) ∧
      ∀ c ∈ blanks, c.toNat ≤ 0x20 := by
  have hslash : decide ('/'.toNat ≤ 0x20) = false := by decide
  obtain ⟨dropped, hdropped, hlow⟩ :=
    exists_dropEnd_append (fun c => decide (c.toNat ≤ 0x20))
      (base.dropWhile fun c => decide (c.toNat ≤ 0x20))
  refine ⟨dropped.filter counts, (dropEnd (fun c => decide (c.toNat ≤ 0x20)) path).filter counts,
    ?_, fun c hc => of_decide_eq_true (hlow c (List.mem_of_mem_filter hc))⟩
  unfold cleaned dropEnds
  rw [dropWhile_append_cons hslash, dropEnd_append_cons hslash]
  conv_lhs => rw [hdropped]
  rw [List.append_assoc, List.filter_append, List.filter_append]
  rfl

/-- A path that begins with a slash adds no user to a base address that names none. -/
theorem userInfo?_read_append {base path : List Char} {a whole : Address}
    (hbase : read base = .ok a) (hnone : a.userInfo? = none)
    (hwhole : read (base ++ '/' :: path) = .ok whole)
    (hscheme : hasDefaultPort whole.scheme = true) : whole.userInfo? = none := by
  obtain ⟨rest, hfront⟩ := scheme_of_read hbase
  obtain ⟨blanks, back, hcleaned, hblanks⟩ := cleaned_append base path
  have hboth := readScheme?_append_text hfront (blanks ++ '/' :: back)
  rw [← hcleaned] at hboth
  obtain ⟨left, hsame⟩ := scheme_of_read hwhole
  obtain ⟨hequal, -⟩ := Prod.mk.inj (Option.some.inj (hsame.symm.trans hboth))
  rw [hequal] at hscheme
  obtain ⟨hne, hinfo⟩ := userInfo?_of_read hscheme hfront hbase
  obtain ⟨-, hwholeInfo⟩ := userInfo?_of_read hscheme hboth hwhole
  rw [hwholeInfo, List.dropWhile_append, if_neg (by simpa using hne), userInfoIn_append _ hblanks,
    ← hinfo, hnone]

end Address

end SignedAccess
