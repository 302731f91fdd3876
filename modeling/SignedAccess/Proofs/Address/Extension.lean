/-
# Addresses with more at their end

From the first question mark or number sign on an address is all query and fragment. So
what is added at the end of a text that has one of the two comes out at the end of the
query or the fragment and changes nothing else: not whether the text is an address, nor
its host, nor its path. `exists_read_append` says so for every text, whatever schemes,
hosts and dot segments it holds, and `written_extended` that writing the longer address
adds the same at the end again.
-/

import SignedAccess.Proofs.Address.UserInfo

namespace SignedAccess.Address

open Text

/-! ### Longer addresses -/

/-- A visible ASCII character that every query and every fragment holds as it is. -/
def staysInTail (c : Char) : Bool :=
  decide (c.toNat < 0x80) &&
    visibleExcept ['"', '#', '\'', '<', '>', '\x60'] (UInt8.ofNat c.toNat)

theorem of_staysInTail {c : Char} (hc : staysInTail c = true) :
    c.toNat < 0x80 ∧ inFragment (UInt8.ofNat c.toNat) = true ∧
      inQuery (UInt8.ofNat c.toNat) = true ∧ inSpecialQuery (UInt8.ofNat c.toNat) = true ∧
      c ≠ '#' ∧ 0x20 < c.toNat ∧ counts c = true := by
  have hlow : c.toNat < 0x80 := of_decide_eq_true (Bool.and_eq_true_iff.1 hc).1
  refine ⟨hlow, forall_ascii (p := fun d => staysInTail d = true →
    inFragment (UInt8.ofNat d.toNat) = true ∧ inQuery (UInt8.ofNat d.toNat) = true ∧
      inSpecialQuery (UInt8.ofNat d.toNat) = true ∧ d ≠ '#' ∧ 0x20 < d.toNat ∧
      counts d = true) ?_ hlow hc⟩
  decide

/-- Query and fragment with more at the end of the fragment, or of the query where there
is no fragment. -/
def longerTail (tail : List Char) : Option String × Option String → Option String × Option String
  | (query, some fragment) => (query, some (fragment ++ String.ofList tail))
  | (query, none) => (query.map (· ++ String.ofList tail), none)

/-- The address with more at the end of its fragment, or of its query where it has no
fragment. -/
def extended (a : Address) (tail : List Char) : Address :=
  { a with
    query := (longerTail tail (a.query, a.fragment)).1
    fragment := (longerTail tail (a.query, a.fragment)).2 }

/-- The address has a query or a fragment. -/
def HasTail (a : Address) : Prop := a.query.isSome = true ∨ a.fragment.isSome = true

section

variable (a : Address) (tail : List Char)

@[simp]
theorem scheme_extended : (a.extended tail).scheme = a.scheme := rfl

@[simp]
theorem host?_extended : (a.extended tail).host? = a.host? := rfl

@[simp]
theorem port?_extended : (a.extended tail).port? = a.port? := rfl

end

/-- Up to its fragment a longer address is longer only where it has no fragment. -/
theorem writtenWithoutFragment_extended {a : Address} (htail : a.HasTail) (tail : List Char) :
    (a.extended tail).writtenWithoutFragment =
      a.writtenWithoutFragment ++ if a.fragment.isSome then [] else tail := by
  have hfront : (a.extended tail).authorityWritten = a.authorityWritten := rfl
  have hpath : (a.extended tail).path = a.path := rfl
  rw [writtenWithoutFragment, scheme_extended, hfront, hpath, writtenWithoutFragment]
  cases hfragment : a.fragment with
  | some fragment => simp [queryWritten, extended, longerTail, hfragment]
  | none =>
      have hquery : a.query.isSome = true := by simpa [HasTail, hfragment] using htail
      obtain ⟨query, hquery⟩ := Option.isSome_iff_exists.1 hquery
      simp [queryWritten, extended, longerTail, hfragment, hquery]

/-- A longer address is written with more at its end. -/
theorem written_extended {a : Address} (htail : a.HasTail) (tail : List Char) :
    (a.extended tail).written = a.written ++ tail := by
  rw [written, writtenWithoutFragment_extended htail, written]
  cases hfragment : a.fragment with
  | some fragment => simp [extended, longerTail, hfragment]
  | none => simp [extended, longerTail, hfragment]

/-! ### Texts with a mark -/

/-- The text has a question mark or a number sign. -/
def HasMark (text : List Char) : Prop := ∃ c ∈ text, endsPath c = true

/-- Where a mark is no more of a kind, the longest beginning of that kind ends before what
is added. -/
theorem takeWhile_append_of_hasMark {p : Char → Bool} {text : List Char}
    (hp : ∀ c, endsPath c = true → p c = false) (hmark : HasMark text) (tail : List Char) :
    (text ++ tail).takeWhile p = text.takeWhile p := by
  obtain ⟨c, hc, hends⟩ := hmark
  obtain ⟨front, back, rfl⟩ := List.append_of_mem hc
  have hstop : ¬p c = true := by simp [hp c hends]
  rw [List.append_assoc, List.cons_append, List.takeWhile_append, List.takeWhile_append,
    List.takeWhile_cons_of_neg hstop, List.takeWhile_cons_of_neg hstop]

theorem dropWhile_append_of_hasMark {p : Char → Bool} {text : List Char}
    (hp : ∀ c, endsPath c = true → p c = false) (hmark : HasMark text) (tail : List Char) :
    (text ++ tail).dropWhile p = text.dropWhile p ++ tail ∧ HasMark (text.dropWhile p) := by
  obtain ⟨c, hc, hends⟩ := hmark
  obtain ⟨front, back, rfl⟩ := List.append_of_mem hc
  rw [List.append_assoc, List.cons_append, dropWhile_append_cons (hp c hends),
    dropWhile_append_cons (hp c hends)]
  exact ⟨by simp, c, by simp, hends⟩

theorem HasMark.append_left {text : List Char} (hmark : HasMark text) (front : List Char) :
    HasMark (front ++ text) := by
  obtain ⟨c, hc, hends⟩ := hmark
  exact ⟨c, List.mem_append_right front hc, hends⟩

theorem HasMark.of_cons {c : Char} {rest : List Char} (hmark : HasMark (c :: rest))
    (hc : endsPath c = false) : HasMark rest := by
  obtain ⟨d, hd, hends⟩ := hmark
  rcases List.mem_cons.1 hd with rfl | hd
  · rw [hc] at hends
    cases hends
  · exact ⟨d, hd, hends⟩

theorem HasMark.ne_nil {text : List Char} (hmark : HasMark text) : text ≠ [] := by
  rintro rfl
  obtain ⟨c, hc, -⟩ := hmark
  cases hc

/-- After its path a text goes on with a mark, and so does a longer one. -/
theorem exists_mark {text : List Char} (hmark : HasMark text) (tail : List Char) :
    (text ++ tail).takeWhile (fun c => !endsPath c) = text.takeWhile (fun c => !endsPath c) ∧
      ∃ mark rest, endsPath mark = true ∧
        text.dropWhile (fun c => !endsPath c) = mark :: rest ∧
        (text ++ tail).dropWhile (fun c => !endsPath c) = mark :: (rest ++ tail) := by
  have hstop : ∀ c, endsPath c = true → (!endsPath c) = false :=
    fun c hc => by rw [hc, Bool.not_true]
  obtain ⟨hrest, hleft⟩ := dropWhile_append_of_hasMark hstop hmark tail
  refine ⟨takeWhile_append_of_hasMark hstop hmark tail, ?_⟩
  obtain ⟨mark, rest, hcons⟩ := List.exists_cons_of_ne_nil hleft.ne_nil
  have hhead := List.head_dropWhile_not (fun c => !endsPath c) hleft.ne_nil
  exact ⟨mark, rest, by simpa [hcons] using hhead, hcons, by rw [hrest, hcons, List.cons_append]⟩

theorem eq_or_eq_of_endsPath {c : Char} (hc : endsPath c = true) : c = '?' ∨ c = '#' := by
  simpa [endsPath] using hc

/-- A mark ends an authority, and is part of no scheme, no port and no slashes. -/
theorem of_endsPath {c : Char} (hc : endsPath c = true) :
    (∀ special, endsAuthority special c = true) ∧ isSchemeChar c = false ∧ c.isDigit = false ∧
      (c == '/' || c == '\\') = false ∧ isSlash true c = false ∧ c ≠ ':' ∧
      counts c = true ∧ 0x20 < c.toNat := by
  rcases eq_or_eq_of_endsPath hc with rfl | rfl <;> decide

/-- An address with a query or a fragment is written with a mark. -/
theorem hasMark_written {a : Address} (htail : a.HasTail) : HasMark a.written := by
  rcases htail with hquery | hfragment
  · obtain ⟨query, hquery⟩ := Option.isSome_iff_exists.1 hquery
    exact ⟨'?', by simp [written, writtenWithoutFragment, queryWritten, hquery], rfl⟩
  · obtain ⟨fragment, hfragment⟩ := Option.isSome_iff_exists.1 hfragment
    exact ⟨'#', by simp [written, hfragment], rfl⟩

/-! ### Query and fragment -/

theorem escape_append (keep : UInt8 → Bool) (cs ds : List Char) :
    escape keep (cs ++ ds) = escape keep cs ++ escape keep ds := by
  simp [escape, encode, escapeBytes]

/-- What is added is added to the fragment, or else to the query, and one of the two is
there. -/
theorem readTail_append (special : Bool) {mark : Char} (hmark : endsPath mark = true)
    (text : List Char) {tail : List Char} (htail : ∀ c ∈ tail, staysInTail c = true) :
    readTail special (mark :: (text ++ tail)) =
        longerTail tail (readTail special (mark :: text)) ∧
      ((readTail special (mark :: text)).1.isSome = true ∨
        (readTail special (mark :: text)).2.isSome = true) := by
  have hkept : ∀ {keep : UInt8 → Bool}, (∀ c ∈ tail, keep (UInt8.ofNat c.toNat) = true) →
      escape keep tail = tail := fun hkeep =>
    escape_eq_self fun c hc => ⟨(of_staysInTail (htail c hc)).1, hkeep c hc⟩
  have hfragment : escape inFragment tail = tail :=
    hkept fun c hc => (of_staysInTail (htail c hc)).2.1
  have hquery : escape (if special then inSpecialQuery else inQuery) tail = tail := by
    refine hkept fun c hc => ?_
    obtain ⟨-, -, hplain, hspecial, -⟩ := of_staysInTail (htail c hc)
    cases special
    · exact hplain
    · exact hspecial
  rcases eq_or_eq_of_endsPath hmark with rfl | rfl
  · have hinside : ∀ c ∈ tail, (c != '#') = true := fun c hc => by
      simpa using (of_staysInTail (htail c hc)).2.2.2.2.1
    unfold readTail
    simp only
    cases hafter : text.dropWhile (· != '#') with
    | nil =>
        have hwhole : ∀ c ∈ text, (c != '#') = true := List.dropWhile_eq_nil_iff.1 hafter
        rw [List.takeWhile_append_of_pos hwhole, List.dropWhile_append_of_pos hwhole,
          List.takeWhile_eq_self_iff.2 hinside, List.dropWhile_eq_nil_iff.2 hinside,
          List.takeWhile_eq_self_iff.2 hwhole, escape_append, hquery]
        simp [longerTail]
    | cons sign after =>
        have hsign : (sign != '#') = false := by
          have hhead := List.head_dropWhile_not (· != '#') (hafter ▸ List.cons_ne_nil sign after)
          simpa [hafter] using hhead
        have htext : text = text.takeWhile (· != '#') ++ sign :: after := by
          rw [← hafter, List.takeWhile_append_dropWhile]
        have hfront : ∀ c ∈ text.takeWhile (· != '#'), (c != '#') = true :=
          fun c hc => List.mem_takeWhile_imp (p := (· != '#')) hc
        have hlonger : text ++ tail = text.takeWhile (· != '#') ++ sign :: (after ++ tail) := by
          rw [← List.cons_append, ← List.append_assoc, ← htext]
        rw [hlonger, takeWhile_append_stop hfront hsign, dropWhile_append_stop hfront hsign]
        simp [longerTail, escape_append, hfragment]
  · simp [readTail, longerTail, escape_append, hfragment]

theorem readPath_append (special : Bool) {text : List Char} (hmark : HasMark text)
    (tail : List Char) :
    ∃ path mark rest, endsPath mark = true ∧ readPath special text = (path, mark :: rest) ∧
      readPath special (text ++ tail) = (path, mark :: (rest ++ tail)) := by
  obtain ⟨hraw, mark, rest, hends, hrest, hlonger⟩ := exists_mark hmark tail
  refine ⟨(readPath special text).1, mark, rest, hends, ?_, ?_⟩
  · rw [← hrest]
    unfold readPath
    simp only
    split <;> rfl
  · rw [← hlonger]
    unfold readPath
    simp only [hraw]
    split <;> rfl

/-! ### Whole addresses -/

theorem withTail_append (scheme : String) (authority : Option Authority) {text : List Char}
    (hmark : HasMark text) {tail : List Char} (htail : ∀ c ∈ tail, staysInTail c = true) :
    withTail scheme authority (text ++ tail) = (withTail scheme authority text).extended tail ∧
      (withTail scheme authority text).HasTail := by
  obtain ⟨path, mark, rest, hends, hshorter, hlonger⟩ :=
    readPath_append (isSpecial scheme) hmark tail
  obtain ⟨hread, hsome⟩ := readTail_append (isSpecial scheme) hends rest htail
  unfold withTail
  simp only [hshorter, hlonger, hread]
  exact ⟨rfl, hsome⟩

theorem fileWithTail_append (host : Host) (rootGiven : Bool) {text : List Char}
    (hmark : HasMark text) {tail : List Char} (htail : ∀ c ∈ tail, staysInTail c = true) :
    fileWithTail host rootGiven (text ++ tail) =
        (fileWithTail host rootGiven text).extended tail ∧
      (fileWithTail host rootGiven text).HasTail := by
  obtain ⟨hraw, mark, rest, hends, hrest, hlonger⟩ := exists_mark hmark tail
  obtain ⟨hread, hsome⟩ := readTail_append true hends rest htail
  unfold fileWithTail
  simp only [hraw, hrest, hlonger, hread]
  exact ⟨rfl, hsome⟩

/-! ### Scheme and authority -/

theorem readScheme?_append_of_hasMark {text : List Char} (hmark : HasMark text)
    (tail : List Char) :
    readScheme? (text ++ tail) =
        (readScheme? text).map (fun (scheme, rest) => (scheme, rest ++ tail)) ∧
      ∀ scheme rest, readScheme? text = some (scheme, rest) → HasMark rest := by
  have hstop : ∀ c, endsPath c = true → isSchemeChar c = false := fun c hc => (of_endsPath hc).2.1
  have hname := takeWhile_append_of_hasMark hstop hmark tail
  obtain ⟨hrest, hleft⟩ := dropWhile_append_of_hasMark hstop hmark tail
  obtain ⟨c, others, rfl⟩ := List.exists_cons_of_ne_nil hmark.ne_nil
  obtain ⟨mark, rest, hcons⟩ := List.exists_cons_of_ne_nil hleft.ne_nil
  rw [List.cons_append] at hname hrest
  unfold readScheme?
  simp only [List.span_eq_takeWhile_dropWhile, List.cons_append, hname, hrest, hcons]
  cases c.isAlpha with
  | false => exact ⟨rfl, nofun⟩
  | true =>
      by_cases hcolon : mark = ':'
      · subst hcolon
        refine ⟨rfl, fun scheme after hread => ?_⟩
        cases hread
        exact HasMark.of_cons (hcons ▸ hleft) (by decide)
      · constructor
        · simp [hcolon]
        · intro scheme after hread
          simp [hcolon] at hread

theorem spanHost_append (special inBrackets : Bool) {text : List Char} (hmark : HasMark text)
    (tail : List Char) :
    spanHost special inBrackets (text ++ tail) =
        ((spanHost special inBrackets text).1, (spanHost special inBrackets text).2 ++ tail) ∧
      HasMark (spanHost special inBrackets text).2 := by
  induction text generalizing inBrackets with
  | nil => exact absurd rfl hmark.ne_nil
  | cons c rest ih =>
      rw [List.cons_append, spanHost, spanHost]
      by_cases hends : ((c == ':' && !inBrackets) || endsAuthority special c) = true
      · rw [if_pos hends, if_pos hends]
        exact ⟨rfl, hmark⟩
      · rw [if_neg hends, if_neg hends]
        have hnone : endsPath c = false := by
          cases hc : endsPath c with
          | false => rfl
          | true => exact absurd (by rw [(of_endsPath hc).1, Bool.or_true]) hends
        obtain ⟨hspan, hleft⟩ := ih (if c == '[' then true else if c == ']' then false
          else inBrackets) (hmark.of_cons hnone)
        exact ⟨by simp only [hspan], hleft⟩

/-- A reader that stops before the first mark finds what it finds in a longer text, and
leaves what was added. -/
def Leaves {β : Type} (reader : List Char → Except AddressFault (β × List Char))
    (text : List Char) : Prop :=
  (∀ tail, reader (text ++ tail) =
      (reader text).map fun (found, rest) => (found, rest ++ tail)) ∧
    ∀ found rest, reader text = .ok (found, rest) → HasMark rest

theorem leaves_readPort (scheme : String) {text : List Char} (hmark : HasMark text) :
    Leaves (readPort scheme) text := by
  have hstop : ∀ c, endsPath c = true → c.isDigit = false := fun c hc => (of_endsPath hc).2.2.1
  have hdigits := takeWhile_append_of_hasMark hstop hmark
  have hrest := dropWhile_append_of_hasMark hstop hmark
  obtain ⟨mark, rest, hcons⟩ := List.exists_cons_of_ne_nil (hrest []).2.ne_nil
  unfold Leaves readPort
  simp only [List.span_eq_takeWhile_dropWhile, hdigits, fun tail => (hrest tail).1, hcons,
    List.cons_append]
  constructor
  · intro tail
    split
    · rfl
    · split <;> rfl
  · intro found after hread
    split at hread
    · cases hread
    · split at hread
      · cases hread
      · cases hread
        exact hcons ▸ (hrest []).2

/-- The authority with a host that is known, and the text after it, where the text
begins where the host ends. -/
def readPortAfter (scheme : String) (info : Option UserInfo) (host : Host) (text : List Char) :
    Except AddressFault (Authority × List Char) :=
  if host.isEmpty ∧ (text.head? = some ':' ∨ info.isSome) then .error .emptyHost
  else
    match text with
    | ':' :: more => do
        let (n, rest) ← readPort scheme more
        .ok (⟨info, host, n⟩, rest)
    | _ => .ok (⟨info, host, none⟩, text)

theorem leaves_readPortAfter (scheme : String) (info : Option UserInfo) (host : Host)
    {text : List Char} (hmark : HasMark text) : Leaves (readPortAfter scheme info host) text := by
  obtain ⟨c, rest, rfl⟩ := List.exists_cons_of_ne_nil hmark.ne_nil
  unfold Leaves readPortAfter
  simp only [List.cons_append, List.head?_cons]
  by_cases hnobody : host.isEmpty = true ∧ (some c = some ':' ∨ info.isSome = true)
  · simp only [hnobody, and_self, if_true]
    exact ⟨fun tail => rfl, fun found after heq => by cases heq⟩
  · simp only [hnobody, if_false]
    by_cases hcolon : c = ':'
    · subst hcolon
      obtain ⟨hport, hleft⟩ := leaves_readPort scheme (hmark.of_cons (by decide))
      simp only [hport]
      cases hread : readPort scheme rest with
      | error fault => exact ⟨fun tail => rfl, fun found after heq => by cases heq⟩
      | ok found =>
          refine ⟨fun tail => rfl, fun found after heq => ?_⟩
          cases heq
          exact hleft _ _ hread
    · refine ⟨fun tail => ?_, fun found after heq => ?_⟩
      · simp only [List.cons.injEq, hcolon, false_and, imp_false, not_false_eq_true,
          implies_true]
        rfl
      · simp only [List.cons.injEq, hcolon, false_and, imp_false, not_false_eq_true,
          implies_true, Except.ok.injEq, Prod.mk.injEq] at heq
        exact heq.2 ▸ hmark

theorem readHostAndPort_eq (scheme : String) (info : Option UserInfo) (text : List Char) :
    readHostAndPort scheme info text =
      let special := isSpecial scheme
      let (name, rest) := spanHost special false text
      if special ∧ name.isEmpty then .error .emptyHost
      else
        (if special then Host.read name else Host.readVerbatim name) >>= fun host =>
          readPortAfter scheme info host rest := by
  unfold readHostAndPort
  cases isSpecial scheme <;> rfl

theorem leaves_readHostAndPort (scheme : String) (info : Option UserInfo) {text : List Char}
    (hmark : HasMark text) : Leaves (readHostAndPort scheme info) text := by
  have hspan := spanHost_append (isSpecial scheme) false hmark
  unfold Leaves
  simp only [readHostAndPort_eq, fun tail => (hspan tail).1]
  split
  · exact ⟨fun tail => rfl, fun found after heq => by cases heq⟩
  · cases (if isSpecial scheme then Host.read (spanHost (isSpecial scheme) false text).1
      else Host.readVerbatim (spanHost (isSpecial scheme) false text).1) with
    | error fault => exact ⟨fun tail => rfl, fun found after heq => by cases heq⟩
    | ok host => exact leaves_readPortAfter scheme info host (hspan []).2

theorem leaves_readAuthority (scheme : String) {text : List Char} (hmark : HasMark text) :
    Leaves (readAuthority scheme) text := by
  have hstop : ∀ c, endsPath c = true → (!endsAuthority (isSpecial scheme) c) = false :=
    fun c hc => by rw [(of_endsPath hc).1, Bool.not_true]
  have hfront := takeWhile_append_of_hasMark hstop hmark
  have hback := dropWhile_append_of_hasMark hstop hmark
  unfold Leaves
  simp only [readAuthority_eq, hfront, fun tail => (hback tail).1]
  split
  · have hsome : ∀ tail, ((text.dropWhile fun c => !endsAuthority (isSpecial scheme) c) ++
        tail).isEmpty = false := by
      intro tail
      simp [(hback []).2.ne_nil]
    have halone := hsome []
    rw [List.append_nil] at halone
    simp only [hsome, halone, Bool.false_eq_true, if_false]
    exact ⟨fun tail => rfl, fun found after heq => by cases heq⟩
  · simp only [← List.append_assoc]
    exact leaves_readHostAndPort scheme _ ((hback []).2.append_left _)
  · exact leaves_readHostAndPort scheme none hmark

/-! ### The whole -/

/-- Only two slashes lead to a host. -/
theorem readFile_cons (c : Char) (text : List Char) :
    readFile (c :: text) =
      if isSlash true c && text.head?.any (isSlash true) then
        let rest := text.tail
        let name := rest.takeWhile fun c => !endsAuthority true c
        let after := rest.dropWhile fun c => !endsAuthority true c
        if name.isEmpty || isDrive name then .ok (fileWithTail (.name "") true rest)
        else do
          let host ← Host.read name
          .ok (fileWithTail (if host = .name "localhost" then .name "" else host) false after)
      else .ok (fileWithTail (.name "") false (c :: text)) := by
  cases text with
  | nil => simp [readFile]
  | cons d rest => rfl

/-- The address of a scheme that no other rules are for, its colon already taken. -/
def readOther (scheme : String) (text : List Char) : Except AddressFault Address :=
  match text with
  | '/' :: '/' :: rest => do
      let (a, rest) ← readAuthority scheme rest
      .ok (withTail scheme (some a) rest)
  | '/' :: _ => .ok (withTail scheme none text)
  | _ =>
      let front := text.takeWhile fun c => !endsPath c
      let (query, fragment) := readTail false (text.dropWhile fun c => !endsPath c)
      let path := AddressPath.plain (String.ofList (escape inPlainPath front))
      .ok { scheme, authority := none, path, query, fragment }

/-- The address that a text writes in which everything counts. -/
def readCleaned (text : List Char) : Except AddressFault Address :=
  match readScheme? text with
  | none => .error .noScheme
  | some (scheme, rest) =>
      if scheme = "file" then readFile rest
      else if isSpecial scheme then do
        let (a, rest) ← readAuthority scheme (rest.dropWhile fun c => c == '/' || c == '\\')
        .ok (withTail scheme (some a) rest)
      else readOther scheme rest

theorem read_eq_readCleaned (text : List Char) : read text = readCleaned (cleaned text) := rfl

/-- What is read of a text comes out of a longer one with the same at its end. -/
def Extends (reader : List Char → Except AddressFault Address) (text tail : List Char) : Prop :=
  reader (text ++ tail) = (reader text).map (·.extended tail) ∧
    ∀ a, reader text = .ok a → a.HasTail

section

variable {text tail : List Char} (hmark : HasMark text) (htail : ∀ c ∈ tail, staysInTail c = true)

include hmark htail

/-- An authority is found before the mark, and path, query and fragment after it. -/
theorem extends_readAuthority (scheme : String) :
    Extends (fun text => do
      let (a, rest) ← readAuthority scheme text
      .ok (withTail scheme (some a) rest)) text tail := by
  obtain ⟨hauthority, hleft⟩ := leaves_readAuthority scheme hmark
  unfold Extends
  simp only [hauthority]
  cases hread : readAuthority scheme text with
  | error fault => exact ⟨rfl, fun b hb => by cases hb⟩
  | ok found =>
      obtain ⟨a, rest⟩ := found
      obtain ⟨hlonger, hsome⟩ := withTail_append scheme (some a) (hleft a rest hread) htail
      refine ⟨congrArg Except.ok hlonger, fun b hb => ?_⟩
      cases hb
      exact hsome

theorem extends_fileWithTail (host : Host) (rootGiven : Bool) :
    Extends (fun text => .ok (fileWithTail host rootGiven text)) text tail := by
  obtain ⟨hlonger, hsome⟩ := fileWithTail_append host rootGiven hmark htail
  refine ⟨congrArg Except.ok hlonger, fun a ha => ?_⟩
  cases ha
  exact hsome

/-- A host after the two slashes ends before the mark. -/
theorem extends_readFileHost :
    Extends (fun text =>
      let name := text.takeWhile fun c => !endsAuthority true c
      let after := text.dropWhile fun c => !endsAuthority true c
      if name.isEmpty || isDrive name then .ok (fileWithTail (.name "") true text)
      else do
        let host ← Host.read name
        .ok (fileWithTail (if host = .name "localhost" then .name "" else host) false after))
      text tail := by
  have hstop : ∀ c, endsPath c = true → (!endsAuthority true c) = false :=
    fun c hc => by rw [(of_endsPath hc).1, Bool.not_true]
  have hname := takeWhile_append_of_hasMark hstop hmark tail
  obtain ⟨hafter, hleft⟩ := dropWhile_append_of_hasMark hstop hmark tail
  unfold Extends
  simp only [hname, hafter]
  split
  · exact extends_fileWithTail hmark htail _ true
  · cases Host.read (text.takeWhile fun c => !endsAuthority true c) with
    | error fault => exact ⟨rfl, fun a ha => by cases ha⟩
    | ok host => exact extends_fileWithTail hleft htail _ false

theorem extends_readFile : Extends readFile text tail := by
  obtain ⟨c, rest, rfl⟩ := List.exists_cons_of_ne_nil hmark.ne_nil
  have hslash : ∀ {d more}, HasMark (d :: more) → isSlash true d = true → HasMark more := by
    intro d more hmore hd
    refine hmore.of_cons ?_
    cases hends : endsPath d with
    | false => rfl
    | true =>
        rw [(of_endsPath hends).2.2.2.2.1] at hd
        cases hd
  have hplain := extends_fileWithTail hmark htail (.name "") false
  unfold Extends at hplain ⊢
  rw [List.cons_append] at hplain ⊢
  rw [readFile_cons, readFile_cons]
  cases hc : isSlash true c with
  | false => exact hplain
  | true =>
      have hrest := hslash hmark hc
      obtain ⟨d, more, rfl⟩ := List.exists_cons_of_ne_nil hrest.ne_nil
      cases hd : isSlash true d with
      | false =>
          simp only [List.cons_append, List.head?_cons, Option.any_some, hd, Bool.and_false]
          exact hplain
      | true =>
          simp only [List.cons_append, List.head?_cons, Option.any_some, hd, Bool.and_self]
          exact extends_readFileHost (hslash hrest hd) htail

theorem extends_withTail (scheme : String) (authority : Option Authority) :
    Extends (fun text => .ok (withTail scheme authority text)) text tail := by
  obtain ⟨hlonger, hsome⟩ := withTail_append scheme authority hmark htail
  refine ⟨congrArg Except.ok hlonger, fun a ha => ?_⟩
  cases ha
  exact hsome

theorem extends_readPlain (scheme : String) :
    Extends (fun text =>
      let front := text.takeWhile fun c => !endsPath c
      let (query, fragment) := readTail false (text.dropWhile fun c => !endsPath c)
      let path := AddressPath.plain (String.ofList (escape inPlainPath front))
      .ok { scheme, authority := none, path, query, fragment }) text tail := by
  obtain ⟨hfront, mark, rest, hends, hrest, hlonger⟩ := exists_mark hmark tail
  obtain ⟨hread, hsome⟩ := readTail_append false hends rest htail
  unfold Extends
  simp only [hfront, hrest, hlonger, hread]
  refine ⟨rfl, fun a ha => ?_⟩
  cases ha
  exact hsome

theorem extends_readOther (scheme : String) : Extends (readOther scheme) text tail := by
  obtain ⟨c, rest, rfl⟩ := List.exists_cons_of_ne_nil hmark.ne_nil
  by_cases hc : c = '/'
  · subst hc
    have hrest := hmark.of_cons (by decide)
    obtain ⟨d, more, rfl⟩ := List.exists_cons_of_ne_nil hrest.ne_nil
    by_cases hd : d = '/'
    · subst hd
      exact extends_readAuthority (hrest.of_cons (by decide)) htail scheme
    · have hshown := extends_withTail hmark htail scheme none
      unfold Extends at hshown ⊢
      simp only [List.cons_append] at hshown ⊢
      simpa [readOther, hd] using hshown
  · have hshown := extends_readPlain hmark htail scheme
    unfold Extends at hshown ⊢
    simp only [List.cons_append] at hshown ⊢
    simpa [readOther, hc] using hshown

theorem extends_readCleaned : Extends readCleaned text tail := by
  obtain ⟨hscheme, hleft⟩ := readScheme?_append_of_hasMark hmark tail
  unfold Extends readCleaned
  rw [hscheme]
  cases hread : readScheme? text with
  | none => exact ⟨rfl, fun a ha => by cases ha⟩
  | some found =>
      obtain ⟨scheme, rest⟩ := found
      have hrest := hleft scheme rest hread
      simp only [Option.map_some]
      split
      · exact extends_readFile hrest htail
      · split
        · have hslashes : ∀ c, endsPath c = true → (c == '/' || c == '\\') = false :=
            fun c hc => (of_endsPath hc).2.2.2.1
          obtain ⟨hdrop, hafter⟩ := dropWhile_append_of_hasMark hslashes hrest tail
          rw [hdrop]
          exact extends_readAuthority hafter htail scheme
        · exact extends_readOther hrest htail scheme

end

/-- In a longer text the same counts, and all that was added does. -/
theorem cleaned_append_of_hasMark {text : List Char} (hmark : HasMark text) :
    ∃ clean, HasMark clean ∧ ∀ tail, tail ≠ [] → (∀ c ∈ tail, staysInTail c = true) →
      cleaned (text ++ tail) = clean ++ tail := by
  have hstop : ∀ c, endsPath c = true → decide (c.toNat ≤ 0x20) = false := fun c hc =>
    decide_eq_false (Nat.not_le.2 (of_endsPath hc).2.2.2.2.2.2.2)
  have hdrop := dropWhile_append_of_hasMark hstop hmark
  refine ⟨(text.dropWhile fun c => decide (c.toNat ≤ 0x20)).filter counts, ?_, ?_⟩
  · obtain ⟨c, hc, hends⟩ := (hdrop []).2
    exact ⟨c, List.mem_filter.2 ⟨hc, (of_endsPath hends).2.2.2.2.2.2.1⟩, hends⟩
  · intro tail hne htail
    obtain ⟨init, last, rfl⟩ : ∃ init last, tail = init ++ [last] :=
      ⟨_, _, (List.dropLast_append_getLast hne).symm⟩
    have hlast : decide (last.toNat ≤ 0x20) = false := decide_eq_false (Nat.not_le.2
      (of_staysInTail (htail last (by simp))).2.2.2.2.2.1)
    have hcounts : ∀ c ∈ init ++ [last], counts c = true :=
      fun c hc => (of_staysInTail (htail c hc)).2.2.2.2.2.2
    unfold cleaned dropEnds
    rw [(hdrop _).1, ← List.append_assoc, dropEnd_append_cons hlast]
    change ((_ ++ init) ++ [last]).filter counts = _
    rw [List.append_assoc, List.filter_append, List.filter_eq_self.2 hcounts]

/-- What is added at the end of a text with a question mark or a number sign is added at
the end of the address that is read, and changes nothing else. -/
theorem exists_read_append {text : List Char} (hmark : HasMark text) :
    ∃ outcome : Except AddressFault Address, (∀ a, outcome = .ok a → a.HasTail) ∧
      ∀ tail, tail ≠ [] → (∀ c ∈ tail, staysInTail c = true) →
        read (text ++ tail) = outcome.map (·.extended tail) := by
  obtain ⟨clean, hclean, hcleaned⟩ := cleaned_append_of_hasMark hmark
  have hnothing : ∀ c ∈ ([] : List Char), staysInTail c = true := nofun
  refine ⟨readCleaned clean, (extends_readCleaned hclean hnothing).2, ?_⟩
  intro tail hne htail
  rw [read_eq_readCleaned, hcleaned tail hne htail]
  exact (extends_readCleaned hclean htail).1

end SignedAccess.Address
