/-
# Addresses read again

An address is put together from the origin of another one, a path of plain
segments and a plain query, and then it is read. If that succeeds, every part
comes out as it was put in: the authority because a host is read from its own
writing and a port from its digits, path and query because nothing in them has
to be escaped or resolved.
-/

import SignedAccess.Address.Reader
import SignedAccess.Proofs.Address.Host

namespace SignedAccess.Address

open Text

/-! ### Hosts inside a text -/

/-- A visible character that ends no authority and closes no user name. -/
def isHostChar (c : Char) : Bool :=
  0x20 < c.toNat && c.toNat < 0x7f && !(['/', '?', '#', '\\', '@'].contains c)

theorem isHostChar_of_not_isForbidden {c : Char} (hc : Host.isForbidden c = false) :
    isHostChar c = true ∧ c ≠ ':' ∧ c ≠ '[' ∧ c ≠ ']' := by
  have hlow : c.toNat < 0x80 := by
    simp only [Host.isForbidden, Bool.or_eq_false_iff, decide_eq_false_iff_not] at hc
    omega
  refine forall_ascii (p := fun d => Host.isForbidden d = false →
    isHostChar d = true ∧ d ≠ ':' ∧ d ≠ '[' ∧ d ≠ ']') ?_ hlow hc
  decide

theorem isHostChar_of_hexValue? {c : Char} (hc : (hexValue? c).isSome = true) :
    isHostChar c = true ∧ c ≠ '[' ∧ c ≠ ']' := by
  have hlow : c.toNat < 0x80 := by
    by_contra hhigh
    unfold hexValue? at hc
    simp only at hc
    rw [if_neg (by omega), if_neg (by omega), if_neg (by omega)] at hc
    cases hc
  refine forall_ascii (p := fun d => (hexValue? d).isSome = true →
    isHostChar d = true ∧ d ≠ '[' ∧ d ≠ ']') ?_ hlow hc
  decide

theorem isHostChar_of_mem_joinedGroups {groups : List Nat} {c : Char}
    (hc : c ∈ Host.joinedGroups groups) : isHostChar c = true ∧ c ≠ '[' ∧ c ≠ ']' := by
  rcases mem_intercalate hc with rfl | ⟨piece, hpiece, hin⟩
  · decide
  · obtain ⟨n, _, rfl⟩ := List.mem_map.1 hpiece
    exact isHostChar_of_hexValue? (hexValue?_isSome_of_mem_hexOfNat hin)

theorem isHostChar_of_mem_groups8Written {groups : List Nat} {c : Char}
    (hc : c ∈ Host.groups8Written groups) : isHostChar c = true ∧ c ≠ '[' ∧ c ≠ ']' := by
  rw [Host.groups8Written_eq] at hc
  split at hc
  · rcases List.mem_append.1 hc with hc | hback
    · rcases List.mem_append.1 hc with hfront | hcolons
      · exact isHostChar_of_mem_joinedGroups hfront
      · have hcolon : c = ':' := by simpa using hcolons
        rw [hcolon]
        decide
    · exact isHostChar_of_mem_joinedGroups hback
  · exact isHostChar_of_mem_joinedGroups hc

/-- The characters of a host that is a name or four bytes. -/
theorem plain_of_mem_written {host : Host} (hhost : host.IsSettled)
    (hgroups : ∀ groups, host ≠ .groups8 groups) {c : Char} (hc : c ∈ host.written) :
    isHostChar c = true ∧ c ≠ ':' ∧ c ≠ '[' ∧ c ≠ ']' := by
  cases host with
  | name text => exact isHostChar_of_not_isForbidden (hhost.2.2 c hc).2
  | bytes4 value =>
      exact isHostChar_of_not_isForbidden (Host.isSettled_of_mem_bytes4Written hc).2
  | groups8 groups => exact absurd rfl (hgroups groups)

theorem isHostChar_of_mem_written {host : Host} (hhost : host.IsSettled) {c : Char}
    (hc : c ∈ host.written) : isHostChar c = true := by
  by_cases hgroups : ∃ groups, host = .groups8 groups
  · obtain ⟨groups, rfl⟩ := hgroups
    rcases List.mem_append.1 hc with hin | hclose
    · rcases List.mem_cons.1 hin with rfl | hin
      · decide
      · exact (isHostChar_of_mem_groups8Written hin).1
    · rw [List.mem_singleton.1 hclose]
      decide
  · have hother : ∀ groups, host ≠ .groups8 groups := fun groups heq => hgroups ⟨groups, heq⟩
    exact (plain_of_mem_written hhost hother hc).1

theorem endsAuthority_of_isHostChar {c : Char} (hc : isHostChar c = true) :
    endsAuthority true c = false := by
  unfold isHostChar at hc
  unfold endsAuthority
  simp only [Bool.and_eq_true, Bool.not_eq_true', List.contains_eq_mem, List.mem_cons,
    List.not_mem_nil, or_false, decide_eq_false_iff_not, not_or] at hc
  simp [hc.2.1, hc.2.2.1, hc.2.2.2.1, hc.2.2.2.2.1]

/-- A host outside brackets ends with its authority. -/
theorem spanHost_of_plain {cs rest : List Char}
    (hcs : ∀ c ∈ cs, isHostChar c = true ∧ c ≠ ':' ∧ c ≠ '[' ∧ c ≠ ']')
    (hrest : spanHost true false rest = ([], rest)) :
    spanHost true false (cs ++ rest) = (cs, rest) := by
  induction cs with
  | nil => exact hrest
  | cons c more ih =>
      obtain ⟨hc, hcolon, hopen, hclose⟩ := hcs c List.mem_cons_self
      have hmore := ih fun d hd => hcs d (List.mem_cons_of_mem c hd)
      rw [List.cons_append, spanHost]
      simp [endsAuthority_of_isHostChar hc, hcolon, hopen, hclose, hmore]

/-- Between brackets a host goes on past colons. -/
theorem spanHost_in_brackets {cs rest : List Char}
    (hcs : ∀ c ∈ cs, isHostChar c = true ∧ c ≠ '[' ∧ c ≠ ']') :
    spanHost true true (cs ++ rest) =
      (cs ++ (spanHost true true rest).1, (spanHost true true rest).2) := by
  induction cs with
  | nil => rfl
  | cons c more ih =>
      obtain ⟨hc, hopen, hclose⟩ := hcs c List.mem_cons_self
      have hmore := ih fun d hd => hcs d (List.mem_cons_of_mem c hd)
      rw [List.cons_append, spanHost]
      simp [endsAuthority_of_isHostChar hc, hopen, hclose, hmore]

/-- A host in writing ends where the host ends. -/
theorem spanHost_written {host : Host} (hhost : host.IsSettled) {rest : List Char}
    (hrest : spanHost true false rest = ([], rest)) :
    spanHost true false (host.written ++ rest) = (host.written, rest) := by
  by_cases hgroups : ∃ groups, host = .groups8 groups
  · obtain ⟨groups, rfl⟩ := hgroups
    have hchars : ∀ c ∈ Host.groups8Written groups, isHostChar c = true ∧ c ≠ '[' ∧ c ≠ ']' :=
      fun c hc => isHostChar_of_mem_groups8Written hc
    have hinside := @spanHost_in_brackets _ (']' :: rest) hchars
    have hclose : spanHost true true (']' :: rest) = ([']'], rest) := by
      rw [spanHost]
      simp [endsAuthority, hrest]
    have hwritten : (Host.groups8 groups).written ++ rest =
        '[' :: (Host.groups8Written groups ++ ']' :: rest) := by
      simp [Host.written]
    rw [hclose] at hinside
    rw [hwritten, spanHost]
    simp [endsAuthority, Host.written, hinside]
  · have hother : ∀ groups, host ≠ .groups8 groups := fun groups heq => hgroups ⟨groups, heq⟩
    exact spanHost_of_plain (fun c hc => plain_of_mem_written hhost hother hc) hrest

theorem written_ne_nil {host : Host} (hhost : host.IsSettled) : host.written ≠ [] := by
  cases host with
  | name text => exact hhost.1
  | bytes4 value =>
      intro hnil
      have hfields := Host.labels_bytes4Written value
      have hwritten : Host.bytes4Written value = [] := hnil
      rw [hwritten] at hfields
      simp [Host.labels, Host.bytesOf] at hfields
  | groups8 groups => exact List.cons_ne_nil _ _

theorem isEmpty_of_isSettled {host : Host} (hhost : host.IsSettled) : host.isEmpty = false := by
  cases host with
  | name text =>
      have hne := hhost.1
      simpa [Host.isEmpty, String.isEmpty_iff] using hne
  | bytes4 value => rfl
  | groups8 groups => rfl

/-! ### Authorities -/

/-- The port is one that an address of the scheme keeps. -/
def KeepsPort (scheme : String) (port : Option Nat) : Prop :=
  ∀ n, port = some n → n ≤ 65535 ∧ defaultPort? scheme ≠ some n

/-- The port of an authority is within its bounds and not the usual one. -/
theorem keepsPort_of_readPort {scheme : String} {text rest : List Char} {port : Option Nat}
    (hread : readPort scheme text = .ok (port, rest)) : KeepsPort scheme port := by
  unfold readPort at hread
  simp only at hread
  split at hread
  · cases hread
  · rename_i number hnumber
    have hport : port = if (text.span Char.isDigit).1.isEmpty ∨ defaultPort? scheme = some number
        then none else some number := by
      split at hread
      · cases hread
        rfl
      · split at hread
        · cases hread
        · cases hread
          rfl
    intro n hn
    rw [hport] at hn
    split at hn
    · cases hn
    · rename_i hkept
      cases hn
      have hdigits : ¬(text.span Char.isDigit).1.isEmpty = true :=
        fun hempty => hkept (Or.inl hempty)
      rw [if_neg hdigits] at hnumber
      exact ⟨readNat_le hnumber, fun heq => hkept (Or.inr heq)⟩

/-- A port is read from its digits where a path follows. -/
theorem readPort_decimal {scheme : String} {n : Nat} (hn : n ≤ 65535)
    (hscheme : defaultPort? scheme ≠ some n) (rest : List Char) :
    readPort scheme (decimal n ++ '/' :: rest) = .ok (some n, '/' :: rest) := by
  have hspan : (decimal n ++ '/' :: rest).span Char.isDigit = (decimal n, '/' :: rest) :=
    span_append_stop (fun c hc => isDigit_of_mem_decimal hc) (by decide)
  have hempty : (decimal n).isEmpty = false := by
    rw [List.isEmpty_eq_false_iff]
    exact decimal_ne_nil n
  unfold readPort
  simp only [hspan, hempty, Bool.false_eq_true, if_false, readNat_decimal hn, false_or]
  simp [endsAuthority, hscheme]

/-- Host and port of an authority and the text after it, the user name already
taken. -/
def readHostAndPort (scheme : String) (info : Option UserInfo) (text : List Char) :
    Except AddressFault (Authority × List Char) :=
  let special := isSpecial scheme
  let (name, rest) := spanHost special false text
  if special ∧ name.isEmpty then .error .emptyHost
  else do
    let host ← if special then Host.read name else Host.readVerbatim name
    if host.isEmpty ∧ (rest.head? = some ':' ∨ info.isSome) then .error .emptyHost
    else
      match rest with
      | ':' :: more => do
          let (n, rest) ← readPort scheme more
          .ok (⟨info, host, n⟩, rest)
      | _ => .ok (⟨info, host, none⟩, rest)

theorem readAuthority_eq (scheme : String) (text : List Char) :
    readAuthority scheme text =
      match cutLast (· == '@') (text.takeWhile fun c => !endsAuthority (isSpecial scheme) c) with
      | some ([], []) =>
          if (text.dropWhile fun c => !endsAuthority (isSpecial scheme) c).isEmpty then
            readHostAndPort scheme none []
          else .error .emptyHost
      | some (before, after) =>
          readHostAndPort scheme (readUserInfo? before)
            (after ++ text.dropWhile fun c => !endsAuthority (isSpecial scheme) c)
      | none => readHostAndPort scheme none text := by
  unfold readAuthority readHostAndPort
  simp only
  rcases cutLast (· == '@') (text.takeWhile fun c => !endsAuthority (isSpecial scheme) c) with
    _ | ⟨_ | ⟨b, before⟩, _ | ⟨a, after⟩⟩
  · cases isSpecial scheme <;> rfl
  · cases (text.dropWhile fun c => !endsAuthority (isSpecial scheme) c).isEmpty with
    | false => rfl
    | true => cases isSpecial scheme <;> rfl
  · cases isSpecial scheme <;> rfl
  · cases isSpecial scheme <;> rfl
  · cases isSpecial scheme <;> rfl

/-- An authority of a special scheme has a settled host and a port that its scheme
keeps. -/
theorem of_readHostAndPort {scheme : String} {info : Option UserInfo} {text rest : List Char}
    {authority : Authority} (hspecial : isSpecial scheme = true)
    (hread : readHostAndPort scheme info text = .ok (authority, rest)) :
    authority.host.IsSettled ∧ KeepsPort scheme authority.port := by
  unfold readHostAndPort at hread
  simp only [hspecial, true_and, if_true] at hread
  split at hread
  · cases hread
  · obtain ⟨host, hhost, hread⟩ := bind_eq_ok.1 hread
    split at hread
    · cases hread
    · split at hread
      · obtain ⟨⟨port, left⟩, hport, heq⟩ := bind_eq_ok.1 hread
        cases heq
        exact ⟨Host.isSettled_of_read hhost, keepsPort_of_readPort hport⟩
      · cases hread
        exact ⟨Host.isSettled_of_read hhost, fun n hn => by cases hn⟩

theorem of_readAuthority {scheme : String} {text rest : List Char} {authority : Authority}
    (hspecial : isSpecial scheme = true)
    (hread : readAuthority scheme text = .ok (authority, rest)) :
    authority.host.IsSettled ∧ KeepsPort scheme authority.port := by
  rw [readAuthority_eq] at hread
  split at hread
  · split at hread
    · exact of_readHostAndPort hspecial hread
    · cases hread
  · exact of_readHostAndPort hspecial hread
  · exact of_readHostAndPort hspecial hread

theorem isHostChar_of_mem_hostAndPort {host : Host} (hhost : host.IsSettled)
    {port : Option Nat} {c : Char} (hc : c ∈ hostAndPort host port) : isHostChar c = true := by
  rcases List.mem_append.1 hc with hin | hin
  · exact isHostChar_of_mem_written hhost hin
  · cases port with
    | none => cases hin
    | some n =>
        rcases List.mem_cons.1 hin with rfl | hdigit
        · decide
        · have hvalue := hexValue?_of_isDigit (isDigit_of_mem_decimal hdigit)
          exact (isHostChar_of_hexValue? (by rw [hvalue]; rfl)).1

/-- A settled host in writing is read as itself, if it is read at all. -/
theorem readHostAndPort_of_spanHost {scheme : String} {host : Host} {text rest : List Char}
    (hspecial : isSpecial scheme = true) (hhost : host.IsSettled)
    (hspan : spanHost true false text = (host.written, rest)) :
    readHostAndPort scheme none text = Host.read host.written >>= fun _ =>
      match rest with
      | ':' :: more => readPort scheme more >>= fun (n, after) => .ok (⟨none, host, n⟩, after)
      | _ => .ok (⟨none, host, none⟩, rest) := by
  have hempty : host.written.isEmpty = false := List.isEmpty_eq_false_iff.2 (written_ne_nil hhost)
  unfold readHostAndPort
  simp only [hspecial, hspan, hempty, Bool.false_eq_true, and_false, if_false, if_true]
  cases hagain : Host.read host.written with
  | error fault => rfl
  | ok again =>
      obtain rfl := Host.eq_of_read_written hhost hagain
      simp only [bind, Except.bind, isEmpty_of_isSettled hhost, Bool.false_eq_true, false_and,
        if_false]

/-- Host and port in writing are no user name. -/
theorem readAuthority_eq_readHostAndPort {scheme : String} {host : Host} {port : Option Nat}
    (rest : List Char) (hspecial : isSpecial scheme = true) (hhost : host.IsSettled) :
    readAuthority scheme (hostAndPort host port ++ '/' :: rest) =
      readHostAndPort scheme none (hostAndPort host port ++ '/' :: rest) := by
  have hfront : (hostAndPort host port ++ '/' :: rest).takeWhile (fun c => !endsAuthority true c) =
      hostAndPort host port := by
    refine takeWhile_append_stop (fun c hc => ?_) (by decide)
    simp [endsAuthority_of_isHostChar (isHostChar_of_mem_hostAndPort hhost hc)]
  have hnoinfo : cutLast (· == '@') (hostAndPort host port) = none := by
    apply cutLast_of_none
    intro c hc
    rw [beq_eq_false_iff_ne]
    rintro rfl
    exact absurd (isHostChar_of_mem_hostAndPort hhost hc) (by decide)
  rw [readAuthority_eq, hspecial, hfront, hnoinfo]

/-- Host and port in writing are read as they are, if the host is read at all. -/
theorem readAuthority_hostAndPort {scheme : String} {host : Host} {port : Option Nat}
    (rest : List Char) (hspecial : isSpecial scheme = true) (hhost : host.IsSettled)
    (hport : KeepsPort scheme port) :
    readAuthority scheme (hostAndPort host port ++ '/' :: rest) =
      (Host.read host.written).map fun _ => (⟨none, host, port⟩, '/' :: rest) := by
  rw [readAuthority_eq_readHostAndPort rest hspecial hhost]
  cases port with
  | none =>
      have hstop : spanHost true false ('/' :: rest) = ([], '/' :: rest) := by
        rw [spanHost]
        rfl
      have htext : hostAndPort host none ++ '/' :: rest = host.written ++ '/' :: rest := by
        rw [hostAndPort, Option.map_none, Option.getD_none, List.append_nil]
      rw [htext, readHostAndPort_of_spanHost hspecial hhost (spanHost_written hhost hstop)]
      cases Host.read host.written with
      | error fault => rfl
      | ok again => rfl
  | some n =>
      obtain ⟨hn, hscheme⟩ := hport n rfl
      have hstop : spanHost true false (':' :: decimal n ++ '/' :: rest) =
          ([], ':' :: decimal n ++ '/' :: rest) := by
        rw [List.cons_append, spanHost]
        rfl
      have htext : hostAndPort host (some n) ++ '/' :: rest =
          host.written ++ (':' :: decimal n ++ '/' :: rest) := List.append_assoc _ _ _
      rw [htext, readHostAndPort_of_spanHost hspecial hhost (spanHost_written hhost hstop)]
      simp only [List.cons_append, readPort_decimal hn hscheme]
      cases Host.read host.written with
      | error fault => rfl
      | ok again => rfl

/-! ### Paths and queries -/

/-- A segment that a path of a special scheme keeps as it is. -/
structure KeepsSegment (segment : List Char) : Prop where
  chars : ∀ c ∈ segment,
    c.toNat < 0x80 ∧ inPath (UInt8.ofNat c.toNat) = true ∧ isSlash true c = false
  single : isSingleDot segment = false
  double : isDoubleDot segment = false

/-- A text that the query of a special scheme keeps as it is. -/
def KeepsQuery (query : List Char) : Prop :=
  ∀ c ∈ query, c.toNat < 0x80 ∧ inSpecialQuery (UInt8.ofNat c.toNat) = true ∧ c ≠ '#'

theorem addSegment_of_keeps {segment : List Char} (h : KeepsSegment segment) (isLast : Bool)
    (done : List (List Char)) : addSegment false isLast done segment = segment :: done := by
  have hescape : escape inPath segment = segment :=
    escape_eq_self fun c hc => ⟨(h.chars c hc).1, (h.chars c hc).2.1⟩
  unfold addSegment
  simp only [hescape, h.single, h.double, Bool.false_and, Bool.false_eq_true, if_false]

/-- Plain segments are resolved to themselves. -/
theorem resolve_of_keeps {segments : List (List Char)} (hne : segments ≠ [])
    (hsegments : ∀ segment ∈ segments, KeepsSegment segment) :
    resolve false segments = segments := by
  have hfold : ∀ (front done : List (List Char)), (∀ segment ∈ front, KeepsSegment segment) →
      front.foldl (addSegment false false) done = front.reverse ++ done := by
    intro front
    induction front with
    | nil => exact fun done _ => rfl
    | cons segment rest ih =>
        intro done hfront
        rw [List.foldl_cons, addSegment_of_keeps (hfront segment List.mem_cons_self),
          ih _ fun other hother => hfront other (List.mem_cons_of_mem segment hother)]
        simp
  have hlast : segments.getLast?.getD [] = segments.getLast hne := by
    rw [List.getLast?_eq_getLast_of_ne_nil hne]
    rfl
  unfold resolve
  rw [hfold segments.dropLast [] fun segment hin => hsegments segment (List.dropLast_subset _ hin),
    hlast]
  simp only
  rw [addSegment_of_keeps (hsegments _ (List.getLast_mem hne)), List.append_nil,
    List.reverse_cons, List.reverse_reverse, List.dropLast_append_getLast hne]

/-- Segments with a slash before each. -/
def pathText (segments : List (List Char)) : List Char := segments.flatMap fun s => '/' :: s

theorem pathText_eq {segments : List (List Char)} (hne : segments ≠ []) :
    pathText segments = '/' :: ['/'].intercalate segments := by
  induction segments with
  | nil => exact absurd rfl hne
  | cons first more ih =>
      cases more with
      | nil => simp [pathText]
      | cons second others =>
          have hmore := ih (List.cons_ne_nil second others)
          rw [List.intercalate_cons_cons, List.append_assoc, List.singleton_append, ← hmore]
          simp [pathText]

theorem lt_toNat_of_visibleExcept {excluded : List Char} {c : Char} (hascii : c.toNat < 0x80)
    (hc : visibleExcept excluded (UInt8.ofNat c.toNat) = true) : 0x20 < c.toNat := by
  unfold visibleExcept at hc
  simp only [Bool.and_eq_true, decide_eq_true_eq, UInt8.lt_iff_toNat_lt] at hc
  have hlow := hc.1.1
  rwa [toNat_byte_of_ascii hascii] at hlow

theorem lt_toNat_of_mem_query {query : List Char} (hquery : KeepsQuery query) {c : Char}
    (hc : c ∈ query) : 0x20 < c.toNat :=
  lt_toNat_of_visibleExcept (hquery c hc).1 (hquery c hc).2.1

/-- A path of plain segments is visible and ends nowhere before its end. -/
theorem of_mem_pathText {segments : List (List Char)}
    (hsegments : ∀ segment ∈ segments, KeepsSegment segment) {c : Char}
    (hc : c ∈ pathText segments) : 0x20 < c.toNat ∧ endsPath c = false := by
  obtain ⟨segment, hsegment, hin⟩ := List.mem_flatMap.1 hc
  rcases List.mem_cons.1 hin with rfl | hin
  · decide
  · obtain ⟨hlow, hkept, _⟩ := (hsegments segment hsegment).chars c hin
    refine ⟨lt_toNat_of_visibleExcept hlow hkept, ?_⟩
    refine forall_ascii (p := fun d => inPath (UInt8.ofNat d.toNat) = true →
      endsPath d = false) ?_ hlow hkept
    decide

/-- A path ends where a query follows. -/
theorem span_path {path query : List Char} (hpath : ∀ c ∈ path, endsPath c = false) :
    (path ++ '?' :: query).takeWhile (fun c => !endsPath c) = path ∧
      (path ++ '?' :: query).dropWhile (fun c => !endsPath c) = '?' :: query := by
  have hgoes : ∀ c ∈ path, (!endsPath c) = true := fun c hc => by simp [hpath c hc]
  exact ⟨takeWhile_append_stop hgoes rfl, dropWhile_append_stop hgoes rfl⟩

/-- Whatever becomes of a path, the query behind it is not touched. -/
theorem readPath_snd {path query : List Char} (special : Bool)
    (hpath : ∀ c ∈ path, endsPath c = false) :
    (readPath special (path ++ '?' :: query)).2 = '?' :: query := by
  obtain ⟨hraw, hrest⟩ := @span_path _ query hpath
  unfold readPath
  simp only [hraw, hrest]
  cases path with
  | nil => rfl
  | cons c more => rfl

/-- A path of plain segments is read as those segments where a query follows. -/
theorem readPath_pathText {segments : List (List Char)} {query : List Char}
    (hne : segments ≠ []) (hsegments : ∀ segment ∈ segments, KeepsSegment segment) :
    readPath true (pathText segments ++ '?' :: query) =
      (.segments (segments.map String.ofList), '?' :: query) := by
  obtain ⟨hraw, hrest⟩ := @span_path _ query fun c hc => (of_mem_pathText hsegments hc).2
  have hfields : fields (isSlash true) (['/'].intercalate segments) = segments :=
    fields_intercalate hne rfl fun segment hsegment c hc =>
      ((hsegments segment hsegment).chars c hc).2.2
  unfold readPath
  simp only [hraw, hrest]
  rw [pathText_eq hne]
  have hslash : isSlash true '/' = true := rfl
  simp only [hslash, if_true, hfields, resolve_of_keeps hne hsegments]

/-- A plain query is read as it is. -/
theorem readTail_of_keeps {query : List Char} (hquery : KeepsQuery query) :
    readTail true ('?' :: query) = (some (String.ofList query), none) := by
  have hmark : ∀ c ∈ query, (c != '#') = true := by
    intro c hc
    simpa using (hquery c hc).2.2
  have hescape : escape inSpecialQuery query = query :=
    escape_eq_self fun c hc => ⟨(hquery c hc).1, (hquery c hc).2.1⟩
  unfold readTail
  simp only [List.takeWhile_eq_self_iff.2 hmark, List.dropWhile_eq_nil_iff.2 hmark, if_true,
    hescape]

/-! ### Whole addresses -/

/-- The schemes that have a port of their own. -/
def portSchemes : List String := ["http", "ws", "https", "wss", "ftp"]

theorem mem_portSchemes {scheme : String} (hscheme : hasDefaultPort scheme = true) :
    scheme ∈ portSchemes := by
  unfold hasDefaultPort defaultPort? at hscheme
  split at hscheme
  · decide
  · decide
  · decide
  · decide
  · decide
  · cases hscheme

theorem isSpecial_of_hasDefaultPort {scheme : String} (hscheme : hasDefaultPort scheme = true) :
    isSpecial scheme = true ∧ scheme ≠ "file" := by
  have hall : ∀ s ∈ portSchemes, isSpecial s = true ∧ s ≠ "file" := by decide
  exact hall scheme (mem_portSchemes hscheme)

/-- A scheme with a port of its own is written in small letters. -/
theorem toNat_of_mem_scheme {scheme : String} (hscheme : hasDefaultPort scheme = true)
    {c : Char} (hc : c ∈ scheme.toList) : 0x61 ≤ c.toNat ∧ c.toNat ≤ 0x7A := by
  have hall : ∀ s ∈ portSchemes,
      s.toList.all (fun d => decide (0x61 ≤ d.toNat ∧ d.toNat ≤ 0x7A)) = true := by
    decide
  exact forall_mem_of_all (hall scheme (mem_portSchemes hscheme)) c hc

theorem readScheme?_append {scheme : String} (hscheme : hasDefaultPort scheme = true)
    (rest : List Char) : readScheme? (scheme.toList ++ ':' :: rest) = some (scheme, rest) := by
  have hall : ∀ s ∈ portSchemes,
      s.toList.all (fun c => decide (isSchemeChar c = true ∧ c.isAlpha = true)) = true ∧
        lower s.toList = s.toList ∧ s.toList ≠ [] := by decide
  obtain ⟨hcomputed, hlower, hne⟩ := hall scheme (mem_portSchemes hscheme)
  have hchars := forall_mem_of_all hcomputed
  have hspan : (scheme.toList ++ ':' :: rest).span isSchemeChar = (scheme.toList, ':' :: rest) :=
    span_append_stop (fun c hc => (hchars c hc).1) (by decide)
  obtain ⟨first, more, hname⟩ := List.exists_cons_of_ne_nil hne
  have hfirst : first.isAlpha = true := (hchars first (hname ▸ List.mem_cons_self)).2
  unfold readScheme?
  rw [hspan, hname]
  simp only [List.cons_append, hfirst, if_true]
  rw [← hname, hlower, String.ofList_toList]

/-- A text of visible characters has nothing around it that does not count. -/
theorem clean_eq_self {text : List Char} (htext : ∀ c ∈ text, 0x20 < c.toNat) :
    (dropEnds (·.toNat ≤ 0x20) text).filter (fun c => c != '\t' && c != '\n' && c != '\r') =
      text := by
  rw [dropEnds_eq_self fun c hc => by have := htext c hc; simpa using this]
  apply List.filter_eq_self.2
  intro c hc
  have hc := htext c hc
  simp only [Bool.and_eq_true, bne_iff_ne, ne_eq]
  refine ⟨⟨?_, ?_⟩, ?_⟩ <;>
    · rintro rfl
      exact absurd hc (by decide)

theorem scheme_of_readFile {text : List Char} {address : Address}
    (hread : readFile text = .ok address) : address.scheme = "file" := by
  unfold readFile at hread
  split at hread
  · split at hread
    · simp only at hread
      split at hread
      · cases hread
        rfl
      · obtain ⟨host, _, heq⟩ := bind_eq_ok.1 hread
        cases heq
        rfl
    · cases hread
      rfl
  · cases hread
    rfl

/-- The host of an address whose scheme has a port of its own is settled, and its
port is not the usual one. -/
theorem of_read {text : List Char} {address : Address} (hread : read text = .ok address)
    (hscheme : hasDefaultPort address.scheme = true) :
    ∃ authority, address.authority = some authority ∧ authority.host.IsSettled ∧
      KeepsPort address.scheme authority.port := by
  unfold read at hread
  simp only at hread
  split at hread
  · cases hread
  · rename_i scheme rest _
    split at hread
    · rw [scheme_of_readFile hread] at hscheme
      exact absurd hscheme (by decide)
    · split at hread
      · rename_i hspecial
        obtain ⟨⟨authority, after⟩, hauthority, heq⟩ := bind_eq_ok.1 hread
        cases heq
        obtain ⟨hhost, hport⟩ := of_readAuthority hspecial hauthority
        exact ⟨authority, rfl, hhost, hport⟩
      · rename_i hother
        have hsame : address.scheme = scheme := by
          split at hread
          · obtain ⟨⟨authority, after⟩, _, heq⟩ := bind_eq_ok.1 hread
            cases heq
            rfl
          · cases hread
            rfl
          · cases hread
            rfl
        rw [hsame] at hscheme
        exact absurd (isSpecial_of_hasDefaultPort hscheme).1 hother

/-- The text of an address with the given origin, path and query. -/
def signedText (scheme : String) (host : Host) (port : Option Nat)
    (segments : List (List Char)) (query : List Char) : List Char :=
  scheme.toList ++ [':', '/', '/'] ++ hostAndPort host port ++ (pathText segments ++ '?' :: query)

theorem lt_toNat_of_mem_origin {scheme : String} {host : Host} {port : Option Nat}
    (hscheme : hasDefaultPort scheme = true) (hhost : host.IsSettled) {c : Char}
    (hc : c ∈ scheme.toList ++ [':', '/', '/'] ++ hostAndPort host port) : 0x20 < c.toNat := by
  rcases List.mem_append.1 hc with hc | hin
  · rcases List.mem_append.1 hc with hin | hin
    · have hletter := toNat_of_mem_scheme hscheme hin
      omega
    · have hmarks : ∀ d ∈ [':', '/', '/'], 0x20 < d.toNat :=
        forall_mem_of_all (by decide)
      exact hmarks c hin
  · have hchar := isHostChar_of_mem_hostAndPort hhost hin
    unfold isHostChar at hchar
    simp only [Bool.and_eq_true, decide_eq_true_eq] at hchar
    exact hchar.1.1

/-- Only the two slashes before a host are passed over. -/
theorem dropWhile_slashes {host : Host} (hhost : host.IsSettled) (port : Option Nat)
    (rest : List Char) :
    ('/' :: '/' :: (hostAndPort host port ++ rest)).dropWhile (fun c => c == '/' || c == '\\') =
      hostAndPort host port ++ rest := by
  have hne : hostAndPort host port ≠ [] := by
    intro hnil
    exact written_ne_nil hhost (List.append_eq_nil_iff.1 hnil).1
  obtain ⟨c, more, hcons⟩ := List.exists_cons_of_ne_nil hne
  have hchar : isHostChar c = true :=
    isHostChar_of_mem_hostAndPort hhost (hcons ▸ List.mem_cons_self)
  have hslash : ¬(c == '/' || c == '\\') = true := by
    have hends := endsAuthority_of_isHostChar hchar
    simp only [endsAuthority, Bool.or_eq_false_iff, Bool.true_and] at hends
    simp [hends.1.1.1, hends.2]
  rw [List.dropWhile_cons_of_pos rfl, List.dropWhile_cons_of_pos rfl, hcons, List.cons_append]
  exact List.dropWhile_cons_of_neg hslash

/-- An origin and a text from a slash on are read as the origin, with the text for path,
query and fragment, if the host is read at all. -/
theorem read_origin {scheme : String} {host : Host} {port : Option Nat} {rest : List Char}
    (hscheme : hasDefaultPort scheme = true) (hhost : host.IsSettled)
    (hport : KeepsPort scheme port) (hrest : ∀ c ∈ rest, 0x20 < c.toNat) :
    read (scheme.toList ++ [':', '/', '/'] ++ hostAndPort host port ++ '/' :: rest) =
      (Host.read host.written).map fun _ =>
        withTail scheme (some ⟨none, host, port⟩) ('/' :: rest) := by
  obtain ⟨hspecial, hfile⟩ := isSpecial_of_hasDefaultPort hscheme
  have hvisible : ∀ c ∈ scheme.toList ++ [':', '/', '/'] ++ hostAndPort host port ++ '/' :: rest,
      0x20 < c.toNat := by
    intro c hc
    rcases List.mem_append.1 hc with hin | hin
    · exact lt_toNat_of_mem_origin hscheme hhost hin
    · rcases List.mem_cons.1 hin with rfl | hin
      · decide
      · exact hrest c hin
  have htext : scheme.toList ++ [':', '/', '/'] ++ hostAndPort host port ++ '/' :: rest =
      scheme.toList ++ ':' :: ('/' :: '/' :: (hostAndPort host port ++ '/' :: rest)) := by
    simp
  unfold read
  simp only [clean_eq_self hvisible]
  rw [htext, readScheme?_append hscheme]
  simp only [hfile, hspecial, if_false, if_true, dropWhile_slashes hhost,
    readAuthority_hostAndPort _ hspecial hhost hport]
  cases Host.read host.written with
  | error fault => rfl
  | ok again => rfl

/-- The address with the given origin, path and query. -/
def signedAddress (scheme : String) (host : Host) (port : Option Nat)
    (segments : List (List Char)) (query : List Char) : Address :=
  { scheme, authority := some ⟨none, host, port⟩
    path := .segments (segments.map String.ofList), query := some (String.ofList query)
    fragment := none }

theorem withTail_pathText {scheme : String} {segments : List (List Char)} {query : List Char}
    (hscheme : hasDefaultPort scheme = true) (hne : segments ≠ [])
    (hsegments : ∀ segment ∈ segments, KeepsSegment segment) (hquery : KeepsQuery query)
    (host : Host) (port : Option Nat) :
    withTail scheme (some ⟨none, host, port⟩) (pathText segments ++ '?' :: query) =
      signedAddress scheme host port segments query := by
  simp only [withTail, (isSpecial_of_hasDefaultPort hscheme).1,
    readPath_pathText hne hsegments, readTail_of_keeps hquery]
  rfl

/-- A plain query is read as it is behind any path, dot segments or not. -/
theorem query_withTail {scheme : String} {path query : List Char}
    (hscheme : hasDefaultPort scheme = true) (hpath : ∀ c ∈ path, endsPath c = false)
    (hquery : KeepsQuery query) (authority : Option Authority) :
    (withTail scheme authority (path ++ '?' :: query)).query = some (String.ofList query) := by
  simp only [withTail, (isSpecial_of_hasDefaultPort hscheme).1, readPath_snd true hpath,
    readTail_of_keeps hquery]

/-- An address that is put together from an origin, plain segments and a plain
query is read with just these parts, if the host is read at all. -/
theorem read_signedText {scheme : String} {host : Host} {port : Option Nat}
    {segments : List (List Char)} {query : List Char}
    (hscheme : hasDefaultPort scheme = true) (hhost : host.IsSettled)
    (hport : KeepsPort scheme port) (hne : segments ≠ [])
    (hsegments : ∀ segment ∈ segments, KeepsSegment segment) (hquery : KeepsQuery query) :
    read (signedText scheme host port segments query) =
      (Host.read host.written).map fun _ => signedAddress scheme host port segments query := by
  have hpath : pathText segments ++ '?' :: query =
      '/' :: (['/'].intercalate segments ++ '?' :: query) := by
    rw [pathText_eq hne]
    rfl
  have hvisible : ∀ c ∈ pathText segments ++ '?' :: query, 0x20 < c.toNat := by
    intro c hc
    rcases List.mem_append.1 hc with hin | hin
    · exact (of_mem_pathText hsegments hin).1
    · rcases List.mem_cons.1 hin with rfl | hin
      · decide
      · exact lt_toNat_of_mem_query hquery hin
  rw [hpath] at hvisible
  rw [signedText, hpath, read_origin hscheme hhost hport (List.forall_mem_cons.1 hvisible).2,
    ← hpath, withTail_pathText hscheme hne hsegments hquery]

/-- An address that is put together is written as it was put together. -/
theorem written_signedAddress (scheme : String) (host : Host) (port : Option Nat)
    (segments : List (List Char)) (query : List Char) :
    (signedAddress scheme host port segments query).written =
      signedText scheme host port segments query := by
  simp [signedAddress, written, writtenWithoutFragment, authorityWritten, queryWritten,
    AddressPath.written, signedText, pathText, List.flatMap_map]

/-- Without an origin there is no scheme, so no address. -/
theorem read_null {rest : List Char} (hrest : ∀ c ∈ rest, 0x20 < c.toNat) :
    read ("null".toList ++ '/' :: rest) = .error .noScheme := by
  have hletters : ∀ c ∈ "null".toList, 0x20 < c.toNat ∧ isSchemeChar c = true :=
    forall_mem_of_all (by decide)
  have hvisible : ∀ c ∈ "null".toList ++ '/' :: rest, 0x20 < c.toNat := by
    intro c hc
    rcases List.mem_append.1 hc with hin | hin
    · exact (hletters c hin).1
    · rcases List.mem_cons.1 hin with rfl | hin
      · decide
      · exact hrest c hin
  have hnone : readScheme? ("null".toList ++ '/' :: rest) = none := by
    have hspan : ("null".toList ++ '/' :: rest).span isSchemeChar =
        ("null".toList, '/' :: rest) :=
      span_append_stop (fun c hc => (hletters c hc).2) (by decide)
    unfold readScheme?
    rw [hspan]
    rfl
  unfold read
  simp only [clean_eq_self hvisible, hnone]

end SignedAccess.Address
