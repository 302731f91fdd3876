/-
# How headers are written down

What is signed of a header is its name in small letters and the words of its value, and the
headers are put in order only after that. So the letters of a name, the blanks of a value and
the order of the list leave no trace in a signature, and nothing else is without one. Among
headers of one name the values decide, which makes the order one of pairs.

The names stand in the query once more, as one list from the same sorted headers.
-/

import Mathlib.Data.List.Perm.Basic
import SignedAccess.Proofs.Text.Respacing
import SignedAccess.Proofs.Upload.Intent

namespace SignedAccess

open Text

/-! ### Headers that are written differently -/

/-- The letters of the name may be small or capital, and the value may be respaced. -/
structure IsRestyled (header other : String × String) : Prop where
  name : lower header.1.toList = lower other.1.toList
  value : IsRespaced header.2.toList other.2.toList

/-- One list becomes the other when its headers are restyled and then put in another
order. -/
def PresentAlike (headers others : List (String × String)) : Prop :=
  ∃ restyled, List.Forall₂ IsRestyled headers restyled ∧ restyled.Perm others

/-- What is signed of a header. -/
def canonicalHeader (header : String × String) : List Char × List Char :=
  (lower header.1.toList, collapse header.2.toList)

theorem canonicalHeader_eq_iff {header other : String × String} :
    canonicalHeader header = canonicalHeader other ↔ IsRestyled header other := by
  rw [canonicalHeader, canonicalHeader, Prod.mk.injEq, collapse_eq_iff, ← isRespaced_iff]
  exact ⟨fun ⟨hname, hvalue⟩ => ⟨hname, hvalue⟩, fun h => ⟨h.name, h.value⟩⟩

theorem map_canonicalHeader_eq_iff {headers others : List (String × String)} :
    headers.map canonicalHeader = others.map canonicalHeader ↔
      List.Forall₂ IsRestyled headers others := by
  rw [← List.forall₂_eq_eq_eq, List.forall₂_map_left_iff, List.forall₂_map_right_iff]
  simp only [canonicalHeader_eq_iff]

/-- Lists are presented alike exactly when the same is signed of their headers. -/
theorem presentAlike_iff_perm {headers others : List (String × String)} :
    PresentAlike headers others ↔
      (headers.map canonicalHeader).Perm (others.map canonicalHeader) := by
  constructor
  · rintro ⟨restyled, hstyle, hperm⟩
    rw [map_canonicalHeader_eq_iff.2 hstyle]
    exact hperm.map canonicalHeader
  · intro hperm
    have hcomp := congrFun₂ (List.eq_map_comp_perm canonicalHeader)
      (headers.map canonicalHeader) others
    obtain ⟨restyled, hstyle, hperm⟩ := (iff_of_eq hcomp).2 hperm
    exact ⟨restyled, map_canonicalHeader_eq_iff.1 hstyle, hperm⟩

/-! ### The order of headers -/

theorem headerLe_total (a b : List Char × List Char) :
    headerLe a b = true ∨ headerLe b a = true := by
  unfold headerLe
  by_cases hname : a.1 = b.1
  · rw [if_pos hname, if_pos hname.symm]
    exact comesFirst_total _ _
  · rw [if_neg hname, if_neg (Ne.symm hname)]
    exact comesFirst_total _ _

theorem headerLe_antisymm {a b : List Char × List Char} (hab : headerLe a b = true)
    (hba : headerLe b a = true) : a = b := by
  unfold headerLe at hab hba
  by_cases hname : a.1 = b.1
  · rw [if_pos hname] at hab
    rw [if_pos hname.symm] at hba
    exact Prod.ext hname (comesFirst_antisymm hab hba)
  · rw [if_neg hname] at hab
    rw [if_neg (Ne.symm hname)] at hba
    exact absurd (comesFirst_antisymm hab hba) hname

/-- Headers in order have their names in order. -/
theorem comesFirst_of_headerLe {a b : List Char × List Char} (hab : headerLe a b = true) :
    comesFirst a.1 b.1 = true := by
  unfold headerLe at hab
  by_cases hname : a.1 = b.1
  · rw [hname]
    exact (or_self_iff).1 (comesFirst_total b.1 b.1)
  · rwa [if_neg hname] at hab

theorem headerLe_trans {a b c : List Char × List Char} (hab : headerLe a b = true)
    (hbc : headerLe b c = true) : headerLe a c = true := by
  have hnames := comesFirst_trans (comesFirst_of_headerLe hab) (comesFirst_of_headerLe hbc)
  by_cases hac : a.1 = c.1
  · -- the name in the middle is caught between equal ones, so the values were compared
    have hfirst : a.1 = b.1 :=
      comesFirst_antisymm (comesFirst_of_headerLe hab) (hac ▸ comesFirst_of_headerLe hbc)
    have hsecond : b.1 = c.1 := hfirst.symm.trans hac
    rw [headerLe, if_pos hfirst] at hab
    rw [headerLe, if_pos hsecond] at hbc
    rw [headerLe, if_pos hac]
    exact comesFirst_trans hab hbc
  · rwa [headerLe, if_neg hac]

namespace SigningOrder

variable (order : SigningOrder) (host : List Char)

theorem signedHeaders_perm :
    (order.signedHeaders host).Perm
      (order.headers.map canonicalHeader ++ [("host".toList, host)]) :=
  List.mergeSort_perm _ _

theorem pairwise_signedHeaders :
    (order.signedHeaders host).Pairwise fun a b => headerLe a b = true :=
  @List.pairwise_mergeSort _ headerLe (fun _ _ _ => headerLe_trans)
    (fun a b => (Bool.or_eq_true _ _).mpr (headerLe_total a b)) _

/-- Sorted lists with the same entries are equal, and the host is an entry of both. -/
theorem signedHeaders_eq_iff (other : SigningOrder) :
    order.signedHeaders host = other.signedHeaders host ↔
      (order.headers.map canonicalHeader).Perm (other.headers.map canonicalHeader) := by
  rw [← List.perm_append_right_iff [("host".toList, host)]]
  have horder := order.signedHeaders_perm host
  have hother := other.signedHeaders_perm host
  constructor
  · intro hsame
    rw [hsame] at horder
    exact horder.symm.trans hother
  · intro hperm
    refine List.Perm.eq_of_pairwise (fun a b _ _ hab hba => headerLe_antisymm hab hba)
      (order.pairwise_signedHeaders host) (other.pairwise_signedHeaders host) ?_
    exact horder.trans (hperm.trans hother.symm)

/-- Orders whose headers are presented alike, and which are equal otherwise, agree on all
that is signed. -/
theorem agrees_of_presentAlike {headers : List (String × String)}
    (halike : PresentAlike order.headers headers) : order.Agrees { order with headers } where
  method := rfl
  path := rfl
  headers := fun host =>
    (order.signedHeaders_eq_iff host { order with headers }).2 (presentAlike_iff_perm.1 halike)
  region := rfl
  expires := rfl
  second := rfl

/-! ### The list of names -/

theorem ne_semicolon_of_mem_lower {cs : List Char} (hcs : ';' ∉ cs) {c : Char}
    (hc : c ∈ lower cs) : (c == ';') = false := by
  obtain ⟨d, hd, rfl⟩ := List.mem_map.1 hc
  rw [beq_eq_false_iff_ne]
  intro hlower
  have hlow : d.toNat < 0x80 := toNat_lt_of_toLower (by rw [hlower]; decide)
  have hsame : d = ';' := by
    refine forall_ascii (p := fun e => e.toLower = ';' → e = ';') ?_ hlow hlower
    decide
  exact hcs (hsame ▸ hd)

/-- Read at its semicolons, the list of names is in order and holds every name once for
each header that has it. -/
theorem fields_headerNames_sorted (hnames : ∀ header ∈ order.headers, ';' ∉ header.1.toList) :
    (fields (· == ';') (order.headerNames host)).Pairwise
        (fun name next => comesFirst name next = true) ∧
      (fields (· == ';') (order.headerNames host)).Perm
        ("host".toList :: order.headers.map fun header => lower header.1.toList) := by
  have hperm := order.signedHeaders_perm host
  have hne : order.signedHeaders host ≠ [] := by
    intro hnil
    rw [hnil, List.nil_perm] at hperm
    exact absurd (List.append_eq_nil_iff.1 hperm).2 (List.cons_ne_nil _ _)
  have hplain : ∀ header ∈ order.signedHeaders host, ∀ c ∈ header.1, (c == ';') = false := by
    intro header hheader
    rcases List.mem_append.1 (hperm.mem_iff.1 hheader) with hgiven | hhost
    · obtain ⟨given, hin, rfl⟩ := List.mem_map.1 hgiven
      exact fun c hc => ne_semicolon_of_mem_lower (hnames given hin) hc
    · have hword : ∀ c ∈ "host".toList, (c == ';') = false := forall_mem_of_all (by decide)
      rw [List.mem_singleton.1 hhost]
      exact hword
  rw [fields_headerNames hne hplain]
  constructor
  · exact List.pairwise_map.2
      ((order.pairwise_signedHeaders host).imp fun hle => comesFirst_of_headerLe hle)
  · have hmapped := hperm.map (·.1)
    rw [List.map_append, List.map_map] at hmapped
    exact hmapped.trans (List.perm_append_singleton _ _)

end SigningOrder

/-! ### The query of a signed address -/

theorem uriEncode_toHex (bs : List UInt8) (encodeSlash : Bool) :
    uriEncode (toHex bs) encodeSlash = toHex bs := by
  have hdigits : ∀ c ∈ toHex bs, c.toNat < 0x80 ∧ isUnreserved (UInt8.ofNat c.toNat) = true :=
    forall_mem_toHex (by decide)
  refine escape_eq_self fun c hc => ?_
  obtain ⟨hlow, hkept⟩ := hdigits c hc
  exact ⟨hlow, by rw [hkept, Bool.true_or]⟩

/-- The signature is one more member, and no escape in it is needed. -/
theorem queryMembers_signedQuery (order : SigningOrder) (credentials : Credentials)
    (host : List Char) :
    queryMembers (order.signedQuery credentials host) =
      order.queryPairs credentials.accessKey host ++
        [("X-Amz-Signature".toList, order.signature credentials host)] := by
  have hname : uriEncode "X-Amz-Signature".toList true = "X-Amz-Signature".toList := by decide
  have hvalue : uriEncode (order.signature credentials host) true =
      order.signature credentials host := uriEncode_toHex _ _
  rw [← @queryMembers_intercalate (order.queryPairs credentials.accessKey host ++ _)
    (List.append_ne_nil_of_left_ne_nil (List.cons_ne_nil _ _) _)]
  refine congrArg queryMembers ?_
  simp only [SigningOrder.signedQuery, SigningOrder.query, SigningOrder.queryPairs,
    List.map_cons, List.map_nil, List.cons_append, List.nil_append, hname, hvalue,
    List.intercalate_cons_cons, List.intercalate_singleton, List.append_assoc]

theorem SigningOrder.hasPlainPath_of_objectPath {order : SigningOrder} {bucket : String}
    {key : Option String} (hpath : order.path = objectPath bucket key) : order.HasPlainPath where
  slash := ⟨_, hpath⟩
  chars := by
    intro c hc
    rw [hpath] at hc
    rcases mem_objectPath hc with rfl | hchar
    · decide
    · refine forall_ascii (p := fun d => isUriChar d = true →
        0x20 < d.toNat ∧ Address.endsPath d = false) ?_ (toNat_lt_of_isUriChar hchar) hchar
      decide

/-- How headers are presented leaves no trace in a signature: lists that differ in the case of
names, in the blanks of values and in their order are signed with one result, an address or
a fault, and what is signed tells every other two lists apart. Where the path is that of an
object or a bucket and no name has a semicolon, the list of names in the query of the signed
address is in order and holds the host and every name in small letters, as often as it was
given. -/
theorem presentation_leaves_no_trace (order : SigningOrder) (headers : List (String × String))
    (credentials : Credentials) (endpoint : Address) :
    let other : SigningOrder := { order with headers }
    let listName := "X-Amz-SignedHeaders".toList
    (PresentAlike order.headers headers →
      order.sign credentials endpoint = other.sign credentials endpoint) ∧
    ((∀ host, order.signedHeaders host = other.signedHeaders host) ↔
      PresentAlike order.headers headers) ∧
    ∀ text bucket key address, Address.read text = .ok endpoint →
      order.path = objectPath bucket key →
      (∀ header ∈ order.headers, ';' ∉ header.1.toList) →
      order.sign credentials endpoint = .ok address →
      ∃ query names, address.query = some query ∧
        (queryMembers query.toList).filter (·.1 == listName) = [(listName, names)] ∧
        (fields (· == ';') names).Pairwise (fun name next => comesFirst name next = true) ∧
        (fields (· == ';') names).Perm
          ("host".toList :: order.headers.map fun header => lower header.1.toList) := by
  intro other listName
  refine ⟨fun halike => (order.agrees_of_presentAlike halike).sign_eq credentials endpoint, ?_, ?_⟩
  · rw [presentAlike_iff_perm]
    exact ⟨fun hsame => (order.signedHeaders_eq_iff [] other).1 (hsame []),
      fun hperm host => (order.signedHeaders_eq_iff host other).2 hperm⟩
  · intro text bucket key address hread hpath hnames hsign
    obtain ⟨host, hquery⟩ := SigningOrder.query_of_sign hread
      (SigningOrder.hasPlainPath_of_objectPath hpath) hsign
    refine ⟨_, order.headerNames host, hquery, ?_, order.fields_headerNames_sorted host hnames⟩
    rw [String.toList_ofList, queryMembers_signedQuery]
    rfl

/-- Two values of one name change places, and so does everything else. The two dots of the
key are resolved after signing, which the query does not notice. -/
theorem presentation_leaves_no_trace_at_loopback :
    let order : SigningOrder :=
      { method := "PUT", path := objectPath "marketplace" (some "photos/../crane 1.jpg")
        headers := [("X-Tag", "red  crane"), ("content-type", " image/jpeg"), ("x-tag", "blue")]
        region := "us-east-1", expires := 60, issuedAt := leapBeforeYearZero }
    let headers := [("x-TAG", "blue\t"), ("X-Tag", "red crane"), ("Content-Type", "image/jpeg")]
    let other : SigningOrder := { order with headers }
    let listName := "X-Amz-SignedHeaders".toList
    ∃ address query names, order.sign loopback.credentials loopback.endpoint = .ok address ∧
      other.sign loopback.credentials loopback.endpoint = .ok address ∧
      address.query = some query ∧
      (queryMembers query.toList).filter (·.1 == listName) = [(listName, names)] ∧
      (fields (· == ';') names).Perm
        ["host".toList, "x-tag".toList, "content-type".toList, "x-tag".toList] := by
  intro order headers other listName
  have halike : PresentAlike order.headers headers :=
    presentAlike_iff_perm.2 (by decide)
  have hnames : ∀ header ∈ order.headers, ';' ∉ header.1.toList := by decide
  have hpath : order.path = objectPath "marketplace" (some "photos/../crane 1.jpg") := rfl
  have hsign := @SigningOrder.sign_eq_withTail order loopback.credentials loopback.endpoint _
    (SigningOrder.hasPlainPath_of_objectPath hpath) rfl rfl loopback.host_isSettled
    loopback.keepsPort
  rw [loopback.read_host] at hsign
  obtain ⟨hsame, -, hlist⟩ :=
    presentation_leaves_no_trace order headers loopback.credentials loopback.endpoint
  obtain ⟨query, names, hquery, hmembers, -, hperm⟩ :=
    hlist _ _ _ _ loopback.read_endpoint hpath hnames hsign
  exact ⟨_, query, names, hsign, (hsame halike).symm.trans hsign, hquery, hmembers, hperm⟩

end SignedAccess
