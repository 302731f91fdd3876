/-
# Names of buckets, label by label

The check of a bucket name looks at the whole text: at its ends and for pairs of joints
side by side. The rule is one for each label between points. Both say the same because
every end of a label is an end of the name or stands beside a point; the labels are gone
through from the left, and what is asked of the text after a point is asked of the labels
after the first.
-/

import SignedAccess.Proofs.Text.Numerals
import SignedAccess.Proofs.Upload.HeadOfBucket

namespace SignedAccess

open Text Time

/-! ### The grammar -/

/-- A label of a bucket name: letters, digits and hyphens, and a letter or a digit at
either end, so it is not empty. -/
structure IsLabel (label : List Char) : Prop where
  chars : ∀ c ∈ label, isLowerOrDigit c = true ∨ c = '-'
  first : ∃ c ∈ label.head?, isLowerOrDigit c = true
  last : ∃ c ∈ label.getLast?, isLowerOrDigit c = true

/-- A label that writes one byte of an address: one to three digits of a number up to
255. -/
structure IsByteLabel (label : List Char) : Prop where
  length : 1 ≤ label.length ∧ label.length ≤ 3
  digits : ∀ c ∈ label, c.isDigit = true
  value : valueIn 10 0 label ≤ 255

/-- A name by the grammar: 3 to 63 bytes, labels between points, and not four labels that
write bytes. -/
structure IsBucketName (name : List Char) : Prop where
  length : 3 ≤ (encode name).length ∧ (encode name).length ≤ 63
  labels : ∀ label ∈ fields (· == '.') name, IsLabel label
  notAddress : ¬((fields (· == '.') name).length = 4 ∧
    ∀ label ∈ fields (· == '.') name, IsByteLabel label)

/-! ### Ends without joints -/

/-- The text begins with a character that is no joint. -/
def BeginsFirm (cs : List Char) : Prop := ∃ c ∈ cs.head?, isJoint c = false

/-- The text ends with a character that is no joint. -/
def EndsFirm (cs : List Char) : Prop := ∃ c ∈ cs.getLast?, isJoint c = false

theorem isJoint_eq_false_iff {c : Char} : isJoint c = false ↔ c ≠ '.' ∧ c ≠ '-' := by
  simp [isJoint]

theorem beginsFirm_iff {cs : List Char} (hne : cs ≠ []) :
    BeginsFirm cs ↔ ¬(cs.head?.map isJoint) = some true := by
  obtain ⟨c, rest, rfl⟩ := List.exists_cons_of_ne_nil hne
  simp [BeginsFirm]

theorem endsFirm_iff {cs : List Char} (hne : cs ≠ []) :
    EndsFirm cs ↔ ¬(cs.getLast?.map isJoint) = some true := by
  rw [EndsFirm, List.getLast?_eq_getLast_of_ne_nil hne]
  simp

/-! ### One point -/

variable {label rest : List Char}

/-- A label before a point has no point of its own. -/
def HasNoPoint (label : List Char) : Prop := ∀ c ∈ label, c ≠ '.'

theorem beginsFirm_append_point :
    BeginsFirm (label ++ '.' :: rest) ↔ BeginsFirm label := by
  cases label with
  | nil => simp [BeginsFirm, isJoint]
  | cons c more => simp [BeginsFirm]

theorem endsFirm_append_point :
    EndsFirm (label ++ '.' :: rest) ↔ EndsFirm rest := by
  have hlast : (label ++ '.' :: rest).getLast? = some (rest.getLast?.getD '.') := by
    rw [List.getLast?_append_cons, List.getLast?_cons]
  cases hrest : rest.getLast? with
  | none => simp [EndsFirm, hlast, hrest, isJoint]
  | some c => simp [EndsFirm, hlast, hrest]

/-- Pairs of joints need a point. -/
theorem hasBadPair_of_hasNoPoint (hlabel : HasNoPoint label) : hasBadPair label = false := by
  induction label with
  | nil => rfl
  | cons c more ih =>
      obtain ⟨hc, hmore⟩ := List.forall_mem_cons.1 hlabel
      cases more with
      | nil => rfl
      | cons d others =>
          have hd : d ≠ '.' := hmore d List.mem_cons_self
          rw [hasBadPair, ih hmore]
          simp [hc, hd]

/-- Around a point stand no joints exactly when the label before it ends and the text
after it begins without one. -/
theorem hasBadPair_append_point (hlabel : HasNoPoint label) (hfirm : label ≠ [])
    (hrest : rest ≠ []) :
    hasBadPair (label ++ '.' :: rest) = false ↔
      EndsFirm label ∧ BeginsFirm rest ∧ hasBadPair rest = false := by
  induction label with
  | nil => exact absurd rfl hfirm
  | cons c more ih =>
      obtain ⟨hc, hmore⟩ := List.forall_mem_cons.1 hlabel
      cases more with
      | nil =>
          obtain ⟨d, others, rfl⟩ := List.exists_cons_of_ne_nil hrest
          simp [hasBadPair, EndsFirm, BeginsFirm, isJoint_eq_false_iff, hc]
      | cons d others =>
          have hd : d ≠ '.' := hmore d List.mem_cons_self
          have hstep := ih hmore (List.cons_ne_nil d others)
          have hlast : EndsFirm (c :: d :: others) ↔ EndsFirm (d :: others) := by
            rw [EndsFirm, List.getLast?_cons_cons]
            rfl
          have hpair : hasBadPair (c :: d :: others ++ '.' :: rest) =
              hasBadPair (d :: others ++ '.' :: rest) := by
            simp [hasBadPair, hc, hd]
          rw [hpair, hlast, hstep]

/-! ### All labels -/

/-- The ends of a name are firm and no joints stand side by side exactly when the ends of
all its labels are firm. -/
theorem firm_intercalate_iff {labels : List (List Char)} (hne : labels ≠ [])
    (hlabels : ∀ label ∈ labels, HasNoPoint label) :
    (BeginsFirm (['.'].intercalate labels) ∧ EndsFirm (['.'].intercalate labels) ∧
        hasBadPair (['.'].intercalate labels) = false) ↔
      ∀ label ∈ labels, BeginsFirm label ∧ EndsFirm label := by
  induction labels with
  | nil => exact absurd rfl hne
  | cons first more ih =>
      obtain ⟨hfirst, hmore⟩ := List.forall_mem_cons.1 hlabels
      cases more with
      | nil =>
          rw [List.intercalate_singleton, hasBadPair_of_hasNoPoint hfirst]
          simp
      | cons second others =>
          have hstep := ih (List.cons_ne_nil second others) hmore
          rw [List.forall_mem_cons, ← hstep, List.intercalate_cons_cons, List.append_assoc,
            List.singleton_append, beginsFirm_append_point, endsFirm_append_point]
          generalize ['.'].intercalate (second :: others) = rest
          -- a firm end shows that the texts around the point are not empty
          constructor
          · rintro ⟨hbegins, hends, hpairs⟩
            have hnefirst : first ≠ [] := by
              rintro rfl
              simp [BeginsFirm] at hbegins
            have hnerest : rest ≠ [] := by
              rintro rfl
              simp [EndsFirm] at hends
            obtain ⟨hlast, hhead, hnone⟩ :=
              (hasBadPair_append_point hfirst hnefirst hnerest).1 hpairs
            exact ⟨⟨hbegins, hlast⟩, hhead, hends, hnone⟩
          · rintro ⟨⟨hbegins, hlast⟩, hhead, hends, hnone⟩
            have hnefirst : first ≠ [] := by
              rintro rfl
              simp [BeginsFirm] at hbegins
            have hnerest : rest ≠ [] := by
              rintro rfl
              simp [EndsFirm] at hends
            exact ⟨hbegins, hends,
              (hasBadPair_append_point hfirst hnefirst hnerest).2 ⟨hlast, hhead, hnone⟩⟩

theorem isLowerOrDigit_iff {c : Char} :
    isLowerOrDigit c = true ↔ isBucketChar c = true ∧ isJoint c = false := by
  constructor
  · intro hc
    have hjoint : isJoint c = false := by
      rw [isJoint_eq_false_iff]
      constructor
      all_goals
        rintro rfl
        exact absurd hc (by decide)
    exact ⟨by rw [isBucketChar, hc]; rfl, hjoint⟩
  · rintro ⟨hchar, hjoint⟩
    obtain ⟨hpoint, hhyphen⟩ := isJoint_eq_false_iff.1 hjoint
    simpa [isBucketChar, hpoint, hhyphen] using hchar

/-- A text without points is a label exactly when its characters may stand in a name and
its ends are firm. -/
theorem isLabel_iff (hlabel : HasNoPoint label) :
    IsLabel label ↔ (∀ c ∈ label, isBucketChar c = true) ∧ BeginsFirm label ∧ EndsFirm label := by
  constructor
  · intro h
    refine ⟨fun c hc => ?_, ?_, ?_⟩
    · rcases h.chars c hc with hchar | rfl
      · exact (isLowerOrDigit_iff.1 hchar).1
      · decide
    · obtain ⟨c, hc, hchar⟩ := h.first
      exact ⟨c, hc, (isLowerOrDigit_iff.1 hchar).2⟩
    · obtain ⟨c, hc, hchar⟩ := h.last
      exact ⟨c, hc, (isLowerOrDigit_iff.1 hchar).2⟩
  · rintro ⟨hchars, ⟨c, hc, hfirst⟩, ⟨d, hd, hlast⟩⟩
    refine ⟨fun e he => ?_, ⟨c, hc, ?_⟩, ⟨d, hd, ?_⟩⟩
    · by_cases hhyphen : e = '-'
      · exact Or.inr hhyphen
      · exact Or.inl (isLowerOrDigit_iff.2
          ⟨hchars e he, isJoint_eq_false_iff.2 ⟨hlabel e he, hhyphen⟩⟩)
    · exact isLowerOrDigit_iff.2 ⟨hchars c (List.mem_of_mem_head? hc), hfirst⟩
    · exact isLowerOrDigit_iff.2 ⟨hchars d (List.mem_of_mem_getLast? hd), hlast⟩

theorem hasNoPoint_of_mem_fields {name : List Char} (hlabel : label ∈ fields (· == '.') name) :
    HasNoPoint label := by
  intro c hc
  have hmark := isMark_eq_false_of_mem_fields hlabel hc
  exact beq_eq_false_iff_ne.1 hmark

/-- What the check asks of the whole name is what the grammar asks of every label. -/
theorem labels_iff (name : List Char) :
    (∀ label ∈ fields (· == '.') name, IsLabel label) ↔
      (∀ c ∈ name, isBucketChar c = true) ∧ BeginsFirm name ∧ EndsFirm name ∧
        hasBadPair name = false := by
  have hfirm := firm_intercalate_iff (fields_ne_nil (· == '.') name)
    fun label hlabel => hasNoPoint_of_mem_fields hlabel
  rw [intercalate_fields] at hfirm
  rw [hfirm]
  constructor
  · intro h
    refine ⟨fun c hc => ?_, fun label hlabel => ?_⟩
    · rw [← intercalate_fields '.' name] at hc
      rcases mem_intercalate hc with rfl | ⟨label, hlabel, hin⟩
      · decide
      · exact ((isLabel_iff (hasNoPoint_of_mem_fields hlabel)).1 (h label hlabel)).1 c hin
    · exact ((isLabel_iff (hasNoPoint_of_mem_fields hlabel)).1 (h label hlabel)).2
  · rintro ⟨hchars, hends⟩ label hlabel
    refine (isLabel_iff (hasNoPoint_of_mem_fields hlabel)).2 ⟨fun c hc => ?_, hends label hlabel⟩
    apply hchars
    rw [← intercalate_fields '.' name]
    exact mem_intercalate_of_mem hlabel hc

/-! ### Names like addresses -/

theorem isByteText_iff : isByteText label = true ↔ IsByteLabel label := by
  have hread : isByteText label = true ↔ (label ≠ [] ∧ label.length ≤ 3) ∧
      (∀ c ∈ label, c.isDigit = true) ∧ ∃ n, readNat 255 label = .ok n := by
    unfold isByteText
    cases readNat 255 label <;> simp [and_assoc]
  rw [hread]
  constructor
  · rintro ⟨⟨hne, hlength⟩, hdigits, n, hn⟩
    obtain ⟨digits, hlabel, -, -, rfl, hvalue⟩ := readNat_eq_ok_iff.1 hn
    refine ⟨⟨List.length_pos_iff.2 hne, hlength⟩, hdigits, ?_⟩
    rcases hlabel with rfl | rfl
    · exact hvalue
    · exact absurd (hdigits '+' List.mem_cons_self) (by decide)
  · intro h
    have hne : label ≠ [] := List.length_pos_iff.1 h.length.1
    exact ⟨⟨hne, h.length.2⟩, h.digits, _, readNat_of_isDigit hne h.digits h.value⟩

theorem isPointedQuad_iff {name : List Char} :
    isPointedQuad name = true ↔ (fields (· == '.') name).length = 4 ∧
      ∀ label ∈ fields (· == '.') name, IsByteLabel label := by
  simp only [isPointedQuad, Bool.and_eq_true, beq_iff_eq, List.all_eq_true, isByteText_iff]

/-! ### Accepted names -/

/-- One rule after the other is kept. -/
theorem rule_eq_none_iff {broken : Prop} [Decidable broken] {rule : BucketRule}
    {next : Option BucketRule} :
    (if broken then some rule else next) = none ↔ ¬broken ∧ next = none := by
  split <;> simp [*]

/-- A name breaks no rule exactly when it follows the grammar. -/
theorem brokenRule?_eq_none_iff {name : List Char} :
    brokenRule? name = none ↔ IsBucketName name := by
  have hgrammar : IsBucketName name ↔
      (3 ≤ (encode name).length ∧ (encode name).length ≤ 63) ∧
        ((∀ c ∈ name, isBucketChar c = true) ∧ BeginsFirm name ∧ EndsFirm name ∧
          hasBadPair name = false) ∧ ¬isPointedQuad name = true := by
    rw [← labels_iff, isPointedQuad_iff]
    exact ⟨fun h => ⟨h.length, h.labels, h.notAddress⟩, fun ⟨hl, hn, ha⟩ => ⟨hl, hn, ha⟩⟩
  have hlength : ¬((encode name).length < 3 ∨ 63 < (encode name).length) ↔
      3 ≤ (encode name).length ∧ (encode name).length ≤ 63 := by omega
  simp only [brokenRule?, rule_eq_none_iff, hgrammar, hlength, not_or, Bool.not_eq_true',
    Bool.not_eq_false, List.all_eq_true, and_true, Bool.not_eq_true, and_assoc]
  refine and_congr_right fun hthree => and_congr_right fun _ => and_congr_right fun _ => ?_
  have hne : name ≠ [] := by
    rintro rfl
    exact absurd hthree (by decide)
  rw [beginsFirm_iff hne, endsFirm_iff hne]

/-- Reading an address leaves the path of a bucket alone. -/
theorem readPath_of_brokenRule? {name : String} (hname : brokenRule? name.toList = none)
    (query : List Char) :
    Address.readPath true (objectPath name none ++ '?' :: query) =
      (.segments [name], '?' :: query) := by
  have hpath : objectPath name none = Address.pathText [name.toList] := by
    rw [objectPath_of_brokenRule? hname]
    simp [Address.pathText]
  have hkeeps := keepsSegment_bucket hname
  rw [uriEncode_of_brokenRule? hname] at hkeeps
  rw [hpath, Address.readPath_pathText (List.cons_ne_nil _ _) (List.forall_mem_singleton.2 hkeeps),
    List.map_singleton, String.ofList_toList]

/-- The check accepts just the names that follow the grammar. An accepted name is not
changed by escaping and is no dot segment, however dots are spelled, so the path that its
bucket is asked for with is the name after a slash, as it is signed and as it is read
again. -/
theorem bucket_names_follow_grammar (name : String) :
    (checkBucket name = .ok () ↔ IsBucketName name.toList) ∧
      (checkBucket name = .ok () →
        (∀ encodeSlash, uriEncode name.toList encodeSlash = name.toList) ∧
        (Address.isSingleDot name.toList = false ∧ Address.isDoubleDot name.toList = false) ∧
        objectPath name none = '/' :: name.toList ∧
        (∀ query, Address.readPath true (objectPath name none ++ '?' :: query) =
          (.segments [name], '?' :: query)) ∧
        ∀ (storage : Storage) (now : Instant) (text : List Char) (address : Address),
          Address.read text = .ok storage.endpoint →
          storage.sign (storage.headOrder name now) = .ok address →
          address.path.written = '/' :: name.toList) := by
  refine ⟨checkBucket_eq_ok_iff.trans brokenRule?_eq_none_iff, fun haccepted => ?_⟩
  have hname := checkBucket_eq_ok_iff.1 haccepted
  have hkeeps := keepsSegment_bucket hname
  rw [uriEncode_of_brokenRule? hname] at hkeeps
  refine ⟨uriEncode_of_brokenRule? hname, ⟨hkeeps.single, hkeeps.double⟩,
    objectPath_of_brokenRule? hname, readPath_of_brokenRule? hname, ?_⟩
  intro storage now text address hread hsign
  obtain ⟨_, _, hwritten, _⟩ :=
    SigningOrder.of_sign hread (storage.hasPath_headOrder now hname) (Storage.of_sign hsign)
  exact hwritten.trans (objectPath_of_brokenRule? hname)

/-- Four labels of digits are a name where one of them writes no byte, and its bucket is
asked for by this name. -/
theorem bucket_names_follow_grammar_near_address :
    let name := "10.0-0.256.1"
    IsBucketName name.toList ∧
      ∃ address, loopback.sign (loopback.headOrder name leapBeforeYearZero) = .ok address ∧
        address.path.written = '/' :: name.toList := by
  intro name
  have haccepted : checkBucket name = .ok () := by decide +kernel
  obtain ⟨hgrammar, hpath⟩ := bucket_names_follow_grammar name
  have hsign :=
    loopback.isSpoken.sign_headOrder (checkBucket_eq_ok_iff.1 haccepted) leapBeforeYearZero
  obtain ⟨-, -, -, -, hread⟩ := hpath haccepted
  exact ⟨hgrammar.1 haccepted, _, hsign,
    hread loopback leapBeforeYearZero _ _ loopback.read_endpoint hsign⟩

end SignedAccess
