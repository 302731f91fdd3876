/-
# Reserved fronts, from the variable to the refusal

A list of fronts can be written into its variable in many ways: commas divide the
entries, blanks may stand around each of them, and blank entries may stand anywhere.
All of them are read as the same list, no other part of the configuration hangs on the
variable, and the policy refuses with the first front of the list that a key begins
with. Fronts are texts of any characters but the comma; a front that is empty, or that
begins or ends with a blank, cannot be written.
-/

import SignedAccess.Proofs.Setup.Reading
import SignedAccess.Proofs.Text.Spacing
import SignedAccess.Proofs.Upload.BucketCheck

namespace SignedAccess

open Text Time

/-! ### Texts with blanks around them -/

namespace Text

theorem trim_of_blank {cs : List Char} (hblank : ∀ c ∈ cs, isBlank c = true) : trim cs = [] := by
  rw [trim, dropEnds, List.dropWhile_eq_nil_iff.2 hblank]
  rfl

/-- Trimming takes the blanks around a text that has none at its own ends. -/
theorem trim_surrounded {before cs after : List Char} (hbefore : ∀ c ∈ before, isBlank c = true)
    (hafter : ∀ c ∈ after, isBlank c = true) (hsame : trim cs = cs) :
    trim (before ++ cs ++ after) = cs := by
  cases cs with
  | nil =>
      apply trim_of_blank
      intro c hc
      rw [List.append_nil, List.mem_append] at hc
      exact hc.elim (hbefore c) (hafter c)
  | cons first rest =>
      obtain ⟨hhead, hlast⟩ := ends_of_dropEnds_eq_self hsame
      have hfront : (before ++ (first :: rest) ++ after).dropWhile isBlank =
          (first :: rest) ++ after := by
        rw [List.append_assoc, List.cons_append,
          dropWhile_append_stop hbefore (hhead first rfl)]
      obtain ⟨last, more, hreverse⟩ : ∃ last more, (first :: rest).reverse = last :: more :=
        List.exists_cons_of_ne_nil (by simp)
      have hend : isBlank last = false := by
        apply hlast
        rw [List.getLast?_eq_head?_reverse, hreverse]
        rfl
      rw [trim, dropEnds, hfront, dropEnd, List.reverse_append, hreverse,
        dropWhile_append_stop (fun c hc => hafter c (List.mem_reverse.1 hc)) hend, ← hreverse,
        List.reverse_reverse]

end Text

/-! ### Writing fronts -/

/-- The variable that the reserved fronts are written in. -/
def reservedVariable : String := "MARKET_RESERVED_PREFIXES"

/-- A text that can be reserved: not empty, without commas, and without blanks at its
ends. -/
structure IsFront (front : String) : Prop where
  ne_nil : front.toList ≠ []
  no_comma : ',' ∉ front.toList
  trimmed : trim front.toList = front.toList

/-- Entries that write down fronts: each front in its turn with blanks around it, and
blank entries anywhere. -/
inductive Lists : List String → List (List Char) → Prop
  | done : Lists [] []
  | blank {fronts : List String} {entries : List (List Char)} {blanks : List Char}
      (hblanks : ∀ c ∈ blanks, isBlank c = true) (hrest : Lists fronts entries) :
      Lists fronts (blanks :: entries)
  | front {fronts : List String} {entries : List (List Char)} {front : String}
      (before after : List Char) (hbefore : ∀ c ∈ before, isBlank c = true)
      (hafter : ∀ c ∈ after, isBlank c = true) (hrest : Lists fronts entries) :
      Lists (front :: fronts) ((before ++ front.toList ++ after) :: entries)

/-- A text writes down fronts: its entries do, with commas between them. -/
def Writes (fronts : List String) (text : String) : Prop :=
  ∃ entries, Lists fronts entries ∧ text.toList = [','].intercalate entries

namespace Lists

variable {fronts : List String} {entries : List (List Char)}

theorem no_comma (h : Lists fronts entries) (hfronts : ∀ front ∈ fronts, IsFront front) :
    ∀ entry ∈ entries, ∀ c ∈ entry, (c == ',') = false := by
  have hblank : ∀ c : Char, isBlank c = true → c ≠ ',' := by
    rintro c hc rfl
    exact absurd hc (by decide)
  induction h with
  | done => exact fun entry hentry => absurd hentry List.not_mem_nil
  | blank hblanks hrest ih =>
      intro entry hentry c hc
      rcases List.mem_cons.1 hentry with rfl | hin
      · exact beq_eq_false_iff_ne.2 (hblank c (hblanks c hc))
      · exact ih hfronts entry hin c hc
  | @front _ _ front before after hbefore hafter hrest ih =>
      intro entry hentry c hc
      rcases List.mem_cons.1 hentry with rfl | hin
      · rw [beq_eq_false_iff_ne]
        rw [List.append_assoc, List.mem_append, List.mem_append] at hc
        rcases hc with hc | hc | hc
        · exact hblank c (hbefore c hc)
        · rintro rfl
          exact (hfronts front List.mem_cons_self).no_comma hc
        · exact hblank c (hafter c hc)
      · exact ih (fun other hother => hfronts other (List.mem_cons_of_mem _ hother)) entry hin c hc

/-- Of the trimmed entries the ones that are left are the fronts. -/
theorem filter_map_trim (h : Lists fronts entries) (hfronts : ∀ front ∈ fronts, IsFront front) :
    (entries.map trim).filter (!·.isEmpty) = fronts.map String.toList := by
  induction h with
  | done => rfl
  | blank hblanks hrest ih =>
      rw [List.map_cons, trim_of_blank hblanks, List.filter_cons_of_neg (by simp), ih hfronts]
  | @front _ _ front before after hbefore hafter hrest ih =>
      have hfront := hfronts front List.mem_cons_self
      rw [List.map_cons, trim_surrounded hbefore hafter hfront.trimmed,
        List.filter_cons_of_pos (by simpa using hfront.ne_nil), List.map_cons,
        ih fun other hother => hfronts other (List.mem_cons_of_mem _ hother)]

end Lists

/-- However fronts are written down, they are read. -/
theorem readReserved_of_writes {fronts : List String} {text : String}
    (hfronts : ∀ front ∈ fronts, IsFront front) (h : Writes fronts text) :
    readReserved text = fronts := by
  obtain ⟨entries, hlists, htext⟩ := h
  have hread : ((fields (· == ',') text.toList).map trim).filter (!·.isEmpty) =
      fronts.map String.toList := by
    rw [htext]
    by_cases hnone : entries = []
    · rw [hnone] at hlists ⊢
      cases hlists
      rfl
    · rw [fields_intercalate hnone rfl (hlists.no_comma hfronts), hlists.filter_map_trim hfronts]
  rw [readReserved, hread, List.map_map]
  exact (List.map_congr_left fun front _ => String.ofList_toList).trans (List.map_id fronts)

/-! ### What else hangs on the variable -/

namespace Config

variable {env plain : Environment} {config : Config}

/-- Of a configuration only the reserved fronts hang on their variable. -/
theorem read_of_agrees {options : Options}
    (hothers : ∀ name, name ≠ reservedVariable → env.text name = plain.text name)
    (hread : Config.read plain options = .ok config) :
    Config.read env options =
      .ok { config with reserved := readReserved (env.textOr reservedVariable "_system/") } := by
  have htext (name fallback : String) (hname : name ≠ reservedVariable) :=
    Environment.textOr_congr (hothers name hname) fallback
  have hrequired (name : String) (hname : name ≠ reservedVariable) :=
    Environment.required_congr (hothers name hname)
  have hnumber (name : String) (most fallback : Nat) (hname : name ≠ reservedVariable) :=
    Environment.numberOr_congr (hothers name hname) most fallback
  obtain ⟨numbers, credentials, endpoint, hnumbers, haccess, hsecret, hendpoint, rfl, hlongest⟩ :=
    read_eq_ok_iff.1 hread
  have hsame : env.numbers = plain.numbers := by
    simp (disch := decide) only [Environment.numbers, hnumber]
  rw [read_eq_ok_iff]
  refine ⟨numbers, credentials, endpoint, hsame.trans hnumbers,
    (hrequired _ (by decide)).trans haccess, (hrequired _ (by decide)).trans hsecret, ?_, ?_,
    hlongest⟩
  · rwa [endpointText, htext _ _ (by decide)]
  · simp (disch := decide) only [merged, htext]
    rfl

/-- No front of a list that can be written is lost on the way to the policy. -/
theorem reserved_policy (hfronts : ∀ front ∈ config.reserved, IsFront front) :
    config.policy.reserved = config.reserved := by
  apply List.filter_eq_self.2
  intro front hfront
  have hne : front ≠ "" := by
    rintro rfl
    exact (hfronts "" hfront).ne_nil rfl
  simpa using hne

end Config

/-- The same for a whole command line. -/
theorem readSetup_of_agrees {env plain : Environment} {words : List (List UInt8)}
    {config : Config} {command : Option GrantCommand}
    (hothers : ∀ name, name ≠ reservedVariable → env.text name = plain.text name)
    (hread : readSetup plain words = .ok (config, command)) :
    readSetup env words =
      .ok ({ config with reserved := readReserved (env.textOr reservedVariable "_system/") },
        command) := by
  obtain ⟨options, hoptions, hfound, hcommand⟩ := readSetup_eq_ok_iff.1 hread
  exact readSetup_eq_ok_iff.2 ⟨options, hoptions, Config.read_of_agrees hothers hfound, hcommand⟩

/-! ### Refusals -/

namespace GrantPolicy

variable {policy : GrantPolicy} {request : UploadRequest} {key front : String}

/-- Of a request whose bucket and key are fine by themselves, the policy looks at the
reserved fronts next, and only there does it speak of one. -/
theorem check_eq_reserved_iff (hbucket : checkBucket request.bucket = .ok ())
    (hkey : checkKey request.key = .ok ()) :
    policy.check request = .error (.reserved key front) ↔
      key = request.key ∧ policy.reservedFront? request.key = some front := by
  have hafter : (checkContentType request.contentType >>= fun _ =>
      policy.checkExpiry request.expires) ≠ .error (.reserved key front) := by
    unfold checkContentType checkExpiry
    split
    · simp only [bind, Except.bind]
      split <;> simp
    · simp [bind, Except.bind]
  unfold check checkKeyAllowed
  rw [hbucket, hkey]
  cases hfront : policy.reservedFront? request.key with
  | none => simpa [bind, Except.bind, hfront] using hafter
  | some found => simp [bind, Except.bind, eq_comm]

/-- The front that a key is refused with is the first of the list that the key begins
with. -/
theorem reservedFront?_eq_some_iff :
    policy.reservedFront? key = some front ↔
      front.toList <+: key.toList ∧ ∃ before after, policy.reserved = before ++ front :: after ∧
        ∀ other ∈ before, ¬other.toList <+: key.toList := by
  simp only [reservedFront?, List.find?_eq_some_iff_append, List.isPrefixOf_iff_prefix,
    Bool.not_eq_eq_eq_not, Bool.not_true, ← Bool.not_eq_true]

theorem exists_reservedFront?_iff :
    (∃ front, policy.reservedFront? key = some front) ↔
      ∃ front ∈ policy.reserved, front.toList <+: key.toList := by
  rw [← Option.isSome_iff_exists, reservedFront?, List.find?_isSome]
  simp only [List.isPrefixOf_iff_prefix]

end GrantPolicy

/-- However a list of fronts is written into the variable, a configuration that is
acceptable otherwise is accepted, it has just these fronts, in their order, and all of
them come to the policy. A request with a good bucket and a good key is refused for a
front exactly when its key begins with one of the list. The refusal names the key and
the first such front of the list, and nothing is asked of the storage. -/
theorem reserved_fronts_are_refused {ε : Type} (env plain : Environment)
    (words : List (List UInt8)) (config : Config) (command : Option GrantCommand)
    (fronts : List String) (text : String) (hfronts : ∀ front ∈ fronts, IsFront front)
    (hwrites : Writes fronts text) (hvariable : env.text reservedVariable = .ok text)
    (hothers : ∀ name, name ≠ reservedVariable → env.text name = plain.text name)
    (hplain : readSetup plain words = .ok (config, command)) :
    let accepted := { config with reserved := fronts }
    readSetup env words = .ok (accepted, command) ∧
    accepted.service.granter.policy.reserved = fronts ∧
    ∀ (plane : ControlPlane) (line : Line ε) (request : UploadRequest) (now : Instant),
      checkBucket request.bucket = .ok () → checkKey request.key = .ok () →
      let granted := (Granter.mk plane accepted.policy).grant line request now
      ((∃ key front, granted.2 = .error (.policy (.reserved key front))) ↔
        ∃ front ∈ fronts, front.toList <+: request.key.toList) ∧
      ∀ key front, granted.2 = .error (.policy (.reserved key front)) →
        granted.1 = line ∧ key = request.key ∧ front.toList <+: key.toList ∧
        ∃ before after, fronts = before ++ front :: after ∧
          ∀ other ∈ before, ¬other.toList <+: key.toList := by
  intro accepted
  have hread : readReserved (env.textOr reservedVariable "_system/") = fronts := by
    rw [Environment.textOr, hvariable]
    exact readReserved_of_writes hfronts hwrites
  have hpolicy : accepted.policy.reserved = fronts := Config.reserved_policy hfronts
  refine ⟨?_, hpolicy, ?_⟩
  · rw [readSetup_of_agrees hothers hplain, hread]
  · intro plane line request now hbucket hkey granted
    have hrefused (key front : String) :
        granted.2 = .error (.policy (.reserved key front)) ↔
          key = request.key ∧ accepted.policy.reservedFront? request.key = some front :=
      Granter.grant_eq_policy_iff.trans (GrantPolicy.check_eq_reserved_iff hbucket hkey)
    constructor
    · rw [← hpolicy, ← GrantPolicy.exists_reservedFront?_iff]
      simp only [hrefused, exists_and_left, exists_eq_left]
    · intro key front hfault
      obtain ⟨hsame, hfront⟩ := (hrefused key front).1 hfault
      obtain ⟨hbegins, before, after, hsplit, hnone⟩ :=
        GrantPolicy.reservedFront?_eq_some_iff.1 hfront
      rw [hpolicy] at hsplit
      rw [hsame]
      refine ⟨?_, rfl, hbegins, before, after, hsplit, hnone⟩
      exact congrArg Prod.fst (Granter.grant_of_rejected (Granter.grant_eq_policy_iff.1 hfault))

/-- Blanks, also one that is no space, and blank entries between two fronts. -/
theorem reserved_fronts_are_refused_written_loosely :
    let env : Environment :=
      (reservedVariable, bytes ",_system/ ,\t,\u00a0tmp,") :: sparseEnvironment
    let request : UploadRequest := ⟨"marketplace", "tmpfile.bin", "image/jpeg", 60⟩
    let line : Line Unit := .ofTurns true []
    ∃ config, readSetup env [] = .ok (config, none) ∧ config.reserved = ["_system/", "tmp"] ∧
      ∃ key front, ((Granter.mk (.signing loopback) config.policy).grant line request
        leapBeforeYearZero).2 = .error (.policy (.reserved key front)) := by
  intro env request line
  have hplain := @readSetup_of_sparse sparseEnvironment [] {} _ rfl (fun _ _ => rfl) rfl
    sparseEnvironment_numbers (by decide)
  have hfronts : ∀ front ∈ ["_system/", "tmp"], IsFront front := by
    intro front hfront
    simp only [List.mem_cons, List.not_mem_nil, or_false] at hfront
    rcases hfront with rfl | rfl <;> exact ⟨by decide, by decide, by decide⟩
  have hlists : Lists ["_system/", "tmp"]
      [[], "_system/ ".toList, ['\t'], "\u00a0tmp".toList, []] := by
    have hblank : ∀ c ∈ [' ', '\t', '\u00a0'], isBlank c = true :=
      List.all_eq_true.1 (by decide)
    have hone {c : Char} (hc : c ∈ [' ', '\t', '\u00a0']) : ∀ d ∈ [c], isBlank d = true :=
      List.forall_mem_singleton.2 (hblank c hc)
    have hnone : ∀ d ∈ ([] : List Char), isBlank d = true := List.forall_mem_nil _
    refine .blank hnone (.front [] [' '] hnone (hone (by simp)) ?_)
    refine .blank (hone (by simp)) (.front ['\u00a0'] [] (hone (by simp)) hnone ?_)
    exact .blank hnone .done
  have hvariable : env.text reservedVariable = .ok ",_system/ ,\t,\u00a0tmp," := by
    decide +kernel
  have hothers : ∀ name, name ≠ reservedVariable → env.text name = sparseEnvironment.text name :=
    fun name hname => Environment.text_cons_of_ne hname
  obtain ⟨haccepted, -, hrefuses⟩ := reserved_fronts_are_refused (ε := Unit) env
    sparseEnvironment [] _ none _ _ hfronts ⟨_, hlists, rfl⟩ hvariable hothers hplain
  exact ⟨_, haccepted, rfl, (hrefuses (.signing loopback) line request leapBeforeYearZero
    (by decide) (by decide)).1.2 ⟨"tmp", by decide, by decide⟩⟩

end SignedAccess
