/-
# Options that win over variables

An option wins over its variable where the two are put together, and by then the numbers
of all variables have been read. So whatever the variable of a text holds, the option
hides it; the variable of a number is hidden as long as a number can be read from it, or
as long as it is absent. A variable that holds something else stops the program although
an option stands in for it.
-/

import SignedAccess.Proofs.Setup.Reading
import SignedAccess.Proofs.Setup.Words

namespace SignedAccess

open Text

/-! ### Numbers that cannot be read -/

/-- The variable whose number could not be read. -/
def ConfigFault.numberName? : ConfigFault → Option String
  | .number name _ _ => some name
  | .unreadable name _ => some name
  | .required _ _ => none
  | .endpoint _ _ => none
  | .longest _ => none

namespace Environment

variable {env other : Environment} {name : String} {most fallback : Nat} {fault : ConfigFault}

/-- Why no number up to a greatest one can be read from a variable. One that is absent has
a default. -/
def numberFault? (env : Environment) (name : String) (most : Nat) : Option ConfigFault :=
  match env.numberOr name most 0 with
  | .ok _ => none
  | .error fault => some fault

/-- The first fault among the numbers of all variables. -/
def firstFault? (env : Environment) : Option ConfigFault :=
  (env.numberFault? "MARKET_PORT" 65535).or
    ((env.numberFault? "MARKET_MAX_GRANT_EXPIRY" 4294967295).or
      ((env.numberFault? "MARKET_DEFAULT_GRANT_EXPIRY" 4294967295).or
        (env.numberFault? "MARKET_STORAGE_TIMEOUT_SECS" 18446744073709551615)))

/-- Whether a number can be read does not hang on the default. -/
theorem numberOr_eq_error_iff :
    env.numberOr name most fallback = .error fault ↔
      env.numberFault? name most = some fault := by
  unfold numberFault? numberOr
  split
  · simp
  · simp
  · cases readNat most _ <;> simp

theorem exists_numberOr_eq_ok_iff :
    (∃ n, env.numberOr name most fallback = .ok n) ↔ env.numberFault? name most = none := by
  unfold numberFault? numberOr
  split
  · simp
  · simp
  · cases readNat most _ <;> simp

/-- There is no fault exactly when the variable is absent or holds a number. -/
theorem numberFault?_eq_none_iff :
    env.numberFault? name most = none ↔
      env.text name = .error .absent ∨
        ∃ text n, env.text name = .ok text ∧ readNat most text.toList = .ok n := by
  unfold numberFault? numberOr
  cases htext : env.text name with
  | error fault => cases fault <;> simp
  | ok text => cases hread : readNat most text.toList <;> simp [hread]

theorem numberName?_of_numberFault? (hfault : env.numberFault? name most = some fault) :
    fault.numberName? = some name := by
  unfold numberFault? numberOr at hfault
  cases htext : env.text name with
  | error missing =>
      rw [htext] at hfault
      cases missing <;> cases hfault
      rfl
  | ok text =>
      rw [htext] at hfault
      dsimp only at hfault
      cases hread : readNat most text.toList with
      | error found =>
          rw [hread] at hfault
          cases hfault
          rfl
      | ok n =>
          rw [hread] at hfault
          cases hfault

theorem numberFault?_congr (h : env.text name = other.text name) (most : Nat) :
    env.numberFault? name most = other.numberFault? name most := by
  rw [numberFault?, numberFault?, numberOr_congr h]

/-- The numbers are read in their order, so the first fault is the one that shows. -/
theorem numbers_eq_error_iff : env.numbers = .error fault ↔ env.firstFault? = some fault := by
  simp only [numbers, bind_eq_error, numberOr_eq_error_iff, reduceCtorEq, and_false, exists_false,
    or_false, exists_and_right, exists_numberOr_eq_ok_iff, firstFault?, Option.or_eq_some_iff]

theorem exists_numbers_of_firstFault? (h : env.firstFault? = none) :
    ∃ numbers, env.numbers = .ok numbers := by
  cases hnumbers : env.numbers with
  | ok numbers => exact ⟨numbers, rfl⟩
  | error fault =>
      rw [numbers_eq_error_iff.1 hnumbers] at h
      cases h

theorem numberName?_of_firstFault? (hfault : env.firstFault? = some fault) :
    fault.numberName? ≠ none := by
  simp only [firstFault?, Option.or_eq_some_iff] at hfault
  rcases hfault with h | ⟨-, h | ⟨-, h | ⟨-, h⟩⟩⟩ <;>
    simp [numberName?_of_numberFault? h]

/-- A later fault names another variable, so it does not stand in for one that is missing. -/
theorem or_eq_or_iff {later : Option ConfigFault}
    (hlater : ∀ fault ∈ later, fault.numberName? ≠ some name) :
    (env.numberFault? name most).or later = (other.numberFault? name most).or later ↔
      env.numberFault? name most = other.numberFault? name most := by
  refine ⟨fun h => ?_, fun h => by rw [h]⟩
  cases henv : env.numberFault? name most with
  | none =>
      cases hother : other.numberFault? name most with
      | none => rfl
      | some fault =>
          rw [henv, hother, Option.none_or, Option.some_or] at h
          exact absurd (numberName?_of_numberFault? hother) (hlater fault h)
  | some fault =>
      cases hother : other.numberFault? name most with
      | none =>
          rw [henv, hother, Option.none_or, Option.some_or] at h
          exact absurd (numberName?_of_numberFault? henv) (hlater fault h.symm)
      | some found =>
          rw [henv, hother, Option.some_or, Option.some_or] at h
          exact h

theorem numberName?_ne_of_or {another : String} {later : Option ConfigFault}
    (hne : another ≠ name) (hlater : ∀ fault ∈ later, fault.numberName? ≠ some name) :
    ∀ fault ∈ (env.numberFault? another most).or later, fault.numberName? ≠ some name := by
  intro fault hfault
  rcases Option.or_eq_some_iff.1 hfault with hfirst | ⟨-, hrest⟩
  · rw [numberName?_of_numberFault? hfirst]
    exact fun h => hne (Option.some.inj h)
  · exact hlater fault hrest

end Environment

/-! ### Options and their variables -/

namespace OptionName

variable {o p : OptionName} {env other : Environment} {name : String}

/-- The variable that an option wins over. -/
def hides? : OptionName → Option String
  | .host => some "MARKET_HOST"
  | .port => some "MARKET_PORT"
  | .storageEndpoint => some "MARKET_STORAGE_ENDPOINT"
  | .storageRegion => some "MARKET_STORAGE_REGION"
  | .bucket => some "MARKET_STORAGE_BUCKET"
  | .maxExpiry => some "MARKET_MAX_GRANT_EXPIRY"
  | .grantKey => none
  | .contentType => none

/-- The greatest number that the variable of an option may hold, if it must hold a number. -/
def greatest? : OptionName → Option Nat
  | .port => some 65535
  | .maxExpiry => some 4294967295
  | _ => none

/-- Why no number can be read from the variable of an option, where it must hold one. -/
def fault? (o : OptionName) (env : Environment) : Option ConfigFault :=
  o.hides?.bind fun name => o.greatest?.bind fun most => env.numberFault? name most

theorem fault?_port : OptionName.port.fault? env = env.numberFault? "MARKET_PORT" 65535 := rfl

theorem fault?_maxExpiry :
    OptionName.maxExpiry.fault? env = env.numberFault? "MARKET_MAX_GRANT_EXPIRY" 4294967295 :=
  rfl

/-- Nothing can be wrong with a text. -/
theorem fault?_of_greatest? (h : o.greatest? = none) : o.fault? env = none := by
  rw [fault?, h]
  cases o.hides? <;> rfl

theorem fault?_eq_some_iff {fault : ConfigFault} (hhides : o.hides? = some name) :
    o.fault? env = some fault ↔
      ∃ most, o.greatest? = some most ∧ env.numberFault? name most = some fault := by
  rw [fault?, hhides, Option.bind_some, Option.bind_eq_some_iff]

/-- Nothing is wrong with a variable that is absent or holds a number. -/
theorem fault?_eq_none_iff (hhides : o.hides? = some name) :
    o.fault? env = none ↔ ∀ most ∈ o.greatest?, env.text name = .error .absent ∨
      ∃ text n, env.text name = .ok text ∧ readNat most text.toList = .ok n := by
  rw [fault?, hhides, Option.bind_some, Option.bind_eq_none_iff]
  simp only [Option.mem_def, Environment.numberFault?_eq_none_iff]

/-- What is wrong with the variable of an option is the first fault, unless it is the limit
and something is wrong with the port. -/
theorem firstFault?_of_fault? {fault : ConfigFault} (hfault : o.fault? env = some fault)
    (hport : o = .maxExpiry → OptionName.port.fault? env = none) :
    env.firstFault? = some fault := by
  unfold Environment.firstFault?
  cases o with
  | port =>
      rw [fault?_port] at hfault
      rw [hfault, Option.some_or]
  | maxExpiry =>
      have hbefore := hport rfl
      rw [fault?_port] at hbefore
      rw [fault?_maxExpiry] at hfault
      rw [hbefore, hfault, Option.none_or, Option.some_or]
  | _ =>
      rw [fault?_of_greatest? rfl] at hfault
      cases hfault

/-- The variables that no option hides. -/
def unhidden : List String :=
  ["MARKET_DEFAULT_GRANT_EXPIRY", "MARKET_STORAGE_TIMEOUT_SECS", "MARKET_STORAGE_ACCESS_KEY",
    "MARKET_STORAGE_SECRET_KEY", "MARKET_RESERVED_PREFIXES", "MARKET_UPLOAD_KEY_PREFIX"]

theorem not_hides_of_mem_unhidden (hname : name ∈ unhidden) (o : OptionName) :
    o.hides? ≠ some name := by
  revert name
  cases o <;> decide

/-- No two options share a variable. -/
theorem eq_of_hides? (ho : o.hides? = some name) (hp : p.hides? = some name) : o = p := by
  have hall : ∀ n ∈ o.hides?, ∀ m ∈ p.hides?, n = m → o = p := by
    cases o <;> cases p <;> decide
  exact hall name ho name hp rfl

/-- A difference in the variable of one option changes the first fault exactly when it
changes what is wrong with this variable, unless another fault comes before. -/
theorem firstFault?_eq_iff (hhides : o.hides? = some name)
    (hothers : ∀ n, n ≠ name → env.text n = other.text n) :
    env.firstFault? = other.firstFault? ↔
      o.fault? env = o.fault? other ∨
        o = .maxExpiry ∧ OptionName.port.fault? env ≠ none := by
  have hagree (n : String) (most : Nat) (hn : n ≠ name) :
      env.numberFault? n most = other.numberFault? n most :=
    Environment.numberFault?_congr (hothers n hn) most
  have hlast (n : String) (most : Nat) (hn : n ≠ name) :
      ∀ fault ∈ other.numberFault? n most, fault.numberName? ≠ some name := by
    intro fault hfault hname
    rw [Environment.numberName?_of_numberFault? hfault] at hname
    exact hn (Option.some.inj hname)
  unfold Environment.firstFault?
  cases o with
  | port =>
      cases hhides
      simp (disch := decide) only [hagree, fault?_port, reduceCtorEq, false_and, or_false]
      refine Environment.or_eq_or_iff (Environment.numberName?_ne_of_or (by decide) ?_)
      exact Environment.numberName?_ne_of_or (by decide) (hlast _ _ (by decide))
  | maxExpiry =>
      cases hhides
      simp (disch := decide) only [hagree, fault?_port, fault?_maxExpiry, true_and]
      -- A port that cannot be read is reported in both, whatever the other variable holds.
      cases hport : other.numberFault? "MARKET_PORT" 65535 with
      | some fault => simp
      | none =>
          simp only [Option.none_or, ne_eq, not_true, or_false]
          exact Environment.or_eq_or_iff
            (Environment.numberName?_ne_of_or (by decide) (hlast _ _ (by decide)))
  | grantKey | contentType => cases hhides
  | _ =>
      cases hhides
      simp (disch := decide) only [hagree, fault?_of_greatest?, true_or]

end OptionName

/-! ### Two runs -/

namespace Config

variable {env other : Environment} {options : Options} {o : OptionName} {name : String}

theorem numberName?_of_ofNumbers {numbers : Environment.Numbers} {fault : ConfigFault}
    (hfault : ofNumbers env options numbers = .error fault) : fault.numberName? = none := by
  have hrequired (name : String) : env.required name = .error fault →
      fault.numberName? = none := by
    unfold Environment.required
    split
    · exact nofun
    · rintro ⟨⟩
      rfl
  rcases bind_eq_error.1 hfault with haccess | ⟨accessKey, -, hfault⟩
  · exact hrequired _ haccess
  · rcases bind_eq_error.1 hfault with hsecret | ⟨secretKey, -, hfault⟩
    · exact hrequired _ hsecret
    · rcases bind_eq_error.1 hfault with hendpoint | ⟨endpoint, -, hfault⟩
      · unfold readEndpoint at hendpoint
        split at hendpoint <;> cases hendpoint
        rfl
      · unfold checkLongest at hfault
        split at hfault <;> cases hfault
        rfl

/-- The first fault among the numbers shows, and no later fault looks like it. -/
theorem read_eq_error_iff {fault : ConfigFault} (hname : fault.numberName? ≠ none) :
    Config.read env options = .error fault ↔ env.firstFault? = some fault := by
  rw [read_eq, bind_eq_error, Environment.numbers_eq_error_iff]
  refine or_iff_left ?_
  rintro ⟨numbers, -, hfault⟩
  exact hname (numberName?_of_ofNumbers hfault)

/-- So the first fault can be told from what the program stops with. -/
theorem firstFault?_eq_some_iff (options : Options) {fault : ConfigFault} :
    env.firstFault? = some fault ↔
      Config.read env options = .error fault ∧ fault.numberName? ≠ none := by
  constructor
  · intro hfault
    have hname := Environment.numberName?_of_firstFault? hfault
    exact ⟨(read_eq_error_iff hname).2 hfault, hname⟩
  · rintro ⟨hread, hname⟩
    exact (read_eq_error_iff hname).1 hread

section Has

variable (hhas : options.has o = true) (hhides : o.hides? = some name)
  (hothers : ∀ n, n ≠ name → env.text n = other.text n)

include hhas hhides hothers

/-- An option that is given hides its variable, and the variables of the others agree. -/
theorem getD_congr {α : Type} (p : OptionName) {n : String} {value : Option α} {a b : α}
    (hp : p.hides? = some n) (hvalue : options.has p = value.isSome)
    (hagree : env.text n = other.text n → a = b) : value.getD a = value.getD b := by
  by_cases hn : n = name
  · have hsame : o = p := OptionName.eq_of_hides? hhides (hn ▸ hp)
    rw [hsame, hvalue, Option.isSome_iff_exists] at hhas
    obtain ⟨given, rfl⟩ := hhas
    rfl
  · rw [hagree (hothers n hn)]

theorem textOr_congr (p : OptionName) {n : String} {value : Option String} (fallback : String)
    (hp : p.hides? = some n) (hvalue : options.has p = value.isSome) :
    value.getD (env.textOr n fallback) = value.getD (other.textOr n fallback) :=
  getD_congr hhas hhides hothers p hp hvalue fun h => Environment.textOr_congr h fallback

/-- Of two numbers that are read from a variable in both environments an option hides the
difference. -/
theorem number_congr (p : OptionName) {n : String} {value : Option Nat} {most fallback a b : Nat}
    (hp : p.hides? = some n) (hvalue : options.has p = value.isSome)
    (ha : env.numberOr n most fallback = .ok a) (hb : other.numberOr n most fallback = .ok b) :
    value.getD a = value.getD b := by
  refine getD_congr hhas hhides hothers p hp hvalue fun h => ?_
  rw [Environment.numberOr_congr h, hb] at ha
  exact (Except.ok.inj ha).symm

/-- Once the numbers are read, the option hides its variable. -/
theorem ofNumbers_congr {numbers found : Environment.Numbers} (hnumbers : env.numbers = .ok numbers)
    (hfound : other.numbers = .ok found) :
    ofNumbers env options numbers = ofNumbers other options found := by
  have hkept (n : String) (hn : n ∈ OptionName.unhidden) : env.text n = other.text n :=
    hothers n fun h => OptionName.not_hides_of_mem_unhidden hn o (h ▸ hhides)
  obtain ⟨hport, hlongest, husual, htimeout⟩ := Environment.numbers_eq_ok_iff.1 hnumbers
  obtain ⟨hport', hlongest', husual', htimeout'⟩ := Environment.numbers_eq_ok_iff.1 hfound
  rw [Environment.numberOr_congr (hkept _ (by decide)), husual', Except.ok.injEq] at husual
  rw [Environment.numberOr_congr (hkept _ (by decide)), htimeout', Except.ok.injEq] at htimeout
  have hendpoint : endpointText env options = endpointText other options :=
    textOr_congr hhas hhides hothers .storageEndpoint _ rfl rfl
  have hmerged (credentials : Credentials) (endpoint : Address) :
      merged env options numbers credentials endpoint =
        merged other options found credentials endpoint := by
    unfold merged
    rw [textOr_congr hhas hhides hothers .host _ rfl rfl,
      textOr_congr hhas hhides hothers .storageRegion _ rfl rfl,
      textOr_congr hhas hhides hothers .bucket _ rfl rfl,
      number_congr hhas hhides hothers .port rfl rfl hport hport',
      number_congr hhas hhides hothers .maxExpiry rfl rfl hlongest hlongest',
      Environment.textOr_congr (hkept "MARKET_RESERVED_PREFIXES" (by decide)),
      Environment.textOr_congr (hkept "MARKET_UPLOAD_KEY_PREFIX" (by decide)), husual, htimeout]
  simp only [ofNumbers, hendpoint, hmerged,
    Environment.required_congr (hkept "MARKET_STORAGE_ACCESS_KEY" (by decide)),
    Environment.required_congr (hkept "MARKET_STORAGE_SECRET_KEY" (by decide))]

/-- With the option given, two runs read the same exactly when their first faults among the
numbers are the same. -/
theorem read_eq_read_iff :
    Config.read env options = Config.read other options ↔
      env.firstFault? = other.firstFault? := by
  constructor
  · intro hread
    apply Option.ext
    intro fault
    rw [firstFault?_eq_some_iff options, firstFault?_eq_some_iff options, hread]
  · intro hsame
    cases hother : other.firstFault? with
    | some fault =>
        obtain ⟨hfound, -⟩ := (firstFault?_eq_some_iff options).1 hother
        obtain ⟨hread, -⟩ := (firstFault?_eq_some_iff options).1 (hsame.trans hother)
        rw [hread, hfound]
    | none =>
        obtain ⟨numbers, hnumbers⟩ := Environment.exists_numbers_of_firstFault? (hsame.trans hother)
        obtain ⟨found, hfound⟩ := Environment.exists_numbers_of_firstFault? hother
        rw [read_eq, read_eq, hnumbers, hfound]
        exact ofNumbers_congr hhas hhides hothers hnumbers hfound

end Has

end Config

/-- Two environments that differ in the variable of an option that the command line gives are
read the same exactly when the words stop the program, or the variable cannot be read in
either of them for the same reason or can be read in both, or, for the limit, the port
cannot be read and is reported first. An option whose variable holds a text always hides
it, since nothing can be wrong with it. Where something is wrong with a number, this is
what the program stops with, although the option stands in for it. -/
theorem option_hides_variable_that_can_be_read (env other : Environment)
    (words : List (List UInt8)) (o : OptionName) (name : String) (hhides : o.hides? = some name)
    (hstands : o.StandsIn words) (hothers : ∀ n, n ≠ name → env.text n = other.text n) :
    (readSetup env words = readSetup other words ↔
      (∃ stop, Options.ofWords words = .error stop) ∨ o.fault? env = o.fault? other ∨
        o = .maxExpiry ∧ OptionName.port.fault? env ≠ none) ∧
    (o.fault? env = none ↔ ∀ most ∈ o.greatest?, env.text name = .error .absent ∨
      ∃ text n, env.text name = .ok text ∧ readNat most text.toList = .ok n) ∧
    ∀ options fault, Options.ofWords words = .ok options → o.fault? env = some fault →
      (o = .maxExpiry → OptionName.port.fault? env = none) →
      readSetup env words = .error (.config fault) ∧ fault.numberName? = some name := by
  refine ⟨?_, OptionName.fault?_eq_none_iff hhides, ?_⟩
  · unfold readSetup
    cases hwords : Options.ofWords words with
    | error stop => simp
    | ok options =>
        have hhas : options.has o = true := (Options.has_ofWords hwords).2 hstands.isNamedIn
        rw [← OptionName.firstFault?_eq_iff hhides hothers,
          ← Config.read_eq_read_iff hhas hhides hothers]
        simp only [reduceCtorEq, exists_false, false_or]
        cases Config.read env options <;> cases Config.read other options <;> simp
  · intro options fault hwords hfault hport
    have hname : fault.numberName? = some name := by
      obtain ⟨most, -, hnumber⟩ := (OptionName.fault?_eq_some_iff hhides).1 hfault
      exact Environment.numberName?_of_numberFault? hnumber
    have hread : Config.read env options = .error fault :=
      (Config.read_eq_error_iff (by simp [hname])).2 (OptionName.firstFault?_of_fault? hfault hport)
    refine ⟨?_, hname⟩
    unfold readSetup
    rw [hwords]
    simp only [hread]

/-- A port that is given as an option hides one that the environment holds. -/
theorem port_option_hides_number :
    let env : Environment := ("MARKET_PORT", bytes "80") :: sparseEnvironment
    let words := [bytes "--port", bytes "8080"]
    readSetup env words = readSetup sparseEnvironment words ∧
      ∃ config, readSetup env words = .ok (config, none) ∧ config.port = 8080 := by
  intro env words
  have hothers : ∀ n, n ≠ "MARKET_PORT" → env.text n = sparseEnvironment.text n :=
    fun n hn => Environment.text_cons_of_ne hn
  have hstands : OptionName.port.StandsIn words := Or.inl (by decide +kernel)
  obtain ⟨hsame, -, -⟩ := option_hides_variable_that_can_be_read env sparseEnvironment words .port
    "MARKET_PORT" rfl hstands hothers
  have hwords : Options.ofWords words = .ok { port := some 8080 } := by decide +kernel
  have hnumbers : env.numbers = .ok ⟨80, longestGrant, 3600, 10⟩ := by decide +kernel
  exact ⟨hsame.2 (Or.inr (Or.inl (by decide +kernel))), _,
    readSetup_of_sparse hwords (by decide +kernel) rfl hnumbers (by decide), rfl⟩

/-- A text that is no port stops the program, although the option gives one and the program
would start without the variable. -/
theorem port_option_does_not_hide_text :
    let env : Environment := ("MARKET_PORT", bytes "abc") :: sparseEnvironment
    let words := [bytes "--port", bytes "8080"]
    OptionName.port.StandsIn words ∧
      (∀ n, n ≠ "MARKET_PORT" → env.text n = sparseEnvironment.text n) ∧
      readSetup env words =
        .error (.config (.number "MARKET_PORT" "abc" .invalidDigit)) ∧
      ∃ config, readSetup sparseEnvironment words = .ok (config, none) ∧ config.port = 8080 := by
  intro env words
  have hwords : Options.ofWords words = .ok { port := some 8080 } := by decide +kernel
  have hfault : env.numbers = .error (.number "MARKET_PORT" "abc" .invalidDigit) := by
    decide +kernel
  refine ⟨Or.inl (by decide +kernel), fun n hn => Environment.text_cons_of_ne hn, ?_, _,
    readSetup_of_sparse hwords (fun _ _ => rfl) rfl sparseEnvironment_numbers (by decide), rfl⟩
  unfold readSetup
  simp only [hwords, Config.read_eq, hfault, bind, Except.bind]

end SignedAccess
