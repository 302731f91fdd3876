/-
# Command-line options

Words are bytes and are taken from left to right. An option's value may follow
an equals sign or be the next word, which must not look like an option. A value
that is the next word is looked at only when the following option is met or the
words end, so a word that is not understood is reported before a wrong value
that stands just before it. A report shows words as plain text.
-/

import SignedAccess.Text.Blank
import SignedAccess.Text.Integer
import SignedAccess.Text.Plain
import SignedAccess.Text.Utf8

namespace SignedAccess

open Text

/-- The options that have a value. -/
inductive OptionName
  | host
  | port
  | storageEndpoint
  | storageRegion
  | bucket
  | maxExpiry
  | grantKey
  | contentType
  deriving DecidableEq, Repr

namespace OptionName

/-- All options that have a value. -/
def all : List OptionName :=
  [host, port, storageEndpoint, storageRegion, bucket, maxExpiry, grantKey, contentType]

/-- The word that names an option. -/
def word : OptionName → String
  | host => "host"
  | port => "port"
  | storageEndpoint => "storage-endpoint"
  | storageRegion => "storage-region"
  | bucket => "bucket"
  | maxExpiry => "max-expiry"
  | grantKey => "grant-key"
  | contentType => "content-type"

/-- An option with a name for its value: the word in capitals and with
underscores. -/
def usage (o : OptionName) : String :=
  let capitals := o.word.toList.map fun c => if c == '-' then '_' else c.toUpper
  "--" ++ o.word ++ " <" ++ String.ofList capitals ++ ">"

/-- The option that a word names. -/
def ofWord? (w : String) : Option OptionName := all.find? (·.word == w)

end OptionName

/-- What the words say. -/
structure Options where
  host : Option String := none
  port : Option Nat := none
  storageEndpoint : Option String := none
  storageRegion : Option String := none
  bucket : Option String := none
  maxExpiry : Option Nat := none
  grantKey : Option String := none
  contentType : Option String := none
  deriving DecidableEq, Repr

/-- Why a text is not the number that an option asks for. -/
inductive NumberFault
  | integer (fault : IntegerFault)
  | range (n : Int) (most : Nat)
  deriving DecidableEq, Repr

/-- The wording of a fault. -/
def NumberFault.message : NumberFault → String
  | .integer fault => fault.message
  | .range n most =>
      let sign := if n < 0 then "-" else ""
      sign ++ String.ofList (decimal n.natAbs) ++ " is not in 0..=" ++ String.ofList (decimal most)

/-- Why the words are not taken for options: something is wrong with them, or
they ask for a text. -/
inductive OptionStop
  | unexpected (word : String)
  | noValue (o : OptionName)
  | repeated (o : OptionName)
  | badValue (o : OptionName) (value : String) (fault : NumberFault)
  | notText
  | needless (flag value : String)
  | help
  | version
  deriving DecidableEq, Repr

namespace OptionStop

/-- The status with which the program ends. -/
def code : OptionStop → Nat
  | .help => 0
  | .version => 0
  | _ => 2

/-- The text with which the program ends. What it shows of the words is plain. -/
def message : OptionStop → String
  | .unexpected word => "error: unexpected argument '" ++ plainString word ++ "' found"
  | .noValue o => "error: a value is required for '" ++ o.usage ++ "' but none was supplied"
  | .repeated o => "error: the argument '" ++ o.usage ++ "' cannot be used multiple times"
  | .badValue o value fault =>
      "error: invalid value '" ++ plainString value ++ "' for '" ++ o.usage ++ "': " ++
        fault.message
  | .notText => "error: invalid UTF-8 was detected in one or more arguments"
  | .needless flag value =>
      "error: unexpected value '" ++ plainString value ++ "' for '--" ++ flag ++
        "' found; no more were expected"
  | .help => "Upload authorization API for the marketplace"
  | .version => "marketplace-core 0.1.0"

end OptionStop

/-- A number from zero to a greatest one, written as an integer. -/
def readWithin (most : Nat) (text : List Char) : Except NumberFault Nat :=
  match readInt64 text with
  | .error fault => .error (.integer fault)
  | .ok n => if 0 ≤ n ∧ n ≤ most then .ok n.toNat else .error (.range n most)

namespace Options

/-- The option has been given a value. -/
def has (options : Options) : OptionName → Bool
  | .host => options.host.isSome
  | .port => options.port.isSome
  | .storageEndpoint => options.storageEndpoint.isSome
  | .storageRegion => options.storageRegion.isSome
  | .bucket => options.bucket.isSome
  | .maxExpiry => options.maxExpiry.isSome
  | .grantKey => options.grantKey.isSome
  | .contentType => options.contentType.isSome

/-- Give an option its value. -/
def set (options : Options) (o : OptionName) (value : String) : Except OptionStop Options :=
  let number (most : Nat) : Except OptionStop Nat :=
    match readWithin most value.toList with
    | .ok n => .ok n
    | .error fault => .error (.badValue o value fault)
  match o with
  | .host => .ok { options with host := some value }
  | .port => do .ok { options with port := some (← number 65535) }
  | .storageEndpoint => .ok { options with storageEndpoint := some value }
  | .storageRegion => .ok { options with storageRegion := some value }
  | .bucket => .ok { options with bucket := some value }
  | .maxExpiry => do .ok { options with maxExpiry := some (← number 4294967295) }
  | .grantKey => .ok { options with grantKey := some value }
  | .contentType => .ok { options with contentType := some value }

/-- Give an option the value that its word came with, if there was one. -/
def give (options : Options) (o : OptionName) (value : Option (List UInt8)) :
    Except OptionStop Options :=
  match value with
  | none => .error (.noValue o)
  | some bs =>
      if options.has o then .error (.repeated o)
      else
        match decode? bs with
        | none => .error .notText
        | some cs => options.set o (String.ofList cs)

end Options

/-- How far the words have been taken. -/
structure WordState where
  options : Options := {}
  /-- An option that still waits for its value, or whose value has not been
  looked at. -/
  waiting : Option (OptionName × Option (List UInt8)) := none
  /-- No later word is an option. -/
  closed : Bool := false

namespace WordState

/-- Look at the value of the option that waits. -/
def settle (state : WordState) : Except OptionStop WordState :=
  match state.waiting with
  | none => .ok state
  | some (o, value) => do
      .ok { state with options := ← state.options.give o value, waiting := none }

/-- A word that ends the reading with a text. -/
def stopWith (state : WordState) (stop : OptionStop) : Except OptionStop WordState := do
  let _ ← state.settle
  .error stop

/-- A word that begins with two hyphens, which are already taken. -/
def takeLong (state : WordState) (word : List UInt8) : Except OptionStop WordState :=
  let name := word.takeWhile (· != 0x3d)
  let value := (word.dropWhile (· != 0x3d)).tail?
  let shown := "--" ++ String.ofList (decodeLossy name)
  match decode? name with
  | none => .error (.unexpected shown)
  | some cs =>
      let flag (name : String) (stop : OptionStop) : Except OptionStop WordState :=
        match value with
        | some v => .error (.needless name (String.ofList (decodeLossy v)))
        | none => state.stopWith stop
      let text := String.ofList cs
      if text = "help" then flag "help" .help
      else if text = "version" then flag "version" .version
      else
        match OptionName.ofWord? text with
        | none => .error (.unexpected shown)
        | some o => do
            let state ← state.settle
            match value with
            | some v => .ok { state with options := ← state.options.give o (some v) }
            | none => .ok { state with waiting := some (o, none) }

/-- A word that begins with one hyphen, which is already taken. -/
def takeShort (state : WordState) (word : List UInt8) : Except OptionStop WordState :=
  match readChar? word with
  | some ('h', _) => state.stopWith .help
  | some ('V', _) => state.stopWith .version
  | some (c, _) => .error (.unexpected (String.ofList ['-', c]))
  | none => .error (.unexpected ("-" ++ String.ofList (decodeLossy word)))

/-- A word that is no option. -/
def takePlain (state : WordState) (word : List UInt8) : Except OptionStop WordState :=
  match state.closed, state.waiting with
  | false, some (o, none) => .ok { state with waiting := some (o, some word) }
  | _, _ => .error (.unexpected (String.ofList (decodeLossy word)))

/-- One more word. -/
def take (state : WordState) (word : List UInt8) : Except OptionStop WordState :=
  if state.closed then state.takePlain word
  else
    match word with
    | [0x2d, 0x2d] => .ok { state with closed := true }
    | 0x2d :: 0x2d :: rest => state.takeLong rest
    | [0x2d] => state.takePlain word
    | 0x2d :: rest => state.takeShort rest
    | _ => state.takePlain word

end WordState

/-- What the words of a command line say. -/
def Options.ofWords (words : List (List UInt8)) : Except OptionStop Options := do
  let state ← words.foldlM WordState.take {}
  .ok (← state.settle).options

end SignedAccess
