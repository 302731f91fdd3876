/-
# A single grant on the command line

The program gives one grant for the default bucket and the default time, prints
its record and ends. A failure is told with what lies behind it: the causes
stand in a list, which is numbered when there is more than one.
-/

import SignedAccess.Setup.Config

namespace SignedAccess

open Text Time

/-- A text whose lines after the first are set in by a number of blanks. -/
def setIn (blanks : Nat) (text : String) : String :=
  String.ofList (text.toList.flatMap fun c =>
    if c == '\n' then '\n' :: List.replicate blanks ' ' else [c])

/-- A number at the end of five places. -/
def fivePlaces (n : Nat) : String :=
  let ds := decimal n
  String.ofList (List.replicate (5 - ds.length) ' ' ++ ds)

/-- What went wrong, with what lies behind it. -/
def report (message : String) (causes : List String) : String :=
  match causes with
  | [] => "Error: " ++ message ++ "\n"
  | [cause] => "Error: " ++ message ++ "\n\nCaused by:\n    " ++ setIn 4 cause ++ "\n"
  | causes =>
      let lines := causes.zipIdx.map fun (cause, i) =>
        "\n" ++ fivePlaces i ++ ": " ++ setIn 7 cause
      "Error: " ++ message ++ "\n\nCaused by:" ++ String.join lines ++ "\n"

/-- What a fault of the configuration says. -/
def ConfigFault.report (fault : ConfigFault) : String :=
  SignedAccess.report (fault.chain.headD "") fault.chain.tail

/-- What a fault of a grant says. -/
def GrantFault.report (fault : GrantFault) : String :=
  SignedAccess.report fault.message fault.causes

/-- How the program ends. -/
inductive Ending
  | printed (text : String)
  | stopped (stop : OptionStop)
  | failed (text : String)
  /-- No single grant is asked for: the service is to be started. -/
  | serves (config : Config)

namespace Config

/-- The request for a single grant. -/
def requestOf (config : Config) (command : GrantCommand) : UploadRequest where
  bucket := config.bucket
  key := command.key
  contentType := command.contentType
  expires := config.defaultExpiry

/-- Give a single grant. -/
def grantOnce {ε : Type} (config : Config) (line : Line ε) (command : GrantCommand)
    (now : Instant) : Line ε × Except GrantFault Grant :=
  config.service.granter.grant line (config.requestOf command) now

end Config

/-- The program, up to the start of the service. -/
def runProgram {ε : Type} (env : Environment) (words : List (List UInt8)) (line : Line ε)
    (now : Instant) : Line ε × Ending :=
  match readSetup env words with
  | .error (.stopped stop) => (line, .stopped stop)
  | .error (.config fault) => (line, .failed fault.report)
  | .ok (config, none) => (line, .serves config)
  | .ok (config, some command) =>
      match config.grantOnce line command now with
      | (line, .ok grant) => (line, .printed (grant.toValue.pretty ++ "\n"))
      | (line, .error fault) => (line, .failed fault.report)

end SignedAccess
