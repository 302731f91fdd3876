/-
# The command line

The program reads its options and its environment, gives one grant and prints
it. It has no sockets of its own: every peer is out of its reach, so a grant
that passes the policy ends with the report of a failed connection, and the
service is described but not started.
-/

import Std.Time.DateTime.Timestamp
import SignedAccess.Setup.OneShot

namespace SignedAccess

open Text Time

/-- The variables that the configuration looks at. -/
def variableNames : List String := [
  "MARKET_HOST", "MARKET_PORT", "MARKET_STORAGE_ENDPOINT", "MARKET_STORAGE_REGION",
  "MARKET_STORAGE_BUCKET", "MARKET_MAX_GRANT_EXPIRY", "MARKET_DEFAULT_GRANT_EXPIRY",
  "MARKET_STORAGE_TIMEOUT_SECS", "MARKET_STORAGE_ACCESS_KEY", "MARKET_STORAGE_SECRET_KEY",
  "MARKET_RESERVED_PREFIXES", "MARKET_UPLOAD_KEY_PREFIX"]

/-- The environment of this process. -/
def readEnvironment : IO Environment :=
  variableNames.filterMapM fun name => do
    match ← IO.getEnv name with
    | some value => return some (name, bytes value)
    | none => return none

/-- The instant at which this process looks at the clock. -/
def readClock : IO Instant := do
  let now ← Std.Time.Timestamp.now
  let nanos := now.toNanosecondsSinceUnixEpoch.val
  match Instant.ofParts? (nanos.fdiv 1000000000) (nanos.fmod 1000000000) with
  | some t => return t
  | none => throw (IO.userError "the clock is out of range")

end SignedAccess

open SignedAccess in
/-- Run the program on the words of its command line. -/
def main (words : List String) : IO UInt32 := do
  let line : Line Empty := Line.ofTurns false []
  let ending := (runProgram (← readEnvironment) (words.map Text.bytes) line (← readClock)).2
  match ending with
  | .printed text =>
      IO.print text
      return 0
  | .stopped stop =>
      if stop.code = 0 then IO.println stop.message else IO.eprintln stop.message
      return UInt32.ofNat stop.code
  | .failed text =>
      IO.eprint text
      return 1
  | .serves config =>
      IO.eprintln ("the service at " ++ config.listenAddress ++ " is not started")
      return 1
