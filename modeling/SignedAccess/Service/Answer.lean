/-
# Answers of the service

An answer has a status, perhaps a content type, perhaps the methods that are
allowed, and a body. An error answer is a JSON record with its text, its status
and whether another attempt may succeed. Storage faults are not told to the
caller: all of them have one text.
-/

import SignedAccess.Upload.Grant

namespace SignedAccess

open Json Text

/-- An answer of the service. -/
structure ServiceAnswer where
  status : Nat
  contentType : Option String
  allow : Option String
  body : List UInt8
  deriving DecidableEq, Repr

namespace ServiceAnswer

/-- A JSON value as an answer. -/
def json (status : Nat) (v : Value) : ServiceAnswer :=
  ⟨status, some "application/json", none, v.bytes⟩

/-- A plain text as an answer. -/
def plain (status : Nat) (text : String) : ServiceAnswer :=
  ⟨status, some "text/plain; charset=utf-8", none, Text.bytes text⟩

/-- There is nothing under this path. -/
def notFound : ServiceAnswer := ⟨404, none, none, []⟩

/-- The path knows other methods only. -/
def wrongMethod (allowed : String) : ServiceAnswer := ⟨405, none, some allowed, []⟩

/-- The answer without its body. -/
def headOnly (answer : ServiceAnswer) : ServiceAnswer := { answer with body := [] }

end ServiceAnswer

/-- An error as the service tells it. -/
structure ServiceError where
  status : Nat
  message : String
  retryable : Bool
  deriving DecidableEq, Repr

namespace ServiceError

/-- The statuses that an answer can have. -/
def isStatus (n : Nat) : Bool := 100 ≤ n && n ≤ 999

/-- The request is to blame. -/
def badRequest (message : String) : ServiceError := ⟨400, message, false⟩

/-- What a caller is told of a grant that failed. -/
def ofGrantFault : GrantFault → ServiceError
  | .policy fault => badRequest fault.message
  | .storage fault => ⟨502, "could not authorize upload", fault.isRetryable⟩

/-- The record of an error. -/
def toValue (e : ServiceError) : Value :=
  .object [
    ("error", .text e.message),
    ("retryable", .boolean e.retryable),
    ("status", .ofNat e.status)]

/-- The answer that tells an error. -/
def answer (e : ServiceError) : ServiceAnswer := .json e.status e.toValue

end ServiceError

end SignedAccess
