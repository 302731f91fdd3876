/-
# Sessions

A session is who is signed in, the token that proves it, and two flags. Its
phase is read off the flags: a session that is authenticated is that whatever
else holds, and one that is neither authenticated nor loading is signed out. A
token never shows its secret in a debug text.
-/

import SignedAccess.Session.User
import SignedAccess.Text.Quoted

namespace SignedAccess

open Json Text

/-- An opaque proof of identity. -/
structure AccessToken where
  secret : String
  deriving DecidableEq, Repr

/-- The debug text of a token, which is the same for all of them. -/
def AccessToken.debug (_ : AccessToken) : String := "AccessToken(***)"

/-- How far a session has come. -/
inductive Phase
  | resolving
  | unauthenticated
  | authenticated
  deriving DecidableEq, Repr

/-- The name of a phase. -/
def Phase.name : Phase → String
  | .resolving => "Resolving"
  | .unauthenticated => "Unauthenticated"
  | .authenticated => "Authenticated"

/-- Who is signed in and with what. -/
structure Session where
  user : Option User
  token : Option AccessToken
  authenticated : Bool
  loading : Bool
  deriving Repr, Inhabited

namespace Session

/-- At the start nobody knows yet whether someone is signed in. -/
def initial : Session := ⟨none, none, false, true⟩

/-- Signed out, with nothing left. -/
def cleared : Session := ⟨none, none, false, false⟩

/-- The session holds nothing and loads no more. -/
def isCleared (s : Session) : Bool :=
  s.user.isNone && s.token.isNone && !s.authenticated && !s.loading

/-- How far the session has come. -/
def phase (s : Session) : Phase :=
  if s.authenticated then .authenticated
  else if s.loading then .resolving
  else .unauthenticated

theorem isCleared_iff (s : Session) : s.isCleared = true ↔ s = cleared := by
  obtain ⟨user, token, authenticated, loading⟩ := s
  cases user <;> cases token <;> cases authenticated <;> cases loading <;>
    simp [isCleared, cleared]

/-- A debug text of something that may be absent. -/
def debugOption {α : Type} (debug : α → String) : Option α → String
  | none => "None"
  | some a => "Some(" ++ debug a ++ ")"

/-- The debug text of a session whose user, if there is one, has no members
beyond id and role. -/
def debug (s : Session) : String :=
  let flag (b : Bool) : String := if b then "true" else "false"
  let user (u : User) : String :=
    "User \x7b id: " ++ quote u.id ++ ", role: " ++ debugOption quote u.role ++
      ", profile: \x7b\x7d \x7d"
  "Session \x7b user: " ++ debugOption user s.user ++
    ", access_token: " ++ debugOption AccessToken.debug s.token ++
    ", is_authenticated: " ++ flag s.authenticated ++
    ", is_loading: " ++ flag s.loading ++ " \x7d"

end Session

end SignedAccess
