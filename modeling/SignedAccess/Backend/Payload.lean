/-
# What the backend sends about a login

A login brings a user and a token. A refresh brings a token and perhaps the
user.
-/

import SignedAccess.Session.Basic

namespace SignedAccess

open Json

/-- The answer to a login. -/
structure AuthPayload where
  user : User
  token : AccessToken

/-- The answer to a refresh. -/
structure RefreshPayload where
  token : AccessToken
  user : Option User

/-- An answer about a login of which a part has been read. -/
structure PayloadDraft where
  user : Option (Option User) := none
  token : Option AccessToken := none

/-- The member that holds the token. -/
def tokenField : RecordField PayloadDraft where
  name := "accessToken"
  isSet := fun draft => draft.token.isSome
  read := fun _ draft bs => do
    let (s, bs) ← expectText bs
    .ok ({ draft with token := some ⟨s⟩ }, bs)

/-- How the answer to a login is read from text. -/
def AuthPayload.record : Record PayloadDraft AuthPayload where
  title := "AuthPayload"
  draft := {}
  fields := [
    { name := "user"
      isSet := fun draft => draft.user.isSome
      read := fun depth draft bs => do
        let (user, bs) ← User.record.read depth bs
        .ok ({ draft with user := some (some user) }, bs) },
    tokenField]
  finish := fun draft => do
    .ok ⟨← required "user" draft.user.join, ← required "accessToken" draft.token⟩

/-- How the answer to a refresh is read from text. -/
def RefreshPayload.record : Record PayloadDraft RefreshPayload where
  title := "RefreshPayload"
  draft := {}
  fields := [
    tokenField,
    { name := "user"
      isSet := fun draft => draft.user.isSome
      read := fun depth draft bs => do
        let (user, bs) ← orNull (User.record.read depth) bs
        .ok ({ draft with user := some user }, bs)
      mayLack := true }]
  finish := fun draft => do
    .ok ⟨← required "accessToken" draft.token, draft.user.join⟩

end SignedAccess
