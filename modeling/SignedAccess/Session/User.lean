/-
# Users

A user has an id and perhaps a role; every other member of the record is kept
as it came and is not looked into. `User.toValue` writes the id, the role and
then those members in their order. `User.ofMembers` reads a record from members
in the order in which they were written, and `User.record` is the same reading
done on text, where the faults of the text come in between.
-/

import SignedAccess.Json.Record

namespace SignedAccess

open Json

/-- Who is signed in. -/
structure User where
  id : String
  role : Option String := none
  profile : Members := []
  deriving Repr, Inhabited

namespace User

/-- The record of a user: id, role, and then whatever else it holds. -/
def toValue (user : User) : Value :=
  .object (("id", .text user.id) :: ("role", Value.ofText? user.role) :: user.profile)

/-- A user of whom a part has been read. -/
structure Draft where
  id : Option String := none
  role : Option (Option String) := none
  profile : Members := []

/-- The user that a draft describes. Only the id must be there. -/
def Draft.finish (draft : Draft) : Except Mismatch User := do
  .ok ⟨← required "id" draft.id, draft.role.getD none, draft.profile⟩

/-- A value that must be a text. -/
def textOf : Value → Except Mismatch String
  | .text s => .ok s
  | v => .error (.wrongType v.met "a string")

/-- A value that must be a text or null. -/
def textOrNullOf : Value → Except Mismatch (Option String)
  | .null => .ok none
  | v => (textOf v).map some

/-- One more member. -/
def Draft.add (draft : Draft) (name : String) (v : Value) : Except Mismatch Draft :=
  if name = "id" then
    if draft.id.isSome then .error (.repeated "id")
    else (textOf v).map fun s => { draft with id := some s }
  else if name = "role" then
    if draft.role.isSome then .error (.repeated "role")
    else (textOrNullOf v).map fun s => { draft with role := some s }
  else .ok { draft with profile := put name v draft.profile }

/-- The user whose record has these members, in the order of writing. -/
def ofMembers (written : List (String × Value)) : Except Mismatch User := do
  let draft ← written.foldlM (fun draft (name, v) => Draft.add draft name v) {}
  draft.finish

/-- The user whose record is a value. -/
def ofValue : Value → Except Mismatch User
  | .object members => ofMembers members
  | v => .error (.wrongType v.met "struct User")

/-- How a user is read from text. -/
def record : Record Draft User where
  title := "User"
  draft := {}
  fields := [
    { name := "id"
      isSet := fun draft => draft.id.isSome
      read := fun _ draft bs => do
        let (s, bs) ← expectText bs
        .ok ({ draft with id := some s }, bs) },
    { name := "role"
      isSet := fun draft => draft.role.isSome
      read := fun _ draft bs => do
        let (s, bs) ← orNull expectText bs
        .ok ({ draft with role := some s }, bs) }]
  finish := Draft.finish
  keep := some fun draft name v => { draft with profile := put name v draft.profile }
  asSequence := false

/-- The user that the input writes. -/
def read (bs : Input) : Except Fault User := record.readAll bs

end User

end SignedAccess
