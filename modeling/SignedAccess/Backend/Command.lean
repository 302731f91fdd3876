/-
# Commands to a backend client

Everything a client can be asked to do, and what it answers. Between two
commands others may work on the session as they may during one. A run of
commands is a function of the client, the stage and the talk at its start.
-/

import SignedAccess.Backend.Client

namespace SignedAccess

open Json

/-- What a client is asked to do. -/
inductive BackendCommand (ε : Type)
  | login (credentials : Value)
  | bootstrap
  | refresh
  | logout
  | establish (user : User) (token : AccessToken)
  | send (request : SignedRequest)
  | fetch (path : String)
  | fetchUser (path : String)
  /-- Others do something between two commands. -/
  | aside (doing : ε)

/-- What a client answers. -/
inductive BackendReply
  | done
  | user (u : User)
  | phase (p : Phase)
  | verdict (b : Bool)
  | value (v : Value)

namespace BackendClient

variable {σ ε : Type}

/-- An outcome as the answer to a command. -/
def answered {α : Type} (reply : α → BackendReply) :
    Talk σ ε × Except BackendFault α → Talk σ ε × Except BackendFault BackendReply
  | (talk, .ok a) => (talk, .ok (reply a))
  | (talk, .error fault) => (talk, .error fault)

/-- The talk after a command, and the answer. -/
def perform (client : BackendClient) (stage : Stage σ ε) (talk : Talk σ ε) :
    BackendCommand ε → Talk σ ε × Except BackendFault BackendReply
  | .login credentials => answered .user (client.login stage talk credentials)
  | .bootstrap => answered .phase (client.bootstrap stage talk)
  | .refresh => answered .verdict (client.refresh stage talk)
  | .logout => (client.logout stage talk, .ok .done)
  | .establish user token => (establish stage talk user token, .ok .done)
  | .send request => answered .value (client.sendJson stage talk request Value.read)
  | .fetch path => answered .value (client.getJson stage talk path Value.read)
  | .fetchUser path => answered .user (client.getJson stage talk path User.read)
  | .aside doing => ({ talk with session := stage.act talk.session doing }, .ok .done)

/-- The talk after commands in a row. -/
def run (client : BackendClient) (stage : Stage σ ε) (talk : Talk σ ε)
    (commands : List (BackendCommand ε)) : Talk σ ε :=
  commands.foldl (fun talk command => (client.perform stage talk command).1) talk

@[simp]
theorem run_nil (client : BackendClient) (stage : Stage σ ε) (talk : Talk σ ε) :
    client.run stage talk [] = talk := rfl

@[simp]
theorem run_cons (client : BackendClient) (stage : Stage σ ε) (talk : Talk σ ε)
    (command : BackendCommand ε) (commands : List (BackendCommand ε)) :
    client.run stage talk (command :: commands) =
      client.run stage (client.perform stage talk command).1 commands := rfl

end BackendClient

end SignedAccess
