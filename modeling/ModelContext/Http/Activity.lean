import ModelContext.Http.Router

/-!
# Requests step by step

A request is answered in steps: it may use the session store, as often as it likes, and it may work by itself. Other
requests can use the store between any two of its steps.
-/

namespace ModelContext.Http

/-- What is left to do until a value is there. -/
inductive Activity (α : Type) where
  | done (value : α)
  | work (next : Activity α)
  | ask (call : StoreCall) (next : call.Answer → Activity α)

namespace Activity

variable {α β : Type}

def bind (activity : Activity α) (next : α → Activity β) : Activity β :=
  match activity with
  | done value => next value
  | work rest => work (rest.bind next)
  | ask call rest => ask call fun result => (rest result).bind next

instance : Monad Activity where
  pure := done
  bind := bind

/-- Comes to a value by work of its own. -/
def compute (value : α) : Activity α :=
  work (done value)

/-- Uses the store. -/
def use (call : StoreCall) : Activity call.Answer :=
  ask call done

/-- Carries out an activity without others in between. -/
def run (ids : SessionIds) (store : SessionStore) : Activity α → α × SessionStore
  | done value => (value, store)
  | work rest => rest.run ids store
  | ask call rest => (rest (store.perform ids call).1).run ids (store.perform ids call).2

end Activity

/-- Is the session open that a request names? If not, the request is refused. -/
def checkSession (request : Request) : Activity (Except Refusal Unit) :=
  match sessionOf? request.headers with
  | none => pure (.error missingSession)
  | some id => do
    if ← Activity.use (.contains id) then pure (.ok ()) else pure (.error (unknownSession id))

/-- Answers a message, and then opens a session if that was a handshake with a result. -/
def replyActivity (server : Server) (message : Json) (streaming : Bool) : Activity (Logged Response) := do
  let answer ← Activity.compute (server.answer message)
  match answer.value with
  | none => pure (answer >>= fun _ => pure (.bare 202))
  | some reply =>
    if opensSession message ∧ isErrorReply reply = false then
      let id ← Activity.use .create
      pure (answer >>= fun _ => openedResponse reply streaming id)
    else pure (answer >>= fun _ => pure (replyResponse reply streaming))

/-- Answers a body that was read. The session is checked first, but for handshakes. -/
def bodyActivity (server : Server) (request : Request) : Activity (Logged Response) := do
  let streaming := acceptsEventStream (values request.headers "accept")
  match Json.parseBytes? request.body with
  | none => pure (pure (replyResponse (RpcFault.parseError.reply none none) streaming))
  | some message =>
    match ← if opensSession message then pure (.ok ()) else checkSession request with
    | .error refusal => pure refusal.response
    | .ok () => replyActivity server message streaming

/-- Answers a posted body, unless it is too long. -/
def postActivity (server : Server) (request : Request) : Activity (Logged Response) :=
  if request.body.length ≤ bodyLimit then bodyActivity server request else pure (pure bodyTooLong)

/-- Closes the session that a request names. -/
def deleteActivity (request : Request) : Activity (Logged Response) :=
  match sessionOf? request.headers with
  | none => pure missingSession.response
  | some id => do
    if ← Activity.use (.remove id) then
      pure do
        Logged.emit (.sessionClosed id)
        pure (.bare 204)
    else pure (unknownSession id).response

/-- What an admitted request does at the endpoint. -/
def admittedActivity (server : Server) (request : Request) : Activity (Logged Response) :=
  if request.method = "POST" then postActivity server request
  else if request.method = "DELETE" then deleteActivity request
  else pure (pure (.bare 405))

/-- What a request does at the endpoint. -/
def endpointActivity (server : Server) (request : Request) : Activity (Logged Response) :=
  let activity := match judge server.apiToken request with
    | .admitted => admittedActivity server request
    | .unreadable => pure (pure unreadableAuthorization)
    | .refused refusal => pure refusal.response
  if request.method = "POST" ∨ request.method = "DELETE" then activity
  else (fun answer => otherMethod request.method <$> answer) <$> activity

/-- What a request does, step by step. -/
def activity (server : Server) (request : Request) : Activity (Logged Response) :=
  noted request <$>
    if request.path = endpointPath then endpointActivity server request
    else match pageText? request.path with
      | some text => pure (pure (pageResponse request.method text))
      | none => pure (pure (.bare 404))

/-- Requests that are carried out side by side over one store. -/
structure SideBySide (n : Nat) where
  /-- What is left to do for each request. -/
  activities : Fin n → Activity (Logged Response)
  store : SessionStore
  /-- The requests that used the store, one entry for each use, in order. -/
  uses : List (Fin n)

namespace SideBySide

variable {n : Nat}

/-- All requests are still to be carried out. -/
def start (server : Server) (store : SessionStore) (requests : Fin n → Request) : SideBySide n :=
  { activities := fun i => activity server (requests i), store, uses := [] }

/-- A request goes on with another activity. -/
def advance (s : SideBySide n) (i : Fin n) (next : Activity (Logged Response)) : SideBySide n :=
  { s with activities := fun j => if j = i then next else s.activities j }

theorem advance_self (s : SideBySide n) (i : Fin n) (next : Activity (Logged Response)) :
    (s.advance i next).activities i = next := if_pos rfl

theorem advance_of_ne (s : SideBySide n) {i j : Fin n} (h : j ≠ i) (next : Activity (Logged Response)) :
    (s.advance i next).activities j = s.activities j := if_neg h

/-- One request makes one step. Nothing happens if it is done. -/
def step (ids : SessionIds) (s : SideBySide n) (i : Fin n) : SideBySide n :=
  match s.activities i with
  | .done _ => s
  | .work next => s.advance i next
  | .ask call next =>
    { s.advance i (next (s.store.perform ids call).1) with
      store := (s.store.perform ids call).2
      uses := s.uses ++ [i] }

/-- The requests make steps in the order of a schedule. -/
def run (ids : SessionIds) (s : SideBySide n) (schedule : List (Fin n)) : SideBySide n :=
  schedule.foldl (step ids) s

end SideBySide
end ModelContext.Http
