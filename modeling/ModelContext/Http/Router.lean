import ModelContext.Http.Bearer
import ModelContext.Http.Endpoint

/-!
# The router

A request goes by its exact path to one of two public pages or to the endpoint, which only admitted
requests reach. Every answer is noted with its status after all else.
-/

namespace ModelContext.Http

/-- The path of the endpoint. -/
def endpointPath : String := "/mcp"

def healthText : String :=
  Json.recordText [("status", .str "ok")]

def discoveryText : String :=
  Json.recordText
    [("name", .str Server.program), ("version", .str Server.programVersion), ("mcp_endpoint", .str endpointPath)]

/-- The text of a public page. -/
def pageText? (path : String) : Option String :=
  if path = "/health" then some healthText
  else if path = "/.well-known/mcp" then some discoveryText
  else none

/-- The answer of a page that can only be read. -/
def pageResponse (method text : String) : Response :=
  if method = "GET" then .json 200 text
  else if method = "HEAD" then (Response.json 200 text).withoutBody
  else (Response.bare 405).withHeader "allow" "GET,HEAD"

/-- Answers with a method that the endpoint does not serve say which it serves, also where the request
is not admitted. -/
def otherMethod (method : String) (response : Response) : Response :=
  let response := response.withHeader "allow" "POST,DELETE"
  if method = "HEAD" then response.withoutBody else response

/-- What an admitted request does at the endpoint. -/
def planAdmitted (server : Server) (request : Request) : Plan :=
  if request.method = "POST" then planPost server request
  else if request.method = "DELETE" then planDelete request
  else .done (pure (.bare 405))

/-- What a request does at the endpoint. -/
def planEndpoint (server : Server) (request : Request) : Plan :=
  let plan := match judge server.apiToken request with
    | .admitted => planAdmitted server request
    | .unreadable => .done (pure unreadableAuthorization)
    | .refused refusal => .done refusal.response
  if request.method = "POST" ∨ request.method = "DELETE" then plan
  else plan.map fun answer => otherMethod request.method <$> answer

/-- What a request does. -/
def plan (server : Server) (request : Request) : Plan :=
  if request.path = endpointPath then planEndpoint server request
  else match pageText? request.path with
    | some text => .done (pure (pageResponse request.method text))
    | none => .done (pure (.bare 404))

/-- Notes an answer: its status, and once more if it says that the request is not authorized. -/
def noted (request : Request) (answer : Logged Response) : Logged Response := do
  let response ← answer
  Logged.emit (.requestAnswered request.method request.path response.status)
  if response.status = 401 then Logged.emit (.authenticationFailed request.method request.path)
  pure response

/-- A server behind HTTP, with the ids that its sessions get. -/
structure Router where
  server : Server
  ids : SessionIds

namespace Router

/-- Answers one request. -/
def handle (router : Router) (store : SessionStore) (request : Request) : Logged Response × SessionStore :=
  ((plan router.server request).map (noted request)).run router.ids store

/-- Answers requests one after another. -/
def handleAll (router : Router) (store : SessionStore) : List Request → List (Logged Response) × SessionStore
  | [] => ([], store)
  | request :: later =>
    let (answer, store) := router.handle store request
    let (answers, store) := router.handleAll store later
    (answer :: answers, store)

end Router
end ModelContext.Http
