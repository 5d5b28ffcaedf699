import ModelContext.Protocol.Handshake

/-!
# Parameters of the requests
-/

namespace ModelContext

/-- Which page of a listing is asked for. -/
structure ListParams where
  cursor : Option String
  deriving DecidableEq

def ListParams.ofJson? (v : Json) : Option ListParams := do
  let r ← v.record? 2
  let cursor ← r.optional 0 "cursor" Json.str?
  let _ ← r.optional 1 "_meta" RequestMeta.ofJson?
  some { cursor }

/-- A ping has nothing to say but metadata. -/
def checkPingParams (v : Json) : Option Unit := do
  let r ← v.record? 1
  let _ ← r.optional 0 "_meta" RequestMeta.ofJson?
  some ()

structure CallToolParams where
  arguments : Option Fields
  name : String
  deriving DecidableEq

def CallToolParams.ofJson? (v : Json) : Option CallToolParams := do
  let r ← v.record? 4
  let arguments ← r.optional 0 "arguments" Json.openObject?
  let _ ← r.optional 1 "_meta" RequestMeta.ofJson?
  let name ← r.required 2 "name" Json.str?
  let _ ← r.optional 3 "task" fun v => do
    let r ← v.record? 1
    r.optional 0 "ttl" Json.int64?
  some { arguments, name }

structure ReadResourceParams where
  uri : String
  deriving DecidableEq

def ReadResourceParams.ofJson? (v : Json) : Option ReadResourceParams := do
  let r ← v.record? 2
  let _ ← r.optional 0 "_meta" RequestMeta.ofJson?
  let uri ← r.required 1 "uri" Json.str?
  some { uri }

end ModelContext
