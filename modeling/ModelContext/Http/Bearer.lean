import ModelContext.Http.Message
import ModelContext.Server.Basic
import ModelContext.Text.Blank

/-!
# Bearer tokens

A server with a token admits only requests that carry it. The header with the token is read even if
the server has none, and one that cannot be read is refused in any case.
-/

namespace ModelContext.Http

/-- The bytes of the scheme, in small letters. -/
def bearerScheme : List Char := "bearer".toList

/-- The token in an authorization header: the scheme in any case, one space, and a text, whose blanks
in front do not count. -/
def bearerToken? (value : Bytes) : Option String :=
  (headerText? value).bind fun text =>
    let cs := text.toList
    if (cs.take bearerScheme.length).map Char.toLower = bearerScheme ∧
        cs[bearerScheme.length]? = some ' ' then
      some (String.ofList ((cs.drop (bearerScheme.length + 1)).dropWhile Text.isBlank))
    else none

inductive Verdict where
  | admitted
  | unreadable
  | refused (refusal : Refusal)
  deriving DecidableEq

def missingToken : Refusal :=
  .unauthorized "missing_token" "missing authorization header"

def invalidToken : Refusal :=
  .unauthorized "invalid_token" "invalid bearer token"

/-- Decides on a request by its first authorization header. -/
def judge (expected : Option String) (request : Request) : Verdict :=
  match firstValue? request.headers "authorization" with
  | none => if expected.isSome then .refused missingToken else .admitted
  | some value =>
    match bearerToken? value, expected with
    | none, _ => .unreadable
    | some _, none => .admitted
    | some token, some expected => if token = expected then .admitted else .refused invalidToken

/-- The answer to a request with an unreadable authorization header. -/
def unreadableAuthorization : Response :=
  { status := 400
    headers := [.ofText "content-type" "text/plain; charset=utf-8"]
    body := Bytes.ofText "invalid HTTP header (authorization)" }

end ModelContext.Http
