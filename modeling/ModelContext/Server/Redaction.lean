import ModelContext.Json.Basic
import ModelContext.Text.Blank

/-!
# Redaction

Before parameters are written to the audit log, every value under a key that may name a secret is
replaced, at every depth.
-/

namespace ModelContext

/-- The keys that are sensitive as a whole. -/
def sensitiveKeys : List String :=
  ["authorization", "bearer", "api_key", "apikey"]

/-- The parts that make any key sensitive. -/
def sensitiveParts : List String :=
  ["token", "secret", "password", "credential"]

/-- May the value under a key be a secret? Case and white space around the key do not matter. -/
def isSensitiveKey (key : String) : Bool :=
  let folded := Text.lowerAscii (Text.trim key)
  sensitiveKeys.contains folded || sensitiveParts.any fun part => Text.occursIn part.toList folded.toList

/-- What stands in the place of a secret. -/
def redacted : Json := .str "[REDACTED]"

namespace Json

mutual

/-- The value with every secret replaced. -/
def redact : Json → Json
  | .arr items => .arr (redactItems items)
  | .obj fields => .obj (redactFields fields)
  | v => v

def redactItems : List Json → List Json
  | [] => []
  | v :: items => redact v :: redactItems items

def redactFields : List (String × Json) → List (String × Json)
  | [] => []
  | (key, v) :: fields => (key, if isSensitiveKey key then redacted else redact v) :: redactFields fields

end

end Json

/-- The parameters as the audit log shows them; missing ones are shown as null. -/
def auditParams (params : Option Json) : Json :=
  (params.map Json.redact).getD .null

end ModelContext
