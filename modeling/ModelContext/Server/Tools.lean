import ModelContext.Number.Integer
import ModelContext.Protocol.Content
import ModelContext.Protocol.Params
import ModelContext.Server.Refusal

/-!
# Tools

The server has one tool, which adds two integers. A sum that does not fit into 64 bits is an error
of the tool, not of the request.
-/

namespace ModelContext

/-- The sum, if it fits into a signed 64-bit word. -/
def addInt64? (a b : Int) : Option Int :=
  if FitsInt64 (a + b) then some (a + b) else none

namespace Adder

def name : String := "add"

/-- The two summands, 64-bit integers under the names `a` and `b`. -/
def summands? (arguments : Fields) : Option (Int × Int) := do
  let a ← (arguments.lookup "a").bind Json.int64?
  let b ← (arguments.lookup "b").bind Json.int64?
  some (a, b)

def invalidArguments : Refusal :=
  .badRequest "invalid_arguments" "add requires integer arguments a and b"

/-- The result of a sum: its digits as a text, and the number itself. -/
def result : Option Int → CallToolResult
  | some sum =>
    { content := [.text none none (decimalText sum)], isError := none, info := none,
      structuredContent := some [("result", .int sum)] }
  | none =>
    { content := [.text none none "integer overflow adding a and b"], isError := some true, info := none,
      structuredContent := none }

/-- A call of the tool; missing arguments are like none. -/
def call (arguments : Option Fields) : Except Refusal CallToolResult :=
  match summands? (arguments.getD []) with
  | some (a, b) => .ok (result (addInt64? a b))
  | none => .error invalidArguments

/-- How the tool is listed. -/
def tool : Tool :=
  let integer := Json.obj [("type", .str "integer")]
  { annotations := none, description := some "Add two numbers", execution := none, icons := [],
    inputSchema :=
      { properties := some [("a", integer), ("b", integer)], required := ["a", "b"], dialect := none }
    info := none, name, outputSchema := none, title := none }

end Adder

/-- The tools that the server lists. -/
def tools : List Tool := [Adder.tool]

def unknownTool (name : String) : Refusal :=
  .notFound "tool_not_found" "unknown tool name" (.obj [("name", .str name)])

def callTool (params : CallToolParams) : Except Refusal CallToolResult :=
  if params.name = Adder.name then Adder.call params.arguments else .error (unknownTool params.name)

/-- Answers a request to call a tool. -/
def answerCallTool (id params : Option Json) : Logged Json :=
  match params.bind CallToolParams.ofJson? with
  | none => pure (RpcFault.invalidParams.reply id none)
  | some params =>
    match callTool params with
    | .ok result => pure (resultReply id result.toJson)
    | .error refusal => refusal.reply id

end ModelContext
