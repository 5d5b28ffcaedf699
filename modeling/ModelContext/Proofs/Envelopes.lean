import ModelContext.Proofs.Replies

/-!
# One outcome under any id

What comes of a request is settled by its method and parameters, and `Server.outcome` says what it is for each method.
The id decides only in which of two forms a result is put into a reply, and both forms hold all of it. So replies to the
same request under two ids, usable or not, are the same but for the id that they show.
-/

namespace ModelContext

/-- What comes of a request: a result, or an error. -/
inductive Outcome where
  | result (value : Json)
  | error (fault : RpcFault) (data : Option Json)

namespace Outcome

def refused : Refusal → Outcome
  | .badRequest code reason => error .invalidParams (some (Refusal.data code reason (.obj [])))
  | .unauthorized code reason => error .unauthorized (some (Refusal.data code reason (.obj [])))
  | .notFound code reason details => error .methodNotFound (some (Refusal.data code reason details))
  | .internal .. => error .internalError none

def ofAnswer {α : Type} (toJson : α → Json) : Except Refusal α → Outcome
  | .ok answer => result (toJson answer)
  | .error refusal => refused refusal

/-- The outcome of a method that answers its parameters once they are decoded. -/
def ofDecoded {α β : Type} (toJson : β → Json) (answer : α → Except Refusal β) : Option α → Outcome
  | some read => ofAnswer toJson (answer read)
  | none => error .invalidParams none

/-- The reply with an outcome that shows an id. -/
def under (shown : Json) : Outcome → Json
  | result value => .obj [("id", shown), ("jsonrpc", .str "2.0"), ("result", value)]
  | error fault data =>
    .obj [("error", errorMember fault.code fault.message data), ("id", shown), ("jsonrpc", .str "2.0")]

/-- The id that a reply shows: with a result any, and with an error one that a typed reply can carry. -/
def shownId (id : Option Json) : Outcome → Json
  | result _ => id.getD .null
  | error .. => ((usableId id).map Id.toJson).getD .null

/-- The reply with an outcome, in the form that a server chooses by the id. -/
def reply (id : Option Json) : Outcome → Json
  | result value => resultReply id value
  | error fault data => fault.reply id data

def IsGiven (server : Server) : Outcome → Prop
  | result value => Served server value
  | error fault data => fault ∈ replyFaults ∧ ErrorData data

end Outcome

/-- What comes of a request, by its method and parameters alone. -/
def Server.outcome (server : Server) (method : String) (params : Option Json) : Outcome :=
  match Method.ofName? method with
  | some .handshake =>
    if (offeredVersion? params).isSome then .result (server.welcome protocolVersion).toJson
    else .refused missingVersion
  | some .ping => .result (.obj [])
  | some (.list listing) => .result (listingJson listing)
  | some .callTool => .ofDecoded CallToolResult.toJson ModelContext.callTool (params.bind CallToolParams.ofJson?)
  | some .readResource =>
    .ofDecoded ReadResourceResult.toJson (fun read : ReadResourceParams => ModelContext.readResource read.uri)
      (params.bind ReadResourceParams.ofJson?)
  | none => .error .methodNotFound none

def SameButId (reply other : Json) : Prop :=
  ∃ fields others, reply = .obj fields ∧ other = .obj others ∧
    List.Forall₂ (fun field kept => kept.1 = field.1 ∧ (field.1 ≠ "id" → kept.2 = field.2)) fields others

/-- A usable id is shown as it was sent. -/
theorem toJson_of_usableId {id : Option Json} {usable : Id} (h : usableId id = some usable) :
    usable.toJson = id.getD .null := by
  obtain ⟨v, rfl, hv⟩ := Option.bind_eq_some_iff.1 h
  exact Id.toJson_of_ofJson? hv

/-- Both forms of a reply with a result hold all members of the result. -/
theorem resultReply_obj (id : Option Json) (fields : Fields) :
    resultReply id (.obj fields) = (Outcome.result (.obj fields)).under (id.getD .null) := by
  unfold resultReply
  cases h : usableId id with
  | none => rfl
  | some usable =>
    dsimp only
    rw [toJson_of_usableId h]
    rfl

namespace Outcome

theorem sameButId_under (outcome : Outcome) (shown other : Json) :
    SameButId (outcome.under shown) (outcome.under other) := by
  cases outcome with
  | result value => exact ⟨_, _, rfl, rfl, by simp⟩
  | error fault data => exact ⟨_, _, rfl, rfl, by simp⟩

/-- No form of a reply leaves out anything of an outcome that a server has. -/
theorem IsGiven.reply_eq {server : Server} {outcome : Outcome} (h : outcome.IsGiven server) (id : Option Json) :
    outcome.reply id = outcome.under (outcome.shownId id) := by
  cases outcome with
  | result value =>
    obtain ⟨fields, rfl⟩ := Served.isObject h
    exact resultReply_obj id fields
  | error fault data => rfl

theorem isGiven_ofDecoded {server : Server} {α β : Type} {toJson : β → Json} {answer : α → Except Refusal β}
    (h : ∀ read, (ofAnswer toJson (answer read)).IsGiven server) (decoded : Option α) :
    (ofDecoded toJson answer decoded).IsGiven server := by
  cases decoded with
  | none => exact ⟨by decide, .absent⟩
  | some read => exact h read

theorem value_reply_refused (refusal : Refusal) (id : Option Json) :
    (refusal.reply id).value = (refused refusal).reply id := by
  cases refusal <;> rfl

end Outcome

section Requests

variable (server : Server)

theorem isGiven_callTool (call : CallToolParams) :
    (Outcome.ofAnswer CallToolResult.toJson (callTool call)).IsGiven server := by
  by_cases hname : call.name = Adder.name
  · rw [callTool, if_pos hname]
    cases hcall : Adder.call call.arguments with
    | error refusal =>
      rw [Adder.call_error hcall]
      exact ⟨by decide, .plain _ _⟩
    | ok result =>
      rcases Adder.call_ok hcall with rfl | ⟨sum, hfits, rfl⟩
      · exact Served.overflow
      · exact Served.sum sum hfits
  · rw [callTool, if_neg hname]
    exact ⟨by decide, .named _ _ _ _ (by decide)⟩

theorem isGiven_readResource (uri : String) :
    (Outcome.ofAnswer ReadResourceResult.toJson (readResource uri)).IsGiven server := by
  rw [readResource]
  cases Greeting.name? uri with
  | none => exact ⟨by decide, .named _ _ _ _ (by decide)⟩
  | some name => exact Served.greeting uri name

/-- Every method has outcomes of the known kinds, whatever its parameters are. -/
theorem isGiven_outcome (method : String) (params : Option Json) : (server.outcome method params).IsGiven server := by
  unfold Server.outcome
  cases Method.ofName? method with
  | none => exact ⟨by decide, .absent⟩
  | some known =>
    cases known with
    | handshake =>
      dsimp only
      split_ifs
      · exact Served.welcome
      · exact ⟨by decide, .plain _ _⟩
    | ping => exact Served.pong
    | list listing => exact Served.listing listing
    | callTool => exact Outcome.isGiven_ofDecoded (isGiven_callTool server) _
    | readResource =>
      refine Outcome.isGiven_ofDecoded (fun read => ?_) _
      exact isGiven_readResource server read.uri

theorem value_answerCallTool (id params : Option Json) :
    (answerCallTool id params).value =
      (Outcome.ofDecoded CallToolResult.toJson callTool (params.bind CallToolParams.ofJson?)).reply id := by
  unfold answerCallTool
  cases params.bind CallToolParams.ofJson? with
  | none => rfl
  | some call =>
    dsimp only [Outcome.ofDecoded]
    cases callTool call with
    | error refusal => exact Outcome.value_reply_refused refusal id
    | ok result => rfl

theorem value_answerReadResource (id params : Option Json) :
    (answerReadResource id params).value =
      (Outcome.ofDecoded ReadResourceResult.toJson (fun read : ReadResourceParams => readResource read.uri)
        (params.bind ReadResourceParams.ofJson?)).reply id := by
  unfold answerReadResource
  cases params.bind ReadResourceParams.ofJson? with
  | none => rfl
  | some read =>
    dsimp only [Outcome.ofDecoded]
    cases readResource read.uri with
    | error refusal => exact Outcome.value_reply_refused refusal id
    | ok result => rfl

/-- No method looks at the id of its requests: a reply is the outcome in the form for the id. -/
theorem value_respond (id : Option Json) (method : String) (params : Option Json) :
    (server.respond id method params).value = (server.outcome method params).reply id := by
  unfold Server.respond Server.outcome
  cases Method.ofName? method with
  | none => rfl
  | some known =>
    cases known with
    | handshake =>
      dsimp only
      rw [Logged.value_bind, value_negotiate]
      split_ifs <;> rfl
    | ping => rfl
    | list listing => rfl
    | callTool => exact value_answerCallTool id params
    | readResource => exact value_answerReadResource id params

end Requests

structure AnsweredAlike (server : Server) (method : String) (params : Option Json) : Prop where
  /-- Under any two ids, the replies are the same but for the id. -/
  alike : ∀ id other : Option Json,
    SameButId (server.respond id method params).value (server.respond other method params).value
  /-- The reply under each id holds all of the outcome, which is settled without the id. -/
  whole : ∀ id : Option Json, (server.respond id method params).value =
    (server.outcome method params).under ((server.outcome method params).shownId id)
  /-- The outcome is of a kind that the server has. -/
  given : (server.outcome method params).IsGiven server

/-- Whatever the id of a request is, its reply is the same but for the id, and no result is lost under an id that is not
usable. -/
theorem answered_alike_under_any_id (server : Server) (method : String) (params : Option Json) :
    AnsweredAlike server method params := by
  have hgiven := isGiven_outcome server method params
  have hreply (id : Option Json) : (server.respond id method params).value =
      (server.outcome method params).under ((server.outcome method params).shownId id) := by
    rw [value_respond, hgiven.reply_eq]
  refine ⟨fun id other => ?_, hreply, hgiven⟩
  rw [hreply id, hreply other]
  exact Outcome.sameButId_under _ _ _

end ModelContext
