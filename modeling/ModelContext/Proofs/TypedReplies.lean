import ModelContext.Proofs.Calls
import ModelContext.Proofs.Silence

/-!
# Replies that are read as they were written

Every method answers its requests with errors and with results of one type, which a session reads as they were
written. So whoever makes a call is told what the reply to it tells: the error with all its parts, or the result.
-/

namespace ModelContext

open Json Session

/-- What a caller is told of a reply: the error in it with all its parts, or a value that is written like the
result in it. -/
inductive Tells {α : Type} (write : α → Json) (reply : Json) : Except ClientError α → Prop where
  | error {member : Json} {code : Int} {message : String} (hmember : reply.get? "error" = some member)
      (hcode : member.get? "code" = some (.int code)) (hmessage : member.get? "message" = some (.str message))
      (hresult : reply.get? "result" = none) : Tells write reply (.error (.rpc code message (member.get? "data")))
  | result (value : α) (hresult : reply.get? "result" = some (write value)) (herror : reply.get? "error" = none) :
      Tells write reply (.ok value)

def Sees {α : Type} (server : Server) (id : Int) (method : String) (params : Option Json) (write : α → Json)
    (outcome : Except ClientError α) : Prop :=
  ∃ reply, (server.answer (requestJson (.int id) method params)).value = some reply ∧ Tells write reply outcome

/-! ## Replies -/

inductive RepliesWith {α : Type} (read : Json → Option α) (write : α → Json) (sent : Option Json) : Json → Prop where
  | fault (fault : RpcFault) (data : Option Json) : RepliesWith read write sent (fault.reply sent data)
  | result (value : α) (hobject : ∃ fields, write value = .obj fields) (hread : read (write value) = some value) :
      RepliesWith read write sent (resultReply sent (write value))

section Replies

variable {α : Type} {read : Json → Option α} {write : α → Json} {sent : Option Json}

theorem repliesWith_refusal (refusal : Refusal) : RepliesWith read write sent (refusal.reply sent).value := by
  obtain ⟨fault, data, hreply⟩ := refusal.exists_value_reply sent
  rw [hreply]
  exact .fault fault data

theorem get?_data_errorMember (code : Int) (message : String) (data : Option Json) :
    (errorMember code message data).get? "data" = data := by
  cases data <;> rfl

/-- A session tells of such a reply. -/
theorem RepliesWith.tells {id : Int} (hid : FitsInt64 id) {reply : Json}
    (h : RepliesWith read write (some (.int id)) reply) (method : String) :
    Tells write reply (Session.readAnswer id method read (.ok (some reply))) := by
  cases h with
  | fault fault data =>
    have hcode : (errorMember fault.code fault.message data).get? "code" = some (.int fault.code) := by
      cases data <;> rfl
    have hmessage : (errorMember fault.code fault.message data).get? "message" = some (.str fault.message) := by
      cases data <;> rfl
    have htold : Tells write (fault.reply (some (.int id)) data) _ := .error rfl hcode hmessage rfl
    rw [readAnswer_fault hid]
    rwa [get?_data_errorMember] at htold
  | result value hobject hread =>
    rw [readAnswer_result hid method hobject hread]
    obtain ⟨fields, hfields⟩ := hobject
    have hreply : resultReply (some (.int id)) (write value) =
        .obj [("id", .int id), ("jsonrpc", .str jsonRpcVersion), ("result", write value)] := by
      rw [resultReply, usableId, Option.bind_some, ofJson?_number hid, hfields]
      rfl
    rw [hreply]
    exact .result value rfl rfl

end Replies

section Methods

variable (server : Server) (sent : Option Json) (params : Option Json)

theorem repliesWith_handshake :
    RepliesWith InitializeResult.ofJson? InitializeResult.toJson sent
      (server.respond sent Method.handshake.name params).value := by
  rw [Server.respond, Method.ofName?_name]
  dsimp only
  rw [Logged.value_bind, value_negotiate]
  split_ifs
  · exact .result (server.welcome Server.protocolVersion) ⟨_, rfl⟩ rfl
  · exact repliesWith_refusal Server.missingVersion

theorem repliesWith_ping :
    RepliesWith (fun v => v.expand?.map fun _ => ()) (fun _ => .obj []) sent
      (server.respond sent Method.ping.name params).value :=
  .result () ⟨[], rfl⟩ rfl

theorem repliesWith_list (listing : Listing) :
    RepliesWith listing.pageOfJson? listing.pageToJson sent
      (server.respond sent (Method.list listing).name params).value := by
  have hrespond : (server.respond sent (Method.list listing).name params).value =
      resultReply sent (listing.pageToJson (Page.whole (Server.items listing))) := by
    rw [Server.respond, Method.ofName?_name]
    rfl
  rw [hrespond]
  refine .result (Page.whole (Server.items listing)) ⟨_, rfl⟩ ?_
  cases listing <;> rfl

theorem repliesWith_callTool :
    RepliesWith CallToolResult.ofJson? CallToolResult.toJson sent
      (server.respond sent Method.callTool.name params).value := by
  have hrespond : (server.respond sent Method.callTool.name params).value = (answerCallTool sent params).value := rfl
  rw [hrespond, answerCallTool]
  cases params.bind CallToolParams.ofJson? with
  | none => exact .fault .invalidParams none
  | some call =>
    cases hcall : callTool call with
    | error refusal =>
      simp only [hcall]
      exact repliesWith_refusal refusal
    | ok result =>
      have hread : CallToolResult.ofJson? result.toJson = some result := by
        unfold callTool at hcall
        split at hcall
        · rcases Adder.call_ok hcall with rfl | ⟨sum, -, rfl⟩
          · rfl
          · rfl
        · cases hcall
      simp only [hcall]
      exact .result result ⟨_, rfl⟩ hread

theorem repliesWith_readResource :
    RepliesWith ReadResourceResult.ofJson? ReadResourceResult.toJson sent
      (server.respond sent Method.readResource.name params).value := by
  have hrespond : (server.respond sent Method.readResource.name params).value =
      (answerReadResource sent params).value := rfl
  rw [hrespond, answerReadResource]
  cases params.bind ReadResourceParams.ofJson? with
  | none => exact .fault .invalidParams none
  | some read =>
    cases hname : Greeting.name? read.uri with
    | none =>
      simp only [readResource, hname]
      exact repliesWith_refusal (unknownResource read.uri)
    | some name =>
      simp only [readResource, hname]
      exact .result (Greeting.contents read.uri name) ⟨_, rfl⟩ rfl

end Methods

/-! ## Requests -/

section Requests

variable {α : Type} (server : Server) {id : Int} {read : Json → Option α} {write : α → Json}

/-- A request has the form of a call. -/
theorem exists_isCall_requestJson (id : Json) (method : String) (params : Option Fields) :
    ∃ fields, requestJson id method (params.map .obj) = .obj fields ∧ IsCall fields method params ∧
      fields.lookup "id" = some id := by
  refine ⟨_, requestJson_eq _ _ _, ⟨rfl, rfl, Or.inl ?_⟩, List.lookup_cons_self⟩
  cases params <;> rfl

theorem value_answer_obj (fields : Fields) :
    (server.answer (.obj fields)).value = (server.answerMessage (.obj fields)).value :=
  rfl

theorem value_answer_unreadable {method : String} {params : Option Fields} (htaken : takeOver? params = none) :
    (server.answer (requestJson (.int id) method (params.map .obj))).value =
      some (RpcFault.invalidRequest.reply (some (.int id)) none) := by
  obtain ⟨fields, hfields, hcall, hlookup⟩ := exists_isCall_requestJson (.int id) method params
  rw [hfields, value_answer_obj, answerMessage_of_unreadable server hcall (not_areReadable_iff.2 htaken), hlookup]
  rfl

theorem value_answer_taken (hid : FitsInt64 id) {method : String} {params taken : Option Fields}
    (htaken : takeOver? params = some taken) :
    (server.answer (requestJson (.int id) method (params.map .obj))).value =
      some (server.answerRequest (.number id) method taken).value := by
  obtain ⟨fields, hfields, hcall, hlookup⟩ := exists_isCall_requestJson (.int id) method params
  have hsent : (fields.lookup "id").bind Id.ofJson? = some (.number id) := by
    rw [hlookup, Option.bind_some, ofJson?_number hid]
  rw [hfields, value_answer_obj, answerMessage_request server hcall htaken hsent, Logged.value_map]

/-- A request with any parameters is answered by its method, unless it is refused before. -/
theorem exists_reply (hid : FitsInt64 id) (method : Method)
    (hmethod : ∀ params, RepliesWith read write (some (.int id))
      (server.respond (some (.int id)) method.name params).value) (params : Option Fields) :
    ∃ reply, (server.answer (requestJson (.int id) method.name (params.map .obj))).value = some reply ∧
      RepliesWith read write (some (.int id)) reply := by
  cases htaken : takeOver? params with
  | none => exact ⟨_, value_answer_unreadable server htaken, .fault .invalidRequest none⟩
  | some taken =>
    refine ⟨_, value_answer_taken server hid htaken, ?_⟩
    cases haccepts : method.accepts (taken.map .obj) with
    | true =>
      rw [value_answerRequest_of_accepts server _ method taken haccepts]
      exact hmethod _
    | false =>
      rw [value_answerRequest_of_not_accepts server _ method taken haccepts]
      exact .fault .invalidParams none

theorem sees_outcomeOf (hid : FitsInt64 id) (method : Method)
    (hmethod : ∀ params, RepliesWith read write (some (.int id))
      (server.respond (some (.int id)) method.name params).value) (params : Option Fields) :
    Sees server id method.name (params.map .obj) write (outcomeOf server id method.name (params.map .obj) read) := by
  obtain ⟨reply, hreply, hreplies⟩ := exists_reply server hid method hmethod params
  refine ⟨reply, hreply, ?_⟩
  rw [outcomeOf, hreply]
  exact hreplies.tells hid method.name

theorem sees_handshake (hid : FitsInt64 id) :
    Sees server id Method.handshake.name (some handshakeParams) InitializeResult.toJson
      (outcomeOf server id Method.handshake.name (some handshakeParams) InitializeResult.ofJson?) := by
  obtain ⟨fields, hfields, -⟩ := handshakeParams_open
  have hsees := sees_outcomeOf server hid .handshake (repliesWith_handshake server _) (some fields)
  rw [Option.map_some, ← hfields] at hsees
  exact hsees

theorem sees_ping (hid : FitsInt64 id) :
    Sees server id Method.ping.name none (fun _ => .obj [])
      (outcomeOf server id Method.ping.name none fun v => v.expand?.map fun _ => ()) := by
  have hsees := sees_outcomeOf server hid .ping (repliesWith_ping server _) none
  rw [Option.map_none] at hsees
  exact hsees

theorem sees_page (hid : FitsInt64 id) (listing : Listing) (cursor : Option String) :
    Sees server id listing.methodName (cursorParams cursor) listing.pageToJson
      (outcomeOf server id listing.methodName (cursorParams cursor) listing.pageOfJson?) := by
  have hsees := sees_outcomeOf server hid (.list listing) (fun params => repliesWith_list server _ params listing)
    (cursor.map fun cursor => [("cursor", .str cursor)])
  have hparams : (cursor.map fun cursor => [("cursor", Json.str cursor)]).map .obj = cursorParams cursor := by
    cases cursor <;> rfl
  have hmethod : (Method.list listing).name = listing.methodName := rfl
  rw [hparams, hmethod] at hsees
  exact hsees

theorem sees_callTool (hid : FitsInt64 id) (name : String) (arguments : Json) :
    Sees server id Method.callTool.name (some (.obj (toolParams name arguments))) CallToolResult.toJson
      (outcomeOf server id Method.callTool.name (some (.obj (toolParams name arguments))) CallToolResult.ofJson?) :=
  sees_outcomeOf server hid .callTool (repliesWith_callTool server _) (some (toolParams name arguments))

theorem sees_readResource (hid : FitsInt64 id) (uri : String) :
    Sees server id Method.readResource.name (some (.obj [("uri", .str uri)])) ReadResourceResult.toJson
      (outcomeOf server id Method.readResource.name (some (.obj [("uri", .str uri)])) ReadResourceResult.ofJson?) := by
  have hsees := sees_outcomeOf server hid .readResource (repliesWith_readResource server _) (some [("uri", .str uri)])
  rw [Option.map_some] at hsees
  exact hsees

/-- A call of which the caller sees the reply is settled. -/
theorem Sees.settled {method : String} {params : Option Json} {outcome : Except ClientError α}
    (h : Sees server id method params write outcome) : Settled outcome := by
  obtain ⟨reply, -, htells⟩ := h
  cases htells with
  | error => exact .refused _ _ _
  | result value => exact .done value

end Requests

end ModelContext
