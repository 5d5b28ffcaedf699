import ModelContext.Server.Basic
import Mathlib.Data.List.Forall2

/-!
# The replies of a server

Whatever a server is sent, each of its replies has one of two forms: an error of one of three kinds,
with or without data, or a result of one of five kinds under a usable id. Both echo the id of the item
that they answer, as far as it is usable. Whoever reads a reply relies on this: a single item is
answered by a single reply, and a batch by the replies to its items in their order.
-/

namespace ModelContext

def itemId (item : Json) : Option Id :=
  usableId (item.get? "id")

def replyFaults : List RpcFault :=
  [.invalidRequest, .methodNotFound, .invalidParams]

inductive ErrorData : Option Json → Prop where
  | absent : ErrorData none
  | plain (code reason : String) : ErrorData (some (Refusal.data code reason (.obj [])))
  | named (code reason key value : String) (hkey : key ∈ ["name", "uri"]) :
      ErrorData (some (Refusal.data code reason (.obj [(key, .str value)])))

inductive Served (server : Server) : Json → Prop where
  | welcome : Served server (server.welcome Server.protocolVersion).toJson
  | pong : Served server (.obj [])
  | listing (listing : Listing) : Served server (Server.listingJson listing)
  | sum (sum : Int) (h : FitsInt64 sum) : Served server (Adder.result (some sum)).toJson
  | overflow : Served server (Adder.result none).toJson
  | greeting (uri name : String) : Served server (Greeting.contents uri name).toJson

/-- The two forms of a reply to an item with the given id. -/
inductive ReplyForm (server : Server) (id : Option Id) : Json → Prop where
  | error (fault : RpcFault) (sent : Option Json) (data : Option Json) (hf : fault ∈ replyFaults)
      (hid : usableId sent = id) (hd : ErrorData data) : ReplyForm server id (fault.reply sent data)
  | result (usable : Id) (sent : Option Json) (result : Json) (hid : id = some usable)
      (hu : usableId sent = some usable) (hr : Served server result) :
      ReplyForm server id (resultReply sent result)

namespace ReplyForm

variable {server : Server} {id : Option Id}

theorem of_notFound {sent : Option Json} (hid : usableId sent = id) (code reason key value : String)
    (hkey : key ∈ ["name", "uri"]) :
    ReplyForm server id (Refusal.reply sent (.notFound code reason (.obj [(key, .str value)]))).value := by
  apply ReplyForm.error .methodNotFound sent _ (by decide) hid
  exact .named code reason key value hkey

theorem of_badRequest {sent : Option Json} (hid : usableId sent = id) (code reason : String) :
    ReplyForm server id (Refusal.reply sent (.badRequest code reason)).value := by
  apply ReplyForm.error .invalidParams sent _ (by decide) hid
  exact .plain code reason

theorem of_fault {sent : Option Json} (hid : usableId sent = id) {fault : RpcFault}
    (hf : fault ∈ replyFaults) : ReplyForm server id (fault.reply sent none) :=
  .error fault sent none hf hid .absent

end ReplyForm

/-- A call of the adder gives a sum of 64 bits or tells that there is none. -/
theorem Adder.call_ok {arguments : Option Fields} {result : CallToolResult}
    (h : Adder.call arguments = .ok result) :
    result = Adder.result none ∨ ∃ sum, FitsInt64 sum ∧ result = Adder.result (some sum) := by
  unfold Adder.call at h
  cases hs : Adder.summands? (arguments.getD []) with
  | none => simp [hs] at h
  | some summands =>
    simp only [hs, Except.ok.injEq] at h
    by_cases hfit : FitsInt64 (summands.1 + summands.2)
    · exact .inr ⟨_, hfit, by rw [← h, addInt64?, if_pos hfit]⟩
    · exact .inl (by rw [← h, addInt64?, if_neg hfit])

theorem Adder.call_error {arguments : Option Fields} {refusal : Refusal}
    (h : Adder.call arguments = .error refusal) : refusal = Adder.invalidArguments := by
  unfold Adder.call at h
  cases hs : Adder.summands? (arguments.getD []) with
  | none => simpa [hs] using h.symm
  | some summands => simp [hs] at h

section Dispatch

variable (server : Server) {sent : Option Json} {usable : Id}

theorem answerCallTool_form (hu : usableId sent = some usable) (params : Option Json) :
    ReplyForm server (some usable) (answerCallTool sent params).value := by
  unfold answerCallTool
  cases params.bind CallToolParams.ofJson? with
  | none => exact .of_fault hu (by decide)
  | some call =>
    by_cases hname : call.name = Adder.name
    · simp only [callTool, if_pos hname]
      cases hc : Adder.call call.arguments with
      | error refusal =>
        rw [Adder.call_error hc]
        exact .of_badRequest hu _ _
      | ok result =>
        refine .result usable sent _ rfl hu ?_
        rcases Adder.call_ok hc with rfl | ⟨sum, hfit, rfl⟩
        · exact .overflow
        · exact .sum sum hfit
    · simp only [callTool, if_neg hname]
      exact .of_notFound hu _ _ _ _ (by decide)

theorem answerReadResource_form (hu : usableId sent = some usable) (params : Option Json) :
    ReplyForm server (some usable) (answerReadResource sent params).value := by
  unfold answerReadResource
  cases params.bind ReadResourceParams.ofJson? with
  | none => exact .of_fault hu (by decide)
  | some read =>
    cases hname : Greeting.name? read.uri with
    | none =>
      simp only [readResource, hname]
      exact .of_notFound hu _ _ _ _ (by decide)
    | some name =>
      simp only [readResource, hname]
      exact .result usable sent _ rfl hu (.greeting _ _)

/-- The server speaks its own version with every client that offers one. -/
theorem value_negotiate (params : Option Json) :
    (Server.negotiate params).value =
      if (Server.offeredVersion? params).isSome then .ok Server.protocolVersion else .error Server.missingVersion := by
  unfold Server.negotiate
  cases Server.offeredVersion? params with
  | none => rfl
  | some offered =>
    by_cases h : offered = Server.protocolVersion
    · simp [h]
    · simp [h]

theorem respond_form (hu : usableId sent = some usable) (method : String) (params : Option Json) :
    ReplyForm server (some usable) (server.respond sent method params).value := by
  unfold Server.respond
  cases Method.ofName? method with
  | none => exact .of_fault hu (by decide)
  | some known =>
    cases known with
    | handshake =>
      rw [Logged.value_bind, value_negotiate]
      split_ifs
      · exact .result usable sent _ rfl hu .welcome
      · exact .of_badRequest hu _ _
    | ping => exact .result usable sent _ rfl hu .pong
    | list listing => exact .result usable sent _ rfl hu (.listing listing)
    | callTool => exact answerCallTool_form server hu params
    | readResource => exact answerReadResource_form server hu params

theorem answerRequest_form (hu : usableId (some usable.toJson) = some usable) (method : String)
    (params : Option Fields) :
    ReplyForm server (some usable) (server.answerRequest usable method params).value := by
  simp only [Server.answerRequest]
  split
  · exact .of_fault hu (by decide)
  · split
    · exact .of_fault hu (by decide)
    · exact respond_form server hu method _

/-- The id of a request is the one of its item. -/
theorem Message.request_id {fields : Fields} {id : Id} {method : String} {params : Option Fields}
    (h : Message.ofFields? fields = some (.request id method params)) :
    itemId (.obj fields) = some id := by
  cases hid : (fields.lookup "id").bind Id.ofJson? with
  | none =>
    cases hc : Message.call? (.named fields) <;> simp [Message.ofFields?, hc, hid] at h
  | some read =>
    cases hc : Message.call? (.named fields) with
    | none => simp [Message.ofFields?, hc] at h
    | some call =>
      simp only [Message.ofFields?, hc, hid, Option.bind_eq_bind, Option.bind_some, Option.some.injEq,
        Message.request.injEq] at h
      rw [← h.1]
      exact hid

/-- Whatever an item is, a reply to it has one of the two forms. -/
theorem answerMessage_form {item reply : Json} (h : (server.answerMessage item).value = some reply) :
    ReplyForm server (itemId item) reply := by
  cases item with
  | obj fields =>
    simp only [Server.answerMessage] at h
    by_cases hnull : fields.lookup "id" = some .null
    · rw [if_pos hnull] at h
      cases h
      have hid : usableId none = itemId (.obj fields) := by
        simp [itemId, usableId, Json.get?, hnull, Id.ofJson?, Json.int64?]
      exact .of_fault hid (by decide)
    · rw [if_neg hnull] at h
      cases hm : Message.ofFields? fields with
      | none =>
        rw [hm] at h
        cases h
        exact .of_fault rfl (by decide)
      | some message =>
        cases message with
        | notification method params =>
          rw [hm] at h
          cases h
        | request id method params =>
          have hid := Message.request_id hm
          have hu : usableId (some id.toJson) = some id := by
            obtain ⟨v, -, hv⟩ := Option.bind_eq_some_iff.1 hid
            rw [Id.toJson_of_ofJson? hv]
            exact hv
          simp only [hm, Logged.value_bind, Logged.value_pure, Option.some.injEq] at h
          rw [hid, ← h]
          exact answerRequest_form server hu method params
  | _ =>
    cases h
    exact .of_fault rfl (by decide)

/-- The replies to a batch are those to its items, in their order. -/
theorem value_answerBatch (batch : List Json) :
    (server.answerBatch batch).value = batch.filterMap fun item => (server.answerMessage item).value := by
  induction batch with
  | nil => rfl
  | cons item batch ih =>
    simp only [Server.answerBatch, Logged.value_bind, Logged.value_pure, ih, List.filterMap_cons]
    cases (server.answerMessage item).value <;> rfl

end Dispatch

structure IsErrorMember (member : Json) : Prop where
  message : ∃ text, member.get? "message" = some (.str text)
  code : ∃ n : Int, member.get? "code" = some (.int n) ∧ (n = -32600 ∨ n = -32601 ∨ n = -32602)

/-- The envelope of a reply: the version, an id, and either a result that is an object or an error. -/
structure IsReply (reply : Json) : Prop where
  version : reply.get? "jsonrpc" = some (.str "2.0")
  id : reply.has "id" = true
  outcome :
    (∃ result, reply.get? "result" = some (.obj result) ∧ reply.get? "error" = none) ∨
      ∃ member, reply.get? "error" = some member ∧ IsErrorMember member ∧ reply.get? "result" = none

/-- The id that the reply to an item has to carry: the item's own if that is a text or a 64-bit integer. -/
def echoedId (item : Json) : Json :=
  match item.get? "id" with
  | some (.str s) => .str s
  | some (.int n) => if -9223372036854775808 ≤ n ∧ n ≤ 9223372036854775807 then .int n else .null
  | _ => .null

/-- A reply in its envelope, with the id of the item that it answers. -/
def Answers (item reply : Json) : Prop :=
  IsReply reply ∧ reply.get? "id" = some (echoedId item)

theorem echoedId_eq (item : Json) : echoedId item = ((itemId item).map Id.toJson).getD .null := by
  unfold echoedId itemId usableId
  cases item.get? "id" with
  | none => rfl
  | some v =>
    cases v with
    | int n =>
      by_cases h : FitsInt64 n
      · have hn : -9223372036854775808 ≤ n ∧ n ≤ 9223372036854775807 := ⟨h.1, by have := h.2; omega⟩
        simp [Id.ofJson?, Json.int64?, h, hn, Id.toJson]
      · have hn : ¬(-9223372036854775808 ≤ n ∧ n ≤ 9223372036854775807) :=
          fun hn => h ⟨hn.1, by omega⟩
        simp [Id.ofJson?, Json.int64?, h, hn]
    | _ => rfl

theorem isErrorMember_errorMember (fault : RpcFault) (hf : fault ∈ replyFaults) (data : Option Json) :
    IsErrorMember (errorMember fault.code fault.message data) := by
  refine ⟨⟨fault.message, ?_⟩, ⟨fault.code, ?_, ?_⟩⟩
  · cases data <;> simp [errorMember, Json.ofPresent, Json.get?, List.lookup_cons]
  · cases data <;> simp [errorMember, Json.ofPresent, Json.get?]
  · simp only [replyFaults, List.mem_cons, List.not_mem_nil, or_false] at hf
    rcases hf with rfl | rfl | rfl <;> decide

theorem Served.isObject {server : Server} {result : Json} (h : Served server result) :
    ∃ fields, result = .obj fields := by
  cases h <;> exact ⟨_, rfl⟩

theorem ReplyForm.isReply {server : Server} {id : Option Id} {reply : Json} (h : ReplyForm server id reply) :
    IsReply reply := by
  cases h with
  | error fault sent data hf hid hd =>
    refine ⟨?_, ?_, .inr ⟨_, ?_, isErrorMember_errorMember fault hf data, ?_⟩⟩ <;>
      simp [RpcFault.reply, errorReply, Json.get?, Json.has, List.lookup_cons, jsonRpcVersion]
  | result usable sent result hid hu hr =>
    simp only [resultReply, hu]
    refine ⟨?_, ?_, .inl ⟨result.fields?.getD [], ?_, ?_⟩⟩ <;>
      simp [Json.get?, Json.has, List.lookup_cons, jsonRpcVersion]

theorem ReplyForm.get?_id {server : Server} {id : Option Id} {reply : Json} (h : ReplyForm server id reply) :
    reply.get? "id" = some ((id.map Id.toJson).getD .null) := by
  cases h with
  | error fault sent data hf hid hd =>
    simp [RpcFault.reply, errorReply, Json.get?, List.lookup_cons, hid]
  | result usable sent result hid hu hr =>
    simp [resultReply, hu, hid, Json.get?]

theorem answers_answerMessage {server : Server} {item reply : Json}
    (h : (server.answerMessage item).value = some reply) : Answers item reply := by
  have hform := answerMessage_form server h
  refine ⟨hform.isReply, ?_⟩
  rw [hform.get?_id, echoedId_eq]

theorem forall₂_answers (server : Server) (items : List Json) :
    List.Forall₂ Answers (items.filter fun item => (server.answerMessage item).value.isSome)
      (items.filterMap fun item => (server.answerMessage item).value) := by
  induction items with
  | nil => exact .nil
  | cons item items ih =>
    cases h : (server.answerMessage item).value with
    | none => simpa [h] using ih
    | some reply => simpa [h] using ⟨answers_answerMessage h, ih⟩

theorem answer_of_not_batch (server : Server) {payload : Json} (h : ∀ items, payload ≠ .arr items) :
    server.answer payload = server.answerMessage payload := by
  cases payload with
  | arr items => exact absurd rfl (h items)
  | _ => rfl

theorem value_answer_batch (server : Server) {items : List Json} (h : items ≠ []) :
    (server.answer (.arr items)).value =
      if (items.filterMap fun item => (server.answerMessage item).value).isEmpty then none
      else some (.arr (items.filterMap fun item => (server.answerMessage item).value)) := by
  cases items with
  | nil => exact absurd rfl h
  | cons item items => rw [← value_answerBatch]; rfl

/-- A payload that is no batch with items is answered by at most one reply, which is the one to it. A batch
with items is answered by the replies to those of its items that get one, in their order. -/
theorem answer_reply_envelope {server : Server} {payload reply : Json}
    (h : (server.answer payload).value = some reply) :
    (Answers payload reply ∧ ∀ items, payload = .arr items → items = []) ∨
      ∃ items replies, payload = .arr items ∧ items ≠ [] ∧ reply = .arr replies ∧ replies ≠ [] ∧
        List.Forall₂ Answers
          (items.filter fun item => (server.answerMessage item).value.isSome) replies := by
  by_cases hbatch : ∃ items, payload = .arr items
  · obtain ⟨items, rfl⟩ := hbatch
    by_cases hitems : items = []
    · subst hitems
      have hform : ReplyForm server (itemId (.arr [])) reply := by
        cases h
        exact .of_fault rfl (by decide)
      refine .inl ⟨⟨hform.isReply, ?_⟩, fun items hi => by cases hi; rfl⟩
      rw [hform.get?_id, echoedId_eq]
    · rw [value_answer_batch server hitems] at h
      split at h
      · cases h
      · rename_i hne
        cases h
        exact .inr ⟨items, _, rfl, hitems, rfl, by simpa using hne, forall₂_answers server items⟩
  · have hnot : ∀ items, payload ≠ .arr items := fun items he => hbatch ⟨items, he⟩
    rw [answer_of_not_batch server hnot] at h
    exact .inl ⟨answers_answerMessage h, fun items he => absurd he (hnot items)⟩

/-- A batch with a request, a value that is no object, and an object that has the form of a response. -/
theorem answer_mixed_batch :
    let request := Json.obj [("id", .str "a"), ("jsonrpc", .str "2.0"), ("method", .str "ping")]
    let response := Json.obj [("id", .int 7), ("jsonrpc", .str "2.0"), ("result", .obj [])]
    ∃ first second third,
      (Server.answer ⟨"demo", none⟩ (.arr [request, .int 3, response])).value = some (.arr [first, second, third]) ∧
        Answers request first ∧ Answers (.int 3) second ∧ Answers response third := by
  intro request response
  let first := resultReply (some (.str "a")) (.obj [])
  let second := RpcFault.invalidRequest.reply none none
  let third := RpcFault.invalidRequest.reply (some (.int 7)) none
  have hreply : (Server.answer ⟨"demo", none⟩ (.arr [request, .int 3, response])).value =
      some (.arr [first, second, third]) := by decide +kernel
  have hfilter : ([request, .int 3, response].filter fun item =>
      ((Server.mk "demo" none).answerMessage item).value.isSome) = [request, .int 3, response] := by decide +kernel
  refine ⟨first, second, third, hreply, ?_⟩
  rcases answer_reply_envelope hreply with ⟨-, hsingle⟩ | ⟨items, replies, hitems, -, hreplies, -, hall⟩
  · exact absurd (hsingle _ rfl) (List.cons_ne_nil _ _)
  · rw [← Json.arr.inj hitems, ← Json.arr.inj hreplies, hfilter] at hall
    cases hall with
    | cons hfirst hall =>
      cases hall with
      | cons hsecond hall =>
        cases hall with
        | cons hthird hall => exact ⟨hfirst, hsecond, hthird⟩

end ModelContext
