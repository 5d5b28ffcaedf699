import ModelContext.Client.Session
import ModelContext.Proofs.JsonText
import ModelContext.Proofs.Replies

/-!
# What a server answers to a client

Every request of a session has a form that a server knows. Its answer is a result that the session can
read, or an error that the session reports, and it stays the same when the request is read from its text.
-/

namespace ModelContext

open Json

/-! ## Values without embedded ones -/

namespace Json

mutual

theorem all_of_all {p q r : Json → Bool} (h : ∀ v, p v = true → q v = true → r v = true) (v : Json)
    (hp : v.all p = true) (hq : v.all q = true) : v.all r = true := by
  match v with
  | .null | .bool _ | .int _ | .float _ | .str _ => exact h _ hp hq
  | .arr items =>
    rw [all, Bool.and_eq_true] at hp hq ⊢
    exact ⟨h _ hp.1 hq.1, allItems_of_all h items hp.2 hq.2⟩
  | .obj fields =>
    rw [all, Bool.and_eq_true] at hp hq ⊢
    exact ⟨h _ hp.1 hq.1, allFields_of_all h fields hp.2 hq.2⟩

theorem allItems_of_all {p q r : Json → Bool} (h : ∀ v, p v = true → q v = true → r v = true) (items : List Json)
    (hp : allItems p items = true) (hq : allItems q items = true) : allItems r items = true := by
  match items with
  | [] => rfl
  | v :: items =>
    rw [allItems, Bool.and_eq_true] at hp hq ⊢
    exact ⟨all_of_all h v hp.1 hq.1, allItems_of_all h items hp.2 hq.2⟩

theorem allFields_of_all {p q r : Json → Bool} (h : ∀ v, p v = true → q v = true → r v = true)
    (fields : List (String × Json)) (hp : allFields p fields = true) (hq : allFields q fields = true) :
    allFields r fields = true := by
  match fields with
  | [] => rfl
  | (key, v) :: fields =>
    rw [allFields, Bool.and_eq_true] at hp hq ⊢
    exact ⟨all_of_all h v hp.1 hq.1, allFields_of_all h fields hp.2 hq.2⟩

end

mutual

/-- A value in which no object is marked stands for itself. -/
theorem expand?_of_unmarked (v : Json) (hv : v.all isUnmarked = true) : v.expand? = some v := by
  match v with
  | .null | .bool _ | .int _ | .float _ | .str _ => rfl
  | .arr items =>
    rw [all, Bool.and_eq_true] at hv
    rw [expand?, expandItems?_of_unmarked items hv.2]
    rfl
  | .obj [] => rfl
  | .obj ((key, v) :: fields) =>
    rw [all, Bool.and_eq_true] at hv
    have hkey : key ≠ embeddedKey := by simpa [isUnmarked] using hv.1
    unfold expand?
    rw [if_neg hkey, expandFields?_of_unmarked ((key, v) :: fields) hv.2]
    rfl

theorem expandItems?_of_unmarked (items : List Json) (h : allItems isUnmarked items = true) :
    expandItems? items = some items := by
  match items with
  | [] => rfl
  | v :: items =>
    rw [allItems, Bool.and_eq_true] at h
    rw [expandItems?, expand?_of_unmarked v h.1, expandItems?_of_unmarked items h.2]
    rfl

theorem expandFields?_of_unmarked (fields : List (String × Json)) (h : allFields isUnmarked fields = true) :
    expandFields? fields = some fields := by
  match fields with
  | [] => rfl
  | (key, v) :: fields =>
    rw [allFields, Bool.and_eq_true] at h
    rw [expandFields?, expand?_of_unmarked v h.1, expandFields?_of_unmarked fields h.2]
    rfl

end

theorem reread_obj {fields : Fields} (h : ascends (fields.map (·.1)) = true) :
    reread (.obj fields) = .obj (rereadFields fields) := by
  rw [reread]
  apply ofFields_of_ascends
  rw [map_fst_rereadFields]
  exact h

theorem lookup_rereadFields (fields : Fields) (key : String) :
    (rereadFields fields).lookup key = (fields.lookup key).map reread := by
  induction fields with
  | nil => rfl
  | cons field fields ih =>
    rw [rereadFields, List.lookup_cons, List.lookup_cons, ih]
    cases key == field.1 with
    | true => rfl
    | false => rfl

/-- Reading a value again keeps its integers. -/
theorem int64?_reread (v : Json) : v.reread.int64? = v.int64? := by
  cases v <;> rfl

mutual

/-- Reading a value again marks no object. -/
theorem all_isUnmarked_reread (v : Json) (hv : v.all isUnmarked = true) (hc : v.all isCanonical = true) :
    v.reread.all isUnmarked = true := by
  match v with
  | .null | .bool _ | .int _ | .float _ | .str _ => rfl
  | .arr items =>
    rw [all, Bool.and_eq_true] at hv hc
    rw [reread, all, allItems_isUnmarked_reread items hv.2 hc.2]
    rfl
  | .obj fields =>
    rw [all, Bool.and_eq_true] at hv hc
    rw [reread_obj hc.1, all, allFields_isUnmarked_reread fields hv.2 hc.2, Bool.and_true]
    cases fields with
    | nil => rfl
    | cons field fields => exact hv.1

theorem allItems_isUnmarked_reread (items : List Json) (h : allItems isUnmarked items = true)
    (hc : allItems isCanonical items = true) : allItems isUnmarked (rereadItems items) = true := by
  match items with
  | [] => rfl
  | v :: items =>
    rw [allItems, Bool.and_eq_true] at h hc
    rw [rereadItems, allItems, all_isUnmarked_reread v h.1 hc.1, allItems_isUnmarked_reread items h.2 hc.2]
    rfl

theorem allFields_isUnmarked_reread (fields : List (String × Json)) (h : allFields isUnmarked fields = true)
    (hc : allFields isCanonical fields = true) : allFields isUnmarked (rereadFields fields) = true := by
  match fields with
  | [] => rfl
  | (key, v) :: fields =>
    rw [allFields, Bool.and_eq_true] at h hc
    rw [rereadFields, allFields, all_isUnmarked_reread v h.1 hc.1, allFields_isUnmarked_reread fields h.2 hc.2]
    rfl

end

end Json

/-! ## Requests -/

theorem requestJson_eq (id : Json) (method : String) (params : Option Json) :
    requestJson id method params =
      .obj (("id", id) :: ("jsonrpc", .str jsonRpcVersion) :: ("method", .str method) ::
        (params.map fun v => ("params", v)).toList) := by
  cases params <;> rfl

theorem get?_id_requestJson (id : Json) (method : String) (params : Option Json) :
    (requestJson id method params).get? "id" = some id := by
  cases params <;> rfl

theorem get?_method_requestJson (id : Json) (method : String) (params : Option Json) :
    (requestJson id method params).get? "method" = some (.str method) := by
  cases params <;> rfl

/-- The number of a request is a 64-bit integer. -/
theorem fitsInt64_toInt (n : Int64) : FitsInt64 n.toInt :=
  ⟨n.le_toInt, n.toInt_lt⟩

section Requests

variable (server : Server) {id : Int}

theorem ofJson?_number (hid : FitsInt64 id) : Id.ofJson? (.int id) = some (.number id) := by
  unfold Id.ofJson?
  dsimp only
  rw [Json.int64?, if_pos hid]
  rfl

theorem usableId_number (hid : FitsInt64 id) : usableId (some (Id.number id).toJson) = some (.number id) := by
  rw [usableId, Option.bind_some]
  exact ofJson?_number hid

theorem value_answer_of_call {fields : Fields} {sent : Id} {method : String} {params : Option Fields}
    (hid : (fields.lookup "id").bind Id.ofJson? = some sent)
    (hcall : Message.call? (.named fields) = some (method, params)) :
    (server.answer (.obj fields)).value = some (server.answerRequest sent method params).value := by
  have hnull : fields.lookup "id" ≠ some .null := by
    intro hnull
    rw [hnull] at hid
    cases hid
  have hrequest : Message.ofFields? fields = some (.request sent method params) := by
    rw [Message.ofFields?, hcall, hid]
    rfl
  unfold Server.answer Server.answerMessage
  dsimp only
  rw [hrequest, if_neg hnull]
  rfl

theorem call?_request (sent : Json) (method : String) {params : Option Fields}
    (hparams : ∀ fields ∈ params, expandFields? fields = some fields) :
    Message.call? (.named (("id", sent) :: ("jsonrpc", .str jsonRpcVersion) :: ("method", .str method) ::
      ((params.map Json.obj).map fun v => ("params", v)).toList)) = some (method, params) := by
  cases params with
  | none => rfl
  | some fields =>
    have hopen : Json.openObject? (.obj fields) = some fields := hparams fields rfl
    have hcall : Message.call? (.named [("id", sent), ("jsonrpc", .str jsonRpcVersion), ("method", .str method),
        ("params", .obj fields)]) =
        ((Json.openObject? (.obj fields)).map some).bind fun params => some (method, params) := rfl
    rw [hopen] at hcall
    exact hcall

/-- A request under a number is answered as such. -/
theorem value_answer_request (hid : FitsInt64 id) (method : String) {params : Option Fields}
    (hparams : ∀ fields ∈ params, expandFields? fields = some fields) :
    (server.answer (requestJson (.int id) method (params.map .obj))).value =
      some (server.answerRequest (.number id) method params).value := by
  rw [requestJson_eq]
  apply value_answer_of_call
  · rw [List.lookup_cons_self, Option.bind_some]
    exact ofJson?_number hid
  · exact call?_request _ method hparams

theorem value_answerRequest_of_accepts (sent : Id) (method : Method) (params : Option Fields)
    (haccepts : method.accepts (params.map .obj) = true) :
    (server.answerRequest sent method.name params).value =
      (server.respond (some sent.toJson) method.name (params.map .obj)).value := by
  have hshaped : ¬Server.wellShaped method.name (params.map .obj) = false := by
    rw [Server.wellShaped, Method.ofName?_name]
    dsimp only
    rw [haccepts]
    decide
  have hnamed : ¬(Text.trim method.name).isEmpty = true := by
    rcases method with _ | _ | (_ | _ | _ | _) | _ | _ <;> decide
  rw [Server.answerRequest, if_neg hshaped, if_neg hnamed]

theorem value_answerRequest_of_not_accepts (sent : Id) (method : Method) (params : Option Fields)
    (haccepts : method.accepts (params.map .obj) = false) :
    (server.answerRequest sent method.name params).value = RpcFault.invalidParams.reply (some sent.toJson) none := by
  have hshaped : Server.wellShaped method.name (params.map .obj) = false := by
    rw [Server.wellShaped, Method.ofName?_name]
    exact haccepts
  rw [Server.answerRequest, if_pos hshaped]
  rfl

end Requests

/-! ## What a session makes of its answers -/

section Outcomes

open Session

variable {α β : Type} {id : Int}

theorem resultOf_error {answer member : Json} (hid : answer.get? "id" = some (.int id))
    (hmember : answer.get? "error" = some member) (method : String) :
    resultOf id method (some answer) = .error (errorOf member) := by
  have hsame : ¬answer.get? "id" ≠ some (.int id) := not_not.2 hid
  rw [resultOf, if_neg hsame, hmember]

theorem resultOf_result {answer result : Json} (hid : answer.get? "id" = some (.int id))
    (hmember : answer.get? "error" = none) (hresult : answer.get? "result" = some result) (method : String) :
    resultOf id method (some answer) = .ok result := by
  have hsame : ¬answer.get? "id" ≠ some (.int id) := not_not.2 hid
  rw [resultOf, if_neg hsame, hmember, hresult]

theorem errorOf_errorMember (fault : RpcFault) (data : Option Json) :
    errorOf (errorMember fault.code fault.message data) = .rpc fault.code fault.message data := by
  cases fault <;> cases data <;> rfl

/-- An error reply is reported with its code, message and data. -/
theorem readAnswer_fault (hid : FitsInt64 id) (method : String) (read : Json → Option α) (fault : RpcFault)
    (data : Option Json) :
    readAnswer id method read (.ok (some (fault.reply (some (.int id)) data))) =
      .error (.rpc fault.code fault.message data) := by
  have hreply : fault.reply (some (.int id)) data =
      .obj [("error", errorMember fault.code fault.message data), ("id", .int id),
        ("jsonrpc", .str jsonRpcVersion)] := by
    rw [RpcFault.reply, errorReply, usableId, Option.bind_some, ofJson?_number hid]
    rfl
  have hresult : resultOf id method (some (fault.reply (some (.int id)) data)) =
      .error (.rpc fault.code fault.message data) := by
    rw [hreply, ← errorOf_errorMember]
    exact resultOf_error rfl rfl method
  rw [readAnswer, hresult]

/-- A result that can be read is handed to the caller. -/
theorem readAnswer_result (hid : FitsInt64 id) (method : String) {read : Json → Option α} {result : Json} {value : α}
    (hobject : ∃ fields, result = .obj fields) (hread : read result = some value) :
    readAnswer id method read (.ok (some (resultReply (some (.int id)) result))) = .ok value := by
  obtain ⟨fields, rfl⟩ := hobject
  have hreply : resultReply (some (.int id)) (.obj fields) =
      .obj [("id", .int id), ("jsonrpc", .str jsonRpcVersion), ("result", .obj fields)] := by
    rw [resultReply, usableId, Option.bind_some, ofJson?_number hid]
    rfl
  have hresult : resultOf id method (some (resultReply (some (.int id)) (.obj fields))) = .ok (.obj fields) := by
    rw [hreply]
    exact resultOf_result rfl rfl rfl method
  rw [readAnswer, hresult]
  dsimp only
  rw [hread]

/-- The ways in which calls end as long as nothing fails between a client and a server. -/
inductive Settled : Except ClientError α → Prop where
  | done (value : α) : Settled (.ok value)
  | refused (code : Int) (reason : String) (data : Option Json) : Settled (.error (.rpc code reason data))
  | early : Settled (.error .notInitialized)

theorem Settled.error {e : ClientError} (h : Settled (.error e : Except ClientError α)) :
    Settled (.error e : Except ClientError β) := by
  cases h with
  | refused code reason data => exact .refused code reason data
  | early => exact .early

theorem Settled.map {outcome : Except ClientError α} (h : Settled outcome) (f : α → β) : Settled (outcome.map f) := by
  cases h with
  | done value => exact .done (f value)
  | refused code reason data => exact .refused code reason data
  | early => exact .early

/-- Every refusal is told by an error of a standard kind. -/
theorem Refusal.exists_value_reply (refusal : Refusal) (sent : Option Json) :
    ∃ fault data, (refusal.reply sent).value = RpcFault.reply fault sent data := by
  cases refusal with
  | badRequest code reason => exact ⟨.invalidParams, _, rfl⟩
  | unauthorized code reason => exact ⟨.unauthorized, _, rfl⟩
  | notFound code reason details => exact ⟨.methodNotFound, _, rfl⟩
  | internal code reason => exact ⟨.internalError, _, rfl⟩

variable (server : Server)

/-- What a session makes of the answer to its request under an id. -/
def outcomeOf (id : Int) (method : String) (params : Option Json) (read : Json → Option α) : Except ClientError α :=
  readAnswer id method read (.ok (server.answer (requestJson (.int id) method params)).value)

/-- A request that has the form of its method reaches what answers it. -/
theorem value_answer_method (hid : FitsInt64 id) (method : Method) (params : Option Fields)
    (hparams : ∀ fields ∈ params, expandFields? fields = some fields)
    (haccepts : method.accepts (params.map .obj) = true) :
    (server.answer (requestJson (.int id) method.name (params.map .obj))).value =
      some (server.respond (some (.int id)) method.name (params.map .obj)).value := by
  rw [value_answer_request server hid method.name hparams,
    value_answerRequest_of_accepts server (.number id) method params haccepts]
  rfl

theorem handshakeParams_open :
    ∃ fields, handshakeParams = .obj fields ∧ expandFields? fields = some fields :=
  ⟨_, rfl, rfl⟩

/-- Every handshake is welcomed. -/
theorem value_answer_handshake (hid : FitsInt64 id) :
    (server.answer (requestJson (.int id) Method.handshake.name (some handshakeParams))).value =
      some (resultReply (some (.int id)) (server.welcome Server.protocolVersion).toJson) := by
  obtain ⟨fields, hfields, hopen⟩ := handshakeParams_open
  have hparams : ∀ read ∈ some fields, expandFields? read = some read := by
    rintro _ ⟨⟩
    exact hopen
  have haccepts : Method.handshake.accepts ((some fields).map .obj) = true :=
    congrArg (Method.handshake.accepts ∘ some) hfields.symm
  have hrespond : ∀ sent, (server.respond sent Method.handshake.name (some handshakeParams)).value =
      resultReply sent (server.welcome Server.protocolVersion).toJson := fun _ => rfl
  have hanswer := value_answer_method server hid .handshake (some fields) hparams haccepts
  rw [Option.map_some, ← hfields, hrespond] at hanswer
  exact hanswer

theorem outcomeOf_handshake (hid : FitsInt64 id) :
    outcomeOf server id Method.handshake.name (some handshakeParams) InitializeResult.ofJson? =
      .ok (server.welcome Server.protocolVersion) := by
  rw [outcomeOf, value_answer_handshake server hid]
  exact readAnswer_result hid _ ⟨_, rfl⟩ rfl

/-- Every listing comes as one page, whatever the cursor. -/
theorem outcomeOf_page (hid : FitsInt64 id) (listing : Listing) (cursor : Option String) :
    outcomeOf server id listing.methodName (cursorParams cursor) listing.pageOfJson? =
      .ok (.whole (Server.items listing)) := by
  have hparams : cursorParams cursor = (cursor.map fun cursor => [("cursor", Json.str cursor)]).map .obj := by
    cases cursor <;> rfl
  have hanswer := value_answer_method server hid (.list listing) (cursor.map fun cursor => [("cursor", .str cursor)])
    (by cases cursor with
      | none => rintro _ ⟨⟩
      | some cursor => rintro _ ⟨⟩; rfl)
    (by cases cursor <;> rfl)
  have hrespond : ∀ sent params, (server.respond sent (Method.list listing).name params).value =
      resultReply sent (Server.listingJson listing) := by
    intro sent params
    rw [Server.respond, Method.ofName?_name]
    rfl
  rw [hrespond] at hanswer
  rw [outcomeOf, hparams]
  change readAnswer id _ _ (.ok (server.answer (requestJson (.int id) (Method.list listing).name _)).value) = _
  rw [hanswer]
  apply readAnswer_result hid
  · exact ⟨_, rfl⟩
  · cases listing <;> rfl

/-! ## Calls of tools -/

/-- What a value gives as the arguments of a tool: null gives none, and only an object gives some. -/
def givenArguments? : Json → Option (Option Fields)
  | .null => some none
  | .obj fields => some (some fields)
  | _ => none

def toolReply (id : Json) (name : String) (arguments : Json) : Json :=
  match givenArguments? arguments with
  | none => RpcFault.invalidParams.reply (some id) none
  | some arguments =>
    match ModelContext.callTool { arguments, name } with
    | .ok result => resultReply (some id) result.toJson
    | .error refusal => (refusal.reply (some id)).value

def toolParams (name : String) (arguments : Json) : Fields :=
  [("arguments", arguments), ("name", .str name)]

theorem expandFields?_toolParams (name : String) {arguments : Json} (harguments : arguments.all isUnmarked = true) :
    expandFields? (toolParams name arguments) = some (toolParams name arguments) := by
  apply expandFields?_of_unmarked
  rw [toolParams, allFields, harguments]
  rfl

theorem ofJson?_toolParams (name : String) {arguments : Json} (harguments : arguments.all isUnmarked = true) :
    CallToolParams.ofJson? (.obj (toolParams name arguments)) =
      (givenArguments? arguments).map fun arguments => { arguments, name } := by
  cases arguments with
  | obj fields =>
    rw [all, Bool.and_eq_true] at harguments
    have hopen : Json.openObject? (.obj fields) = some fields := expandFields?_of_unmarked fields harguments.2
    have hparams : CallToolParams.ofJson? (.obj (toolParams name (.obj fields))) =
        ((Json.openObject? (.obj fields)).map some).bind fun arguments => some { arguments, name } := rfl
    rw [hopen] at hparams
    exact hparams
  | _ => rfl

theorem value_answer_callTool (hid : FitsInt64 id) (name : String) {arguments : Json}
    (harguments : arguments.all isUnmarked = true) :
    (server.answer (requestJson (.int id) Method.callTool.name (some (.obj (toolParams name arguments))))).value =
      some (toolReply (.int id) name arguments) := by
  have hread := ofJson?_toolParams name harguments
  have hparams : ∀ fields ∈ some (toolParams name arguments), expandFields? fields = some fields := by
    rintro _ ⟨⟩
    exact expandFields?_toolParams name harguments
  cases hgiven : givenArguments? arguments with
  | none =>
    rw [hgiven, Option.map_none] at hread
    have haccepts : Method.callTool.accepts ((some (toolParams name arguments)).map .obj) = false := by
      rw [Option.map_some, Method.accepts, hread]
      rfl
    have hanswer := value_answer_request server hid Method.callTool.name hparams
    rw [value_answerRequest_of_not_accepts server _ .callTool _ haccepts, Option.map_some] at hanswer
    rw [hanswer, toolReply, hgiven]
    rfl
  | some given =>
    rw [hgiven, Option.map_some] at hread
    have haccepts : Method.callTool.accepts ((some (toolParams name arguments)).map .obj) = true := by
      rw [Option.map_some, Method.accepts, hread]
      rfl
    have hanswer := value_answer_method server hid .callTool (some (toolParams name arguments)) hparams haccepts
    have hrespond : ∀ sent params, (server.respond sent Method.callTool.name params).value =
        (answerCallTool sent params).value := fun _ _ => rfl
    rw [Option.map_some, hrespond, answerCallTool, Option.bind_some, hread] at hanswer
    rw [hanswer, toolReply, hgiven]
    dsimp only
    cases callTool { arguments := given, name } with
    | ok result => exact congrArg some (Logged.value_pure _)
    | error refusal => rfl

/-- What a tool does depends on the integers among its arguments only. -/
theorem callTool_reread (fields : Fields) (name : String) :
    callTool { arguments := some (rereadFields fields), name } = callTool { arguments := some fields, name } := by
  have hlookup (key : String) :
      ((rereadFields fields).lookup key).bind Json.int64? = (fields.lookup key).bind Json.int64? := by
    rw [lookup_rereadFields, Option.bind_map]
    congr 1
    funext v
    exact int64?_reread v
  have hsummands : Adder.summands? (rereadFields fields) = Adder.summands? fields := by
    rw [Adder.summands?, Adder.summands?, hlookup, hlookup]
  rw [callTool, callTool, Adder.call, Adder.call, Option.getD_some, Option.getD_some, hsummands]

/-- What a tool replies does not change when its arguments are read from their text. -/
theorem toolReply_reread (sent : Json) (name : String) {arguments : Json} (hc : arguments.all isCanonical = true) :
    toolReply sent name arguments.reread = toolReply sent name arguments := by
  cases arguments with
  | obj fields =>
    rw [all, Bool.and_eq_true] at hc
    rw [reread_obj hc.1, toolReply, toolReply, givenArguments?, givenArguments?]
    dsimp only
    rw [callTool_reread]
  | _ => rfl

end Outcomes

end ModelContext
