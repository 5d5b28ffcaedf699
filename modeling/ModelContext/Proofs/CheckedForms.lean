import ModelContext.Proofs.Outcomes
import ModelContext.Proofs.TypedReplies

/-!
# Forms that are checked before they are read

The form of a request is checked before its method is carried out, and a method that needs its parameters reads
them once more. For calls of tools and readings of resources the check refuses exactly what could not be read
afterwards, and in the same words. So such a request is answered as if its method had been handed the parameters
right away, as far as they can be taken over into a request.
-/

namespace ModelContext

open Json

/-! ## Requests -/

structure IsRequest (fields : Fields) (id : Json) (method : String) (params : Option Fields) : Prop
    extends IsCall fields method params where
  sent : fields.lookup "id" = some id
  usable : IsUsable id

/-- Whatever is asked for under a usable id can be written as a request. -/
theorem exists_isRequest {id : Json} (husable : IsUsable id) (method : String) (params : Option Fields) :
    ∃ fields, requestJson id method (params.map .obj) = .obj fields ∧ IsRequest fields id method params := by
  obtain ⟨fields, hfields, hcall, hid⟩ := exists_isCall_requestJson id method params
  exact ⟨fields, hfields, hcall, hid, husable⟩

section Requests

variable (server : Server) {fields : Fields} {id : Json} {method : String} {params taken : Option Fields}

theorem IsRequest.value_answerMessage (h : IsRequest fields id method params) (htaken : takeOver? params = some taken) :
    ∃ sent : Id, sent.toJson = id ∧
      (server.answerMessage (.obj fields)).value = some (server.answerRequest sent method taken).value := by
  obtain ⟨sent, hsent⟩ := isUsable_iff.1 h.usable
  have hread : (fields.lookup "id").bind Id.ofJson? = some sent := by rw [h.sent, Option.bind_some, hsent]
  refine ⟨sent, Id.toJson_of_ofJson? hsent, ?_⟩
  rw [answerMessage_request server h.toIsCall htaken hread, Logged.value_map]

theorem IsRequest.value_answerMessage_of_unreadable (h : IsRequest fields id method params)
    (htaken : takeOver? params = none) :
    (server.answerMessage (.obj fields)).value = some (RpcFault.invalidRequest.reply (some id) none) := by
  rw [answerMessage_of_unreadable server h.toIsCall (not_areReadable_iff.2 htaken), h.sent, Logged.value_pure]

/-- Parameters in which no object is marked are taken over as they are. -/
theorem takeOver?_of_unmarked (h : ∀ given ∈ params, allFields isUnmarked given = true) :
    takeOver? params = some params := by
  cases params with
  | none => rfl
  | some given => rw [takeOver?, expandFields?_of_unmarked given (h given rfl), Option.map_some]

end Requests

/-! ## What is read twice -/

/-- The parameters cannot be read by what answers a call of a tool, or a reading of a resource. -/
def Unread : Method → Option Json → Prop
  | .callTool, params => params.bind CallToolParams.ofJson? = none
  | .readResource, params => params.bind ReadResourceParams.ofJson? = none
  | _, _ => False

section Methods

variable (server : Server) {method : Method}

theorem accepts_eq_false_iff (hmethod : method = .callTool ∨ method = .readResource) {params : Option Json} :
    method.accepts params = false ↔ Unread method params := by
  rcases hmethod with rfl | rfl
  · cases params <;> simp [Method.accepts, Unread]
  · cases params <;> simp [Method.accepts, Unread]

theorem wellShaped_eq_false_iff (hmethod : method = .callTool ∨ method = .readResource) {params : Option Json} :
    Server.wellShaped method.name params = false ↔ Unread method params := by
  rw [Server.wellShaped, Method.ofName?_name]
  exact accepts_eq_false_iff hmethod

theorem value_respond_callTool (id params : Option Json) :
    (server.respond id Method.callTool.name params).value = (answerCallTool id params).value :=
  rfl

theorem value_respond_readResource (id params : Option Json) :
    (server.respond id Method.readResource.name params).value = (answerReadResource id params).value :=
  rfl

theorem value_respond_of_unread (hmethod : method = .callTool ∨ method = .readResource) (id : Option Json)
    {params : Option Json} (h : Unread method params) :
    (server.respond id method.name params).value = RpcFault.invalidParams.reply id none := by
  rcases hmethod with rfl | rfl
  · rw [Unread] at h
    rw [value_respond_callTool, answerCallTool, h, Logged.value_pure]
  · rw [Unread] at h
    rw [value_respond_readResource, answerReadResource, h, Logged.value_pure]

theorem failureOf?_malformed (id : Option Json) : failureOf? (RpcFault.invalidParams.reply id none) = some .malformed :=
  rfl

/-- What a tool refuses is told with data. -/
theorem failureOf?_callTool {call : CallToolParams} {refusal : Refusal} (h : callTool call = .error refusal)
    (id : Option Json) : failureOf? (refusal.reply id).value ≠ some .malformed := by
  unfold callTool at h
  split at h
  · rw [Adder.call_error h]
    exact (by decide : some Failure.invalidArguments ≠ some .malformed)
  · obtain rfl := Except.error.inj h
    exact fun hsame : some (Failure.unknownTool call.name) = some .malformed => nomatch hsame

/-- Parameters that are read are answered with a result or with an error that has data. -/
theorem value_respond_ne_malformed (hmethod : method = .callTool ∨ method = .readResource) (id : Option Json)
    {params : Option Json} (h : ¬Unread method params) :
    (server.respond id method.name params).value ≠ RpcFault.invalidParams.reply id none := by
  have hresult (result : Json) : failureOf? (resultReply id result) ≠ some .malformed := by
    rw [failureOf?_of_not_error (isErrorReply_resultReply id result)]
    nofun
  intro hreply
  have hfailure := congrArg failureOf? hreply
  rw [failureOf?_malformed] at hfailure
  rcases hmethod with rfl | rfl
  · obtain ⟨call, hcall⟩ := Option.ne_none_iff_exists'.1 h
    rw [value_respond_callTool, answerCallTool, hcall] at hfailure
    dsimp only at hfailure
    cases houtcome : callTool call with
    | ok result =>
      rw [houtcome] at hfailure
      exact hresult _ hfailure
    | error refusal =>
      rw [houtcome] at hfailure
      exact failureOf?_callTool houtcome id hfailure
  · obtain ⟨read, hread⟩ := Option.ne_none_iff_exists'.1 h
    rw [value_respond_readResource, answerReadResource, hread] at hfailure
    dsimp only at hfailure
    cases hname : Greeting.name? read.uri with
    | some name =>
      rw [readResource, hname] at hfailure
      exact hresult _ hfailure
    | none =>
      rw [readResource, hname] at hfailure
      have hunknown : some (Failure.unknownResource read.uri) = some .malformed := hfailure
      cases hunknown

/-- Once its form is checked, a request is answered as if it had not been. -/
theorem value_answerRequest_eq_respond (hmethod : method = .callTool ∨ method = .readResource) (sent : Id)
    (params : Option Fields) :
    (server.answerRequest sent method.name params).value =
      (server.respond (some sent.toJson) method.name (params.map .obj)).value := by
  cases haccepts : method.accepts (params.map .obj) with
  | true => exact value_answerRequest_of_accepts server sent method params haccepts
  | false =>
    rw [value_answerRequest_of_not_accepts server sent method params haccepts,
      value_respond_of_unread server hmethod _ ((accepts_eq_false_iff hmethod).1 haccepts)]

end Methods

structure FormsAgree (server : Server) (method : Method) : Prop where
  /-- A request is answered as its method answers its parameters. -/
  answered : ∀ fields id params, IsRequest fields id method.name params →
    (∀ given ∈ params, allFields isUnmarked given = true) →
    (server.answerMessage (.obj fields)).value =
      some (server.respond (some id) method.name (params.map .obj)).value
  /-- If values are embedded in its parameters, it is answered for those that they stand for. -/
  expanded : ∀ fields id params taken, IsRequest fields id method.name params → takeOver? params = some taken →
    (server.answerMessage (.obj fields)).value =
      some (server.respond (some id) method.name (taken.map .obj)).value
  /-- If they stand for none, it is not a valid request. -/
  invalid : ∀ fields id params, IsRequest fields id method.name params → takeOver? params = none →
    (server.answerMessage (.obj fields)).value = some (RpcFault.invalidRequest.reply (some id) none)
  /-- The check refuses exactly what cannot be read afterwards. -/
  refused : ∀ params, Server.wellShaped method.name params = false ↔ Unread method params
  /-- Both tell so by the same error. -/
  told : ∀ (sent : Id) (params : Option Fields), Unread method (params.map .obj) →
    (server.answerRequest sent method.name params).value = RpcFault.invalidParams.reply (some sent.toJson) none ∧
      (server.respond (some sent.toJson) method.name (params.map .obj)).value =
        RpcFault.invalidParams.reply (some sent.toJson) none
  /-- What passes the check is never told so. -/
  passed : ∀ id params, Server.wellShaped method.name params = true →
    (server.respond id method.name params).value ≠ RpcFault.invalidParams.reply id none

/-- Calls of tools and readings of resources are answered as if their form had not been checked before. -/
theorem checked_as_read (server : Server) {method : Method} (hmethod : method = .callTool ∨ method = .readResource) :
    FormsAgree server method where
  answered fields id params hrequest hplain := by
    obtain ⟨sent, rfl, hanswer⟩ := hrequest.value_answerMessage server (takeOver?_of_unmarked hplain)
    rw [hanswer, value_answerRequest_eq_respond server hmethod]
  expanded fields id params taken hrequest htaken := by
    obtain ⟨sent, rfl, hanswer⟩ := hrequest.value_answerMessage server htaken
    rw [hanswer, value_answerRequest_eq_respond server hmethod]
  invalid fields id params hrequest htaken := hrequest.value_answerMessage_of_unreadable server htaken
  refused params := wellShaped_eq_false_iff hmethod
  told sent params hunread := by
    have hrespond := value_respond_of_unread server hmethod (some sent.toJson) hunread
    exact ⟨(value_answerRequest_eq_respond server hmethod sent params).trans hrespond, hrespond⟩
  passed id params hshaped := by
    apply value_respond_ne_malformed server hmethod
    rw [← wellShaped_eq_false_iff hmethod, hshaped]
    exact Bool.noConfusion

def mistaggedParams : Fields :=
  [("_meta", .obj [("progressToken", .bool true)]), ("uri", .str "greeting://ada")]

def mistaggedReading : Fields :=
  [("id", .str "r"), ("jsonrpc", .str "2.0"), ("method", .str "resources/read"), ("params", .obj mistaggedParams)]

/-- It is refused for its form, as it would be without the check. -/
theorem checked_as_read_mistagged :
    (Server.answerMessage ⟨"Demo", none⟩ (.obj mistaggedReading)).value =
      some (RpcFault.invalidParams.reply (some (.str "r")) none) := by
  have hagree := checked_as_read ⟨"Demo", none⟩ (Or.inr rfl : Method.readResource = .callTool ∨ _)
  have hrequest : IsRequest mistaggedReading (.str "r") Method.readResource.name (some mistaggedParams) :=
    ⟨⟨rfl, rfl, Or.inl rfl⟩, rfl, Or.inl ⟨"r", rfl⟩⟩
  have hplain : ∀ given ∈ some mistaggedParams, allFields isUnmarked given = true := by
    rintro _ ⟨⟩
    decide
  have hunread : Unread .readResource ((some mistaggedParams).map .obj) :=
    (rfl : ReadResourceParams.ofJson? (.obj mistaggedParams) = none)
  rw [hagree.answered _ _ _ hrequest hplain]
  exact congrArg some (hagree.told (.text "r") (some mistaggedParams) hunread).2

/-- A reading of a greeting with a note that begins with the key for embedded values and does not end there. -/
def annotatedReading : Fields :=
  [("id", .int 7), ("jsonrpc", .str "2.0"), ("method", .str "resources/read"),
   ("params", .obj [("note", .obj [(embeddedKey, .str "[1]"), ("a", .int 1)]), ("uri", .str "greeting://ada")])]

/-- Not every request is answered as its method answers its parameters: the note is not looked at there. -/
theorem not_always_checked_as_read :
    ¬∀ (server : Server) (method : Method) (fields : Fields) (id : Json) (params : Option Fields),
      method = .callTool ∨ method = .readResource → IsRequest fields id method.name params →
      (server.answerMessage (.obj fields)).value =
        some (server.respond (some id) method.name (params.map .obj)).value := by
  intro h
  have hanswer := h ⟨"Demo", none⟩ .readResource annotatedReading (.int 7)
    (some [("note", .obj [(embeddedKey, .str "[1]"), ("a", .int 1)]), ("uri", .str "greeting://ada")]) (Or.inr rfl)
    ⟨⟨rfl, rfl, Or.inl rfl⟩, rfl, isUsable_iff.2 ⟨.number 7, rfl⟩⟩
  have hrefused : (Server.answerMessage ⟨"Demo", none⟩ (.obj annotatedReading)).value =
      some (RpcFault.invalidRequest.reply (some (.int 7)) none) := by decide +kernel
  rw [hrefused, value_respond_readResource] at hanswer
  have herror := congrArg (fun reply => reply.map isErrorReply) hanswer
  revert herror
  decide +kernel

end ModelContext
