import ModelContext.Client.Web
import ModelContext.Proofs.Framing
import ModelContext.Proofs.Sessions

/-!
# One answer on every carrier

A service over lines and a service over HTTP answer a message with the same value, if its text fits into a
body. Replies are read as they were written, on a line, as a plain body and as an event.
-/

namespace ModelContext

open Json

/-! ## Replies are read as they were written -/

/-- A value that is read as it was written, in texts with few open brackets. -/
structure Faithful (depth : Nat) (v : Json) : Prop where
  plain : v.all isPlain = true
  stable : v.all isStable = true
  shallow : v.depth ≤ depth

namespace Faithful

variable {depth : Nat}

theorem parse {v : Json} (h : Faithful depth v) (hdepth : depth ≤ maxNesting) : parse? v.text = some v := by
  rw [parse?_text h.plain (h.shallow.trans hdepth), reread_of_stable v h.stable]

theorem mono {v : Json} (h : Faithful depth v) {more : Nat} (hle : depth ≤ more) : Faithful more v where
  plain := h.plain
  stable := h.stable
  shallow := h.shallow.trans hle

theorem items {vs : List Json} (h : ∀ v ∈ vs, Faithful depth v) :
    allItems isPlain vs = true ∧ allItems isStable vs = true ∧ itemsDepth vs ≤ depth := by
  induction vs with
  | nil => exact ⟨rfl, rfl, Nat.zero_le _⟩
  | cons v vs ih =>
    obtain ⟨hplain, hstable, hdepth⟩ := ih fun w hw => h w (List.mem_cons_of_mem v hw)
    have hv := h v List.mem_cons_self
    refine ⟨?_, ?_, ?_⟩
    · rw [allItems, hv.plain, hplain]
      rfl
    · rw [allItems, hv.stable, hstable]
      rfl
    · rw [itemsDepth]
      exact max_le hv.shallow hdepth

theorem fields {fs : Fields} (h : ∀ field ∈ fs, Faithful depth field.2) :
    allFields isPlain fs = true ∧ allFields isStable fs = true ∧ fieldsDepth fs ≤ depth := by
  induction fs with
  | nil => exact ⟨rfl, rfl, Nat.zero_le _⟩
  | cons field fs ih =>
    obtain ⟨hplain, hstable, hdepth⟩ := ih fun other hother => h other (List.mem_cons_of_mem field hother)
    have hv := h field List.mem_cons_self
    refine ⟨?_, ?_, ?_⟩
    · rw [allFields, hv.plain, hplain]
      rfl
    · rw [allFields, hv.stable, hstable]
      rfl
    · rw [fieldsDepth]
      exact max_le hv.shallow hdepth

theorem arr {vs : List Json} (h : ∀ v ∈ vs, Faithful depth v) : Faithful (depth + 1) (.arr vs) := by
  obtain ⟨hplain, hstable, hdepth⟩ := Faithful.items h
  refine ⟨?_, ?_, Nat.succ_le_succ hdepth⟩
  · rw [all, hplain]
    rfl
  · rw [all, hstable]
    rfl

theorem obj {fs : Fields} (h : ∀ field ∈ fs, Faithful depth field.2) (hsorted : ascends (fs.map (·.1)) = true)
    (hfirst : isUnmarked (.obj fs) = true) : Faithful (depth + 1) (.obj fs) := by
  obtain ⟨hplain, hstable, hdepth⟩ := Faithful.fields h
  refine ⟨?_, ?_, Nat.succ_le_succ hdepth⟩
  · rw [all, hplain, isPlain, hfirst]
    · rfl
    · rintro n ⟨⟩
  · rw [all, hstable, isStable, hsorted]
    rfl

theorem str (s : String) : Faithful depth (.str s) :=
  ⟨rfl, rfl, Nat.zero_le _⟩

theorem int {n : Int} (hn : FitsWord n) : Faithful depth (.int n) :=
  ⟨decide_eq_true hn, rfl, Nat.zero_le _⟩

end Faithful

theorem FitsInt64.fitsWord {n : Int} (h : FitsInt64 n) : FitsWord n :=
  ⟨h.1, h.2.trans (by decide)⟩

/-- The id of a reply is a text, a number of 64 bits or null. -/
theorem faithful_id (sent : Option Json) : Faithful 0 (((usableId sent).map Id.toJson).getD .null) := by
  cases hid : usableId sent with
  | none => exact ⟨rfl, rfl, le_rfl⟩
  | some id =>
    obtain ⟨v, -, hv⟩ := Option.bind_eq_some_iff.1 hid
    cases id with
    | text s => exact .str s
    | number n =>
      cases v with
      | int m =>
        simp only [Id.ofJson?, Json.int64?, Option.map_eq_some_iff] at hv
        obtain ⟨k, hk, hkn⟩ := hv
        split at hk
        · rename_i hfits
          cases hk
          cases hkn
          exact .int hfits.fitsWord
        · cases hk
      | _ => simp [Id.ofJson?, Json.int64?] at hv

theorem faithful_errorMember {fault : RpcFault} (hf : fault ∈ replyFaults) {data : Option Json} (hd : ErrorData data) :
    Faithful 3 (errorMember fault.code fault.message data) := by
  have hcode : FitsWord fault.code := by
    simp only [replyFaults, List.mem_cons, List.not_mem_nil, or_false] at hf
    rcases hf with rfl | rfl | rfl <;> decide
  have hempty : Faithful 1 (.obj []) := ⟨rfl, rfl, by decide⟩
  have hdata : ∀ code reason details, Faithful 1 details → Faithful 2 (Refusal.data code reason details) := by
    intro code reason details hdetails
    unfold Refusal.data
    apply Faithful.obj
    · simp only [List.mem_cons, List.not_mem_nil, or_false]
      rintro field (rfl | rfl | rfl)
      · exact .str code
      · exact hdetails
      · exact .str reason
    · exact (by decide : ascends ["code", "details", "message"] = true)
    · rfl
  have hsome : ∀ data, Faithful 2 data → Faithful 3 (errorMember fault.code fault.message (some data)) := by
    intro data hdata
    unfold errorMember Json.ofPresent
    apply Faithful.obj
    · simp only [List.filterMap_cons, List.filterMap_nil, Option.map_some, List.mem_cons, List.not_mem_nil, or_false]
      rintro field (rfl | rfl | rfl)
      · exact .int hcode
      · exact hdata
      · exact .str _
    · exact (by decide : ascends ["code", "data", "message"] = true)
    · rfl
  cases hd with
  | absent =>
    unfold errorMember Json.ofPresent
    apply Faithful.obj
    · simp only [List.filterMap_cons, List.filterMap_nil, Option.map_some, Option.map_none, List.mem_cons,
        List.not_mem_nil, or_false]
      rintro field (rfl | rfl)
      · exact .int hcode
      · exact .str _
    · exact (by decide : ascends ["code", "message"] = true)
    · rfl
  | plain code reason => exact hsome _ (hdata code reason _ hempty)
  | named code reason key value hkey =>
    refine hsome _ (hdata code reason _ ?_)
    apply Faithful.obj
    · simp only [List.mem_singleton]
      rintro field rfl
      exact .str value
    · rfl
    · simp only [List.mem_cons, List.not_mem_nil, or_false] at hkey
      rcases hkey with rfl | rfl <;> rfl

theorem Served.faithful {server : Server} {result : Json} (h : Served server result) : Faithful 8 result := by
  cases h with
  | welcome =>
    have hwelcome : ascends ["capabilities", "instructions", "protocolVersion", "serverInfo"] = true := by decide
    have hcapabilities : ascends ["prompts", "resources", "tools"] = true := by decide
    have hresources : ascends ["listChanged", "subscribe"] = true := by decide
    have hinfo : ascends ["name", "version"] = true := by decide
    have hsingle (key : String) : ascends [key] = true := rfl
    refine ⟨rfl, ?_, (by decide : 3 ≤ 8)⟩
    simp [Server.welcome, InitializeResult.toJson, ServerCapabilities.toJson, ListingCapability.toJson,
      ResourceCapability.toJson, Implementation.toJson, Implementation.plain, Json.nonEmpty, ofPresent, all, allFields,
      isStable, hwelcome, hcapabilities, hresources, hinfo, hsingle]
  | pong => exact ⟨rfl, rfl, by decide⟩
  | listing listing => cases listing <;> exact ⟨by decide, by decide, by decide⟩
  | sum sum hfits =>
    have hword : FitsWord sum := hfits.fitsWord
    have hresult : ascends ["content", "structuredContent"] = true := by decide
    have hblock : ascends ["text", "type"] = true := by decide
    have hsum : ascends ["result"] = true := rfl
    refine ⟨?_, ?_, (by decide : 3 ≤ 8)⟩
    · simp [Adder.result, CallToolResult.toJson, ContentBlock.toJson, ofPresent, all, allItems, allFields, isPlain,
        isUnmarked, embeddedKey, hword]
    · simp [Adder.result, CallToolResult.toJson, ContentBlock.toJson, ofPresent, all, allItems, allFields, isStable,
        hresult, hblock, hsum]
  | overflow => exact ⟨by decide, by decide, by decide⟩
  | greeting uri name =>
    have hresult : ascends ["contents"] = true := rfl
    have hcontents : ascends ["mimeType", "text", "uri"] = true := by decide
    refine ⟨rfl, ?_, (by decide : 3 ≤ 8)⟩
    simp [Greeting.contents, ReadResourceResult.toJson, ResourceContents.toJson, ofPresent, all, allItems, allFields,
      isStable, hresult, hcontents]

theorem ReplyForm.faithful {server : Server} {id : Option Id} {reply : Json} (h : ReplyForm server id reply) :
    Faithful 9 reply := by
  cases h with
  | error fault sent data hf hid hd =>
    unfold RpcFault.reply errorReply
    apply Faithful.obj
    · simp only [List.mem_cons, List.not_mem_nil, or_false]
      rintro field (rfl | rfl | rfl)
      · exact (faithful_errorMember hf hd).mono (by decide)
      · exact (faithful_id sent).mono (by decide)
      · exact .str _
    · exact (by decide : ascends ["error", "id", "jsonrpc"] = true)
    · rfl
  | result usable sent result hid hu hr =>
    obtain ⟨fields, rfl⟩ := hr.isObject
    have hsent := faithful_id sent
    rw [hu] at hsent
    simp only [resultReply, hu]
    apply Faithful.obj
    · simp only [List.mem_cons, List.not_mem_nil, or_false]
      rintro field (rfl | rfl | rfl)
      · exact hsent.mono (by decide)
      · exact .str _
      · exact hr.faithful
    · exact (by decide : ascends ["id", "jsonrpc", "result"] = true)
    · rfl

/-- Whatever a server answers is read as it was written. -/
theorem faithful_answer {server : Server} {message reply : Json} (h : (server.answer message).value = some reply) :
    Faithful 10 reply := by
  by_cases hbatch : ∃ items, message = .arr items ∧ items ≠ []
  · obtain ⟨items, rfl, hne⟩ := hbatch
    rw [value_answer_batch server hne] at h
    split at h
    · cases h
    · cases h
      apply Faithful.arr
      intro reply hreply
      obtain ⟨item, -, hitem⟩ := List.mem_filterMap.1 hreply
      exact (answerMessage_form server hitem).faithful
  · have hsingle : ReplyForm server (itemId message) reply := by
      cases message with
      | arr items =>
        have hnil : items = [] := by
          by_contra hne
          exact hbatch ⟨items, rfl, hne⟩
        rw [hnil] at h ⊢
        cases h
        exact .of_fault rfl (by decide)
      | _ => exact answerMessage_form server h
    exact hsingle.faithful.mono (by decide)

theorem parse?_answer {server : Server} {message reply : Json} (h : (server.answer message).value = some reply) :
    parse? reply.text = some reply :=
  (faithful_answer h).parse (by decide)

/-! ## Posted messages -/

open Http

section Posted

variable (server : Server) (ids : SessionIds) (store : SessionStore) (message : Json)

/-- Is a message a single handshake that is answered by a result? -/
def opensAnswered : Bool :=
  opensSession message && (server.answer message).value.any fun reply => !isErrorReply reply

/-- The response to a posted message that is admitted to a session, or opens one, and what it leaves in the
store. -/
def posted (streaming : Bool) : Response × SessionStore :=
  if opensAnswered server message then
    ((dispatched server message streaming).withHeader sessionHeader (ids.text store.issued), (store.create ids).2)
  else (dispatched server message streaming, store)

/-- A request that posts a message to the endpoint, in a body that is not too long, and in a live session unless it is a
single handshake. -/
structure Posts (request : Request) : Prop where
  method : request.method = "POST"
  path : request.path = "/mcp"
  admitted : judge server.apiToken request = .admitted
  body : request.body = Bytes.ofText message.text
  fits : FitsBody message
  session : message.get? "method" = some (.str "initialize") ∨ ∃ id, Names request id ∧ store.contains id = true

variable {server ids store message}

theorem opensAnswered_of_reply {reply : Json} (hopens : opensSession message = true)
    (hreply : (server.answer message).value = some reply) (herror : isErrorReply reply = false) :
    opensAnswered server message = true := by
  rw [opensAnswered, hopens, hreply, Option.any_some, herror]
  rfl

theorem handle_posted {request : Request} (h : Posts server store message request) {read : Json}
    (hread : parse? message.text = some read) (hmethod : read.get? "method" = message.get? "method") :
    ((Router.mk server ids).handle store request).1.value =
        (posted server ids store read (acceptsEventStream (values request.headers "accept"))).1 ∧
      ((Router.mk server ids).handle store request).2 =
        (posted server ids store read (acceptsEventStream (values request.headers "accept"))).2 := by
  obtain ⟨hvalue, hstore⟩ :=
    @handle_body ⟨server, ids⟩ store request h.path h.admitted h.method ((fitsBody_iff h.body).1 h.fits)
  have hbody : parseBytes? request.body = some read := by rw [h.body, parseBytes?_ofText, hread]
  rw [hvalue, hstore]
  generalize hs : acceptsEventStream (values request.headers "accept") = streaming
  cases hopens : opensSession read with
  | true =>
    rw [planBody_of_handshake server request hbody hopens, hs]
    obtain ⟨reply, hreply, herror, hrun, hafter⟩ | ⟨herror, hrun, hafter⟩ :=
      run_planHandshake server ids store read streaming
    · have hanswered := opensAnswered_of_reply hopens hreply herror
      have hdispatched : dispatched server read streaming = replyResponse reply streaming := by
        rw [dispatched, hreply]
      rw [hrun, hafter, posted, if_pos hanswered, hdispatched]
      exact ⟨rfl, rfl⟩
    · have hanswered : ¬opensAnswered server read = true := by
        rw [opensAnswered, hopens]
        cases hreply : (server.answer read).value with
        | none => simp
        | some reply => simp [herror reply hreply]
      rw [hrun, hafter, posted, if_neg hanswered]
      exact ⟨rfl, rfl⟩
  | false =>
    have hanswered : ¬opensAnswered server read = true := by
      rw [opensAnswered, hopens]
      simp
    obtain ⟨id, hid, hlive⟩ : ∃ id, Names request id ∧ store.contains id = true := by
      apply h.session.resolve_left
      rw [← hmethod]
      exact opensSession_eq_false_iff.1 hopens
    obtain ⟨hafter, hrun⟩ := run_planBody_of_message server ids store request hbody hopens
    rw [hrun, hafter, posted, if_neg hanswered, sessionOf?_eq_some_iff.2 hid, hs]
    refine ⟨?_, rfl⟩
    exact if_pos (List.contains_iff_mem.1 hlive)

end Posted

/-! ## The value that a response carries -/

theorem answerOf_withSession (response : Response) (id : String) :
    WebClient.answerOf (response.withHeader sessionHeader id) = WebClient.answerOf response := by
  unfold WebClient.answerOf
  rw [firstText?_withHeader_of_ne (by decide : sessionHeader ≠ "content-type")]
  rfl

theorem answerOf_replyResponse {reply : Json} (hread : parse? reply.text = some reply) (streaming : Bool) :
    WebClient.answerOf (replyResponse reply streaming) = .ok (some reply) := by
  cases streaming with
  | false =>
    have htype : firstText? (replyResponse reply false).headers "content-type" = some "application/json" := by
      have hheaders : (replyResponse reply false).headers = [.ofText "content-type" "application/json"] := rfl
      rw [hheaders]
      decide
    have hbody : parseBytes? (replyResponse reply false).body = some reply := by
      have hbytes : (replyResponse reply false).body = Bytes.ofText reply.text := rfl
      rw [hbytes, parseBytes?_ofText, hread]
    have hprefix : ¬eventStream.toList.isPrefixOf "application/json".toList = true := by decide
    have hstatus : (replyResponse reply false).isSuccess = true ∧ (replyResponse reply false).status = 200 := ⟨rfl, rfl⟩
    unfold WebClient.answerOf
    rw [hstatus.1, hstatus.2, if_neg (by decide), if_neg (by decide), htype]
    dsimp only
    rw [if_neg hprefix, WebClient.answerOf.plain, hbody]
  | true =>
    have htype : firstText? (replyResponse reply true).headers "content-type" = some eventStream := by
      have hheaders : (replyResponse reply true).headers =
          [.ofText "content-type" eventStream, .ofText "cache-control" "no-cache"] := rfl
      rw [hheaders]
      decide
    have hbody : (replyResponse reply true).body.toTextLossy = eventText reply := Bytes.toTextLossy_ofText _
    have hprefix : eventStream.toList.isPrefixOf eventStream.toList = true := by decide
    have hstatus : (replyResponse reply true).isSuccess = true ∧ (replyResponse reply true).status = 200 := ⟨rfl, rfl⟩
    unfold WebClient.answerOf
    rw [hstatus.1, hstatus.2, if_neg (by decide), if_neg (by decide), htype]
    dsimp only
    rw [if_pos hprefix, hbody, messageOf_eventText hread]
    rfl

/-- Whatever form a response has, a client reads the answer of the server from it. -/
theorem answerOf_posted (server : Server) (ids : SessionIds) (store : SessionStore) (message : Json)
    (streaming : Bool) :
    WebClient.answerOf (posted server ids store message streaming).1 = .ok (server.answer message).value := by
  have hdispatched : WebClient.answerOf (dispatched server message streaming) = .ok (server.answer message).value := by
    unfold dispatched
    cases hreply : (server.answer message).value with
    | none => rfl
    | some reply => exact answerOf_replyResponse (parse?_answer hreply) streaming
  unfold posted
  split
  · rw [answerOf_withSession, hdispatched]
  · exact hdispatched

/-- The session that a response hands out is a new one, if the message opens any. -/
theorem session_posted (server : Server) (ids : SessionIds) (store : SessionStore) (message : Json) (streaming : Bool) :
    firstText? (posted server ids store message streaming).1.headers sessionHeader =
      if opensAnswered server message then some (ids.text store.issued) else none := by
  unfold posted
  split_ifs with hopens
  · obtain ⟨reply, hreply⟩ : ∃ reply, (server.answer message).value = some reply := by
      cases hreply : (server.answer message).value with
      | none => simp [opensAnswered, hreply] at hopens
      | some reply => exact ⟨reply, rfl⟩
    rw [dispatched, hreply]
    exact firstText?_opened reply streaming (ids.visible store.issued)
  · exact (isOrdinary_dispatched server message streaming).no_session

/-- The form in which a client takes its answers changes neither the status nor the session that is handed out,
nor the store. -/
theorem posted_streaming (server : Server) (ids : SessionIds) (store : SessionStore) (message : Json)
    (first second : Bool) :
    (posted server ids store message first).1.status = (posted server ids store message second).1.status ∧
      firstText? (posted server ids store message first).1.headers sessionHeader =
        firstText? (posted server ids store message second).1.headers sessionHeader ∧
      (posted server ids store message first).2 = (posted server ids store message second).2 := by
  refine ⟨?_, by rw [session_posted, session_posted], ?_⟩
  · have hstatus : (dispatched server message first).status = (dispatched server message second).status := by
      unfold dispatched
      cases (server.answer message).value with
      | none => rfl
      | some reply => cases first <;> cases second <;> rfl
    unfold posted
    split_ifs
    · exact hstatus
    · exact hstatus
  · unfold posted
    split_ifs
    · rfl
    · rfl

theorem status_body_posted (server : Server) (ids : SessionIds) (store : SessionStore) (message : Json)
    (streaming : Bool) :
    (posted server ids store message streaming).1.status = (dispatched server message streaming).status ∧
      (posted server ids store message streaming).1.body = (dispatched server message streaming).body := by
  unfold posted
  split
  · exact ⟨rfl, rfl⟩
  · exact ⟨rfl, rfl⟩

/-- The status and the body of a response to a posted message do not depend on its session. -/
theorem status_body_handle (ids : SessionIds) {server : Server} {store : SessionStore} {message : Json}
    {request : Request} (h : Posts server store message request) (hread : parse? message.text = some message)
    {streaming : Bool} (hstreaming : acceptsEventStream (values request.headers "accept") = streaming) :
    ((Router.mk server ids).handle store request).1.value.status = (dispatched server message streaming).status ∧
      ((Router.mk server ids).handle store request).1.value.body = (dispatched server message streaming).body := by
  rw [(handle_posted h hread rfl).1, hstreaming]
  exact status_body_posted server ids store message streaming

/-! ## The carriers agree -/

/-- The answer to a message is the same on a line, as a plain body and as an event. -/
structure CarriersAgree (server : Server) (message : Json) : Prop where
  /-- Over lines, an answer is written as one line, whether or not the message has its line end. -/
  lines : ∀ input, input = Bytes.ofText (message.text ++ "\n") ∨ input = Bytes.ofText message.text →
    (server.serve input).value =
      (((server.answer message).value.map fun reply => reply.text ++ "\n").getD "", .inputEnded)
  /-- No written answer holds a line end. -/
  unbroken : ∀ reply, (server.answer message).value = some reply →
    '\r' ∉ reply.text.toList ∧ '\n' ∉ reply.text.toList
  /-- Over HTTP, there is no body if there is no answer. -/
  silent : ∀ ids store request, Posts server store message request → (server.answer message).value = none →
    ((Router.mk server ids).handle store request).1.value.status = 202 ∧
      ((Router.mk server ids).handle store request).1.value.body = []
  /-- An answer to a client that takes no events is the whole body. -/
  body : ∀ ids store request, Posts server store message request →
    acceptsEventStream (values request.headers "accept") = false →
    ∀ reply, (server.answer message).value = some reply →
      ((Router.mk server ids).handle store request).1.value.status = 200 ∧
        ((Router.mk server ids).handle store request).1.value.body = Bytes.ofText reply.text
  /-- An answer to a client that takes events is one event, from which the client reads the answer. -/
  event : ∀ ids store request, Posts server store message request →
    acceptsEventStream (values request.headers "accept") = true →
    ∀ reply, (server.answer message).value = some reply →
      ((Router.mk server ids).handle store request).1.value.status = 200 ∧
        ((eventsOf ((Router.mk server ids).handle store request).1.value.body.toTextLossy).filter
          ServerEvent.isMessage).length = 1 ∧
        messageOf ((Router.mk server ids).handle store request).1.value.body.toTextLossy = .ok reply
  /-- What a client takes changes neither the status, nor the session, nor the answer that it reads. -/
  neutral : ∀ ids store request other, Posts server store message request → Posts server store message other →
    ((Router.mk server ids).handle store request).1.value.status =
        ((Router.mk server ids).handle store other).1.value.status ∧
      firstText? ((Router.mk server ids).handle store request).1.value.headers "mcp-session-id" =
        firstText? ((Router.mk server ids).handle store other).1.value.headers "mcp-session-id" ∧
      ((Router.mk server ids).handle store request).2 = ((Router.mk server ids).handle store other).2 ∧
      WebClient.answerOf ((Router.mk server ids).handle store request).1.value = .ok (server.answer message).value ∧
      WebClient.answerOf ((Router.mk server ids).handle store other).1.value = .ok (server.answer message).value
  /-- A message that does not fit into a body is refused over HTTP, to the same effect whatever a client takes. -/
  too_long : ¬FitsBody message → ∀ ids store (request : Request), request.method = "POST" → request.path = "/mcp" →
    judge server.apiToken request = .admitted → request.body = Bytes.ofText message.text →
    ((Router.mk server ids).handle store request).1.value.status = 413 ∧
      firstText? ((Router.mk server ids).handle store request).1.value.headers "mcp-session-id" = none ∧
      ((Router.mk server ids).handle store request).2 = store

/-- A message that is read from its text gets the same answer on every carrier. -/
theorem carriers_agree (server : Server) {message : Json} (hread : parse? message.text = some message) :
    CarriersAgree server message := by
  have hframe : ∀ reply : Json, reply.text ++ "\n" = frame reply := fun _ => rfl
  constructor
  case lines =>
    intro input hinput
    have hlines : input.lines = [Bytes.ofText message.text] := by
      rcases hinput with rfl | rfl
      · have h := lines_frame message []
        rw [List.append_nil] at h
        exact h
      · exact lines_text message
    simp only [hframe]
    exact value_serve_line server hlines hread
  case unbroken =>
    intro reply _
    exact ⟨not_mem_text reply (by decide), not_mem_text reply (by decide)⟩
  case silent =>
    intro ids store request hpost hnone
    obtain ⟨hstatus, hbody⟩ := status_body_handle ids hpost hread rfl
    rw [hstatus, hbody, dispatched, hnone]
    exact ⟨rfl, rfl⟩
  case body =>
    intro ids store request hpost hplain reply hreply
    obtain ⟨hstatus, hbody⟩ := status_body_handle ids hpost hread hplain
    rw [hstatus, hbody, dispatched, hreply]
    exact ⟨rfl, rfl⟩
  case event =>
    intro ids store request hpost hstreaming reply hreply
    obtain ⟨hstatus, hbody⟩ := status_body_handle ids hpost hread hstreaming
    rw [hstatus, hbody, dispatched, hreply]
    have htext : (replyResponse reply true).body.toTextLossy = eventText reply := Bytes.toTextLossy_ofText _
    refine ⟨rfl, ?_, ?_⟩
    · dsimp only
      rw [htext, eventsOf_eventText]
      rfl
    · dsimp only
      rw [htext]
      exact messageOf_eventText (parse?_answer hreply)
  case neutral =>
    intro ids store request other hrequest hother
    obtain ⟨hvalue, hstore⟩ := @handle_posted server ids store message request hrequest message hread rfl
    obtain ⟨hvalue', hstore'⟩ := @handle_posted server ids store message other hother message hread rfl
    obtain ⟨hstatus, hsession, hafter⟩ := posted_streaming server ids store message
      (acceptsEventStream (values request.headers "accept")) (acceptsEventStream (values other.headers "accept"))
    rw [hvalue, hvalue', hstore, hstore']
    exact ⟨hstatus, hsession, hafter, answerOf_posted server ids store message _,
      answerOf_posted server ids store message _⟩
  case too_long =>
    intro hlong ids store request hmethod hpath hadmitted hbody
    obtain ⟨hvalue, hstore⟩ := @handle_too_long ⟨server, ids⟩ store request hpath hadmitted hmethod
      (bodyLimit_lt_of_not_fitsBody hbody hlong)
    rw [hvalue, hstore]
    exact ⟨rfl, rfl, rfl⟩

/-- A ping, posted by a client that takes events. -/
theorem carriers_agree_ping :
    let message := requestJson (.int 1) "ping" none
    let store : SessionStore := { issued := 1, live := ["<session:0>"] }
    let request : Request :=
      { method := "POST", target := "/mcp", body := Bytes.ofText message.text
        headers := [.ofText "mcp-session-id" "<session:0>", .ofText "accept" "text/event-stream"] }
    let response := ((Router.mk ⟨"demo", none⟩ .numbered).handle store request).1.value
    parse? message.text = some message ∧ CarriersAgree ⟨"demo", none⟩ message ∧
      response.status = 200 ∧
        messageOf response.body.toTextLossy =
          .ok (.obj [("id", .int 1), ("jsonrpc", .str "2.0"), ("result", .obj [])]) := by
  intro message store request response
  have hread : parse? message.text = some message := by
    rw [parse?_text (by decide) (by decide), reread_of_stable message (by decide)]
  have hagree := carriers_agree ⟨"demo", none⟩ hread
  have hnames : Names request "<session:0>" := ⟨"<session:0>", by decide, by decide, by decide⟩
  have hposts : Posts ⟨"demo", none⟩ store message request :=
    ⟨rfl, by decide, by decide, rfl, by decide +kernel, Or.inr ⟨"<session:0>", hnames, by decide⟩⟩
  have hpong : (Server.answer ⟨"demo", none⟩ message).value =
      some (.obj [("id", .int 1), ("jsonrpc", .str "2.0"), ("result", .obj [])]) := by decide
  have hevent := hagree.event .numbered store request hposts (by decide) _ hpong
  exact ⟨hread, hagree, hevent.1, hevent.2.2⟩

/-- A message that is answered on a line, but in a live session over HTTP refused for its length. -/
theorem not_answered_too_long :
    let server : Server := ⟨"demo", none⟩
    let message := letters 2097151
    let reply := RpcFault.invalidRequest.reply none none
    let store : SessionStore := { issued := 1, live := ["<session:0>"] }
    let request : Request :=
      { method := "POST", target := "/mcp", body := Bytes.ofText message.text
        headers := [.ofText "mcp-session-id" "<session:0>"] }
    let response := ((Router.mk server .numbered).handle store request).1.value
    parse? message.text = some message ∧ request.path = "/mcp" ∧ judge none request = .admitted ∧
      (∃ id, Names request id ∧ store.contains id = true) ∧
      acceptsEventStream (values request.headers "accept") = false ∧
      (server.answer message).value = some reply ∧
      (server.serve (Bytes.ofText message.text)).value = (reply.text ++ "\n", .inputEnded) ∧
      response.status = 413 ∧ ¬(response.status = 200 ∧ response.body = Bytes.ofText reply.text) := by
  intro server message reply store request response
  have hread : parse? message.text = some message := parse?_letters _
  have htext : request.body = Bytes.ofText message.text := by dsimp only [request]
  have hpath : request.path = "/mcp" := by decide
  have hadmitted : judge server.apiToken request = .admitted := by decide
  have hnames : Names request "<session:0>" := ⟨"<session:0>", by decide, by decide, by decide⟩
  have hreply : (server.answer message).value = some reply := rfl
  have hline := value_serve_line server (lines_text message) hread
  rw [hreply] at hline
  have hvalue : response = bodyTooLong := (@handle_too_long ⟨server, .numbered⟩ store request hpath hadmitted rfl
    (bodyLimit_lt_of_not_fitsBody htext (not_fitsBody_letters (by omega)))).1
  refine ⟨hread, hpath, hadmitted, ⟨_, hnames, by decide⟩, by decide, hreply, hline, congrArg Response.status hvalue,
    ?_⟩
  rintro ⟨hstatus, -⟩
  rw [hvalue] at hstatus
  exact absurd hstatus (by decide : 413 ≠ 200)

end ModelContext
