import ModelContext.Client.Child
import ModelContext.Client.Direct
import ModelContext.Proofs.Calls
import ModelContext.Proofs.Carriers

/-!
# Delivered messages

A transport delivers messages to a server if every message that can be carried as text comes back with the
server's own answer. The transports in the same process, to another process and over HTTP all do, the last
of them once a handshake was delivered, and for messages that fit into a body.
-/

namespace ModelContext

open Json

/-- A message that can be carried as text: what is read from the text is answered like the message, and the
message is answered under its id, if it has one. -/
structure Portable (server : Server) (message : Json) : Prop where
  read : ∃ read, parse? message.text = some read ∧ read.get? "method" = message.get? "method" ∧
    (server.answer read).value = (server.answer message).value
  answered : ∀ id, message.get? "id" = some id →
    ∃ reply, (server.answer message).value = some reply ∧ ChildLink.isAnswer id reply = true
  unanswered : message.get? "id" = none → (server.answer message).value = none

/-- A transport that delivers the messages that it carries to a server: any while its state is linked, and a handshake,
which links it, while it is open. -/
structure Delivers {σ : Type} (server : Server) (t : Transport σ) (carries : Json → Prop) (isOpen isLinked : σ → Prop) :
    Prop where
  isOpen_of_isLinked : ∀ s, isLinked s → isOpen s
  send : ∀ message s, Portable server message → carries message →
    isLinked s ∨ isOpen s ∧ opensAnswered server message = true →
    (t.send message s).1 = .ok (server.answer message).value ∧ isLinked (t.send message s).2
  close : ∀ s, isOpen s → (t.close s).1 = .ok ()

/-! ## The messages of a session -/

section Messages

open Session

variable (server : Server) {id : Int}

/-- A request is answered under its id. -/
theorem isAnswer_answerRequest (hid : FitsInt64 id) (method : String) (params : Option Fields) :
    ChildLink.isAnswer (.int id) (server.answerRequest (.number id) method params).value = true := by
  have hform := answerRequest_form server (usableId_number hid) method params
  have hsame : ((server.answerRequest (.number id) method params).value.get? "id").any (·.same (.int id)) = true := by
    rw [hform.get?_id, Option.any_some]
    exact beq_self_eq_true _
  rw [ChildLink.isAnswer, hsame, Bool.and_true, Bool.or_eq_true]
  rcases hform.isReply with ⟨-, -, ⟨result, hresult, -⟩ | ⟨member, hmember, -⟩⟩
  · left
    rw [Json.has, hresult]
    rfl
  · right
    rw [Json.has, hmember]
    rfl

theorem portable_request (hid : FitsInt64 id) (method : String) {params : Option Fields}
    (hparams : ∀ fields ∈ params, expandFields? fields = some fields) {read : Json}
    (hread : parse? (requestJson (.int id) method (params.map .obj)).text = some read)
    (hmethod : read.get? "method" = some (.str method))
    (hanswer : (server.answer read).value = (server.answer (requestJson (.int id) method (params.map .obj))).value) :
    Portable server (requestJson (.int id) method (params.map .obj)) where
  read := ⟨read, hread, by rw [hmethod, get?_method_requestJson], hanswer⟩
  answered sent hsent := by
    rw [get?_id_requestJson, Option.some.injEq] at hsent
    rw [← hsent]
    exact ⟨_, value_answer_request server hid method hparams, isAnswer_answerRequest server hid method params⟩
  unanswered hnone := by
    rw [get?_id_requestJson] at hnone
    cases hnone

theorem faithful_request (hid : FitsInt64 id) (method : String) {params : Option Json}
    (hparams : ∀ v ∈ params, Faithful 2 v) : Faithful 3 (requestJson (.int id) method params) := by
  rw [requestJson_eq]
  apply Faithful.obj
  · intro field hmem
    simp only [List.mem_cons, Option.mem_toList, Option.map_eq_some_iff] at hmem
    rcases hmem with rfl | rfl | rfl | ⟨v, hv, rfl⟩
    · exact .int hid.fitsWord
    · exact .str _
    · exact .str _
    · exact hparams v hv
  · cases params with
    | none => exact (by decide : ascends ["id", "jsonrpc", "method"] = true)
    | some v => exact (by decide : ascends ["id", "jsonrpc", "method", "params"] = true)
  · rfl

/-- A request without floating-point numbers is read as it was written. -/
theorem portable_of_faithful (hid : FitsInt64 id) (method : String) {params : Option Fields}
    (hopen : ∀ fields ∈ params, expandFields? fields = some fields)
    (hparams : ∀ fields ∈ params, Faithful 2 (.obj fields)) :
    Portable server (requestJson (.int id) method (params.map .obj)) := by
  have hfaithful : Faithful 3 (requestJson (.int id) method (params.map .obj)) := by
    apply faithful_request hid
    simpa using hparams
  apply portable_request server hid method hopen (hfaithful.parse (by decide))
  · rw [get?_method_requestJson]
  · rfl

theorem portable_handshake (hid : FitsInt64 id) :
    Portable server (requestJson (.int id) Method.handshake.name (some handshakeParams)) := by
  obtain ⟨fields, hfields, hopen⟩ := handshakeParams_open
  have hfaithful : Faithful 2 handshakeParams := ⟨by decide, by decide, by decide⟩
  rw [hfields] at hfaithful ⊢
  apply @portable_of_faithful server id hid Method.handshake.name (some fields)
  · rintro _ ⟨⟩
    exact hopen
  · rintro _ ⟨⟩
    exact hfaithful

theorem opensAnswered_handshake (hid : FitsInt64 id) :
    opensAnswered server (requestJson (.int id) Method.handshake.name (some handshakeParams)) = true := by
  have hopens : Http.opensSession (requestJson (.int id) Method.handshake.name (some handshakeParams)) = true :=
    Http.opensSession_eq_true_iff.2 (get?_method_requestJson _ _ _)
  exact opensAnswered_of_reply hopens (value_answer_handshake server hid) (isErrorReply_resultReply _ _)

theorem portable_bare (hid : FitsInt64 id) (method : String) : Portable server (requestJson (.int id) method none) := by
  apply @portable_of_faithful server id hid method none
  · rintro _ ⟨⟩
  · rintro _ ⟨⟩

/-- The requests with one text as their only parameter. -/
theorem portable_text (hid : FitsInt64 id) (method key text : String) (hkey : key ≠ embeddedKey) :
    Portable server (requestJson (.int id) method (some (.obj [(key, .str text)]))) := by
  apply @portable_of_faithful server id hid method (some [(key, .str text)])
  · rintro _ ⟨⟩
    rfl
  · rintro _ ⟨⟩
    apply Faithful.obj
    · simp only [List.mem_singleton]
      rintro _ rfl
      exact .str text
    · rfl
    · simpa [isUnmarked] using hkey

theorem portable_page (hid : FitsInt64 id) (listing : Listing) (cursor : Option String) :
    Portable server (requestJson (.int id) listing.methodName (cursorParams cursor)) := by
  cases cursor with
  | none => exact portable_bare server hid listing.methodName
  | some cursor => exact portable_text server hid listing.methodName "cursor" cursor (by decide)

/-- The arguments of a tool that a transport can carry: a value in its usual form, with no object that is taken
for an embedded value, and with room for the brackets around it. -/
structure IsSendable (arguments : Json) : Prop where
  canonical : arguments.all isCanonical = true
  unmarked : arguments.all isUnmarked = true
  shallow : arguments.depth + 2 ≤ maxNesting

namespace IsSendable

variable {arguments : Json}

theorem plain (h : IsSendable arguments) : arguments.all isPlain = true := by
  apply all_of_all _ arguments h.canonical h.unmarked
  intro v hcanonical hunmarked
  cases v with
  | int n => exact hcanonical
  | _ => exact hunmarked

/-- Such arguments are read from the text of a call with the floating-point numbers as they are read. -/
theorem parse_request (h : IsSendable arguments) {sent : Json} (hsent : Faithful 0 sent) (method name : String) :
    parse? (requestJson sent method (some (.obj (toolParams name arguments)))).text =
      some (requestJson sent method (some (.obj (toolParams name arguments.reread)))) := by
  have hparams : reread (.obj (toolParams name arguments)) = .obj (toolParams name arguments.reread) :=
    reread_obj (by decide : ascends ["arguments", "name"] = true)
  have hreread : (requestJson sent method (some (.obj (toolParams name arguments)))).reread =
      requestJson (reread sent) method (some (.obj (toolParams name arguments.reread))) := by
    rw [requestJson_eq, requestJson_eq, ← hparams]
    apply reread_obj
    exact (by decide : ascends ["id", "jsonrpc", "method", "params"] = true)
  rw [reread_of_stable sent hsent.stable] at hreread
  rw [← hreread]
  apply parse?_text
  · rw [requestJson_eq, Option.map_some, Option.toList_some]
    simp only [all, allFields, toolParams, hsent.plain, h.plain, Bool.true_and, Bool.and_true]
    rfl
  · have hshallow := h.shallow
    have hzero := hsent.shallow
    rw [requestJson_eq, Option.map_some, Option.toList_some]
    simp only [depth, fieldsDepth, toolParams]
    omega

end IsSendable

theorem portable_callTool (hid : FitsInt64 id) (name : String) {arguments : Json} (h : IsSendable arguments) :
    Portable server (requestJson (.int id) Method.callTool.name (some (.obj (toolParams name arguments)))) := by
  apply @portable_request server id hid Method.callTool.name (some (toolParams name arguments)) _ _
    (h.parse_request (.int hid.fitsWord) _ name)
  · rw [get?_method_requestJson]
  · rw [Option.map_some, value_answer_callTool server hid name h.unmarked,
      value_answer_callTool server hid name (all_isUnmarked_reread arguments h.unmarked h.canonical),
      toolReply_reread _ name h.canonical]
  · rintro _ ⟨⟩
    exact expandFields?_toolParams name h.unmarked

theorem portable_ready : Portable server (notificationJson "notifications/initialized") where
  read := ⟨_, Faithful.parse ⟨by decide, by decide, (by decide : _ ≤ 1)⟩ (by decide), rfl, rfl⟩
  answered sent hsent := nomatch hsent
  unanswered _ := rfl

end Messages

/-! ## In the same process -/

theorem delivers_direct (server : Server) :
    Delivers server (.direct server) (fun _ => True) (fun _ => True) (fun _ => True) where
  isOpen_of_isLinked _ h := h
  send _ _ _ _ _ := ⟨rfl, trivial⟩
  close _ _ := rfl

/-! ## To another process -/

namespace ChildLink

/-- The input of the process is open, and all that it wrote was read. -/
def IsIdle (link : ChildLink Unit) : Prop :=
  link.isOpen = true ∧ link.unread = []

/-- The next line is the answer, or it is skipped. -/
theorem readAnswer_line (id : Json) {reply : Json} (hread : parse? reply.text = some reply) (later : List Bytes) :
    readAnswer id (Bytes.ofText reply.text :: later) =
      if isAnswer id reply then (.ok reply, later) else readAnswer id later := by
  rw [readAnswer, Bytes.toText?_ofText]
  dsimp only
  rw [trim_text, isEmpty_text, if_neg Bool.false_ne_true, hread]

/-- A process that hears a message writes at most one line, with the answer to the line that it heard. -/
theorem lines_hear (server : Server) (message : Json) (state : Unit) :
    ((Peer.serving server).hear (frame message) state).1.lines =
      ((server.answerLine message.text).value.map fun reply => Bytes.ofText reply.text).toList := by
  have hframe : ∀ v, (Bytes.ofText (frame v)).lines = [Bytes.ofText v.text] := by
    intro v
    have hlines := lines_frame v []
    rw [List.append_nil] at hlines
    exact hlines
  unfold Peer.serving
  dsimp only
  rw [value_serve_text server (hframe message)]
  cases (server.answerLine message.text).value with
  | none => rfl
  | some reply => exact hframe reply

/-- The answer to a message is looked for among the lines that the process writes then, if all were read before. -/
theorem send_eq {π : Type} (peer : Peer π) (message : Json) {link : ChildLink π} (hopen : link.isOpen = true)
    (hunread : link.unread = []) {lines : List Bytes} (hlines : (peer.hear (frame message) link.peer).1.lines = lines) :
    send peer message link =
      match message.get? "id" with
      | none => (.ok none, { link with peer := (peer.hear (frame message) link.peer).2, unread := lines })
      | some id =>
        ((readAnswer id lines).1.map some,
          { link with peer := (peer.hear (frame message) link.peer).2, unread := (readAnswer id lines).2 }) := by
  have hnot : ¬link.isOpen = false := by
    rw [hopen]
    decide
  rw [send, if_neg hnot, hunread, ← hlines]
  rfl

theorem delivers (server : Server) :
    Delivers server (transport (Peer.serving server)) (fun _ => True) IsIdle IsIdle where
  isOpen_of_isLinked _ h := h
  close _ _ := rfl
  send message link h _ hlinked := by
    have hidle : link.IsIdle := hlinked.elim id And.left
    obtain ⟨read, hread, -, hanswer⟩ := h.read
    have hlines := lines_hear server message link.peer
    rw [answerLine_text server hread, hanswer] at hlines
    change (send (Peer.serving server) message link).1 = _ ∧ IsIdle (send (Peer.serving server) message link).2
    rw [send_eq _ message hidle.1 hidle.2 hlines]
    cases hid : message.get? "id" with
    | none =>
      rw [h.unanswered hid]
      exact ⟨rfl, hidle.1, rfl⟩
    | some id =>
      obtain ⟨reply, hreply, hanswer⟩ := h.answered id hid
      rw [hreply, Option.map_some, Option.toList_some]
      dsimp only
      rw [readAnswer_line id (parse?_answer hreply), if_pos hanswer]
      exact ⟨rfl, hidle.1, rfl⟩

/-- A request that cannot be read from its text gets a parse error, which is no answer to it. -/
theorem send_unreadable (server : Server) {message id : Json} (hread : parse? message.text = none)
    (hid : message.get? "id" = some id) (hother : Json.same .null id = false) {link : ChildLink Unit}
    (hidle : link.IsIdle) : (send (Peer.serving server) message link).1 = .error .closed := by
  have hlines := lines_hear server message link.peer
  rw [answerLine_unreadable server hread, Option.map_some, Option.toList_some] at hlines
  have hfaulty : parse? (RpcFault.parseError.reply none none).text = some (RpcFault.parseError.reply none none) :=
    Faithful.parse ⟨by decide, by decide, (by decide : _ ≤ 2)⟩ (by decide)
  have hskipped : ¬isAnswer id (RpcFault.parseError.reply none none) = true := by
    have hnull : (RpcFault.parseError.reply none none).get? "id" = some .null := rfl
    rw [isAnswer, hnull, Option.any_some, hother, Bool.and_false]
    decide
  rw [send_eq _ message hidle.1 hidle.2 hlines, hid]
  dsimp only
  rw [readAnswer_line id hfaulty, if_neg hskipped]
  rfl

end ChildLink

/-! ## Over HTTP -/

namespace Http

theorem values_append (front back : List Header) (name : String) :
    values (front ++ back) name = values front name ++ values back name := by
  simp [values]

theorem values_of_name {headers : List Header} {name : String} (h : ∀ header ∈ headers, header.name = name) :
    values headers name = headers.map (·.value) := by
  have hall : headers.filter (·.name = name) = headers := List.filter_eq_self.2 (by simpa using h)
  rw [values, hall]

theorem values_of_other_name {headers : List Header} {name : String} (h : ∀ header ∈ headers, header.name ≠ name) :
    values headers name = [] := by
  have hnone : headers.filter (·.name = name) = [] := List.filter_eq_nil_iff.2 (by simpa using h)
  rw [values, hnone]
  rfl

/-- A token of visible characters is read from the header that carries it. -/
theorem bearerToken?_ofText {token : String} (hvisible : ∀ c ∈ token.toList, Text.IsVisible c) :
    bearerToken? (Bytes.ofText ("Bearer " ++ token)) = some token := by
  have hprefix : "Bearer ".toList.all (fun c => 0x20 ≤ c.toNat ∧ c.toNat ≤ 0x7E) = true := by decide
  have hchars : ∀ c ∈ ("Bearer " ++ token).toList, 0x20 ≤ c.toNat ∧ c.toNat ≤ 0x7E := by
    intro c hc
    rw [String.toList_append, List.mem_append] at hc
    rcases hc with hc | hc
    · exact List.all_iff_forall_prop.1 hprefix c hc
    · exact ⟨Nat.le_trans (by decide) (hvisible c hc).1, (hvisible c hc).2⟩
  have hblank : token.toList.dropWhile Text.isBlank = token.toList :=
    Text.dropWhile_eq_self fun c hc => Text.isBlank_of_visible (hvisible c (List.mem_of_mem_head? hc))
  have hscheme : ((("Bearer " ++ token).toList.take bearerScheme.length).map Char.toLower = bearerScheme ∧
      ("Bearer " ++ token).toList[bearerScheme.length]? = some ' ') := by
    rw [String.toList_append]
    exact ⟨rfl, rfl⟩
  have htoken : ("Bearer " ++ token).toList.drop (bearerScheme.length + 1) = token.toList := by
    rw [String.toList_append]
    rfl
  rw [bearerToken?, headerText?_ofText hchars, Option.bind_some]
  dsimp only
  rw [if_pos hscheme, htoken, hblank, String.ofList_toList]

end Http

namespace WebClient

open Http

/-- A client that reaches the endpoint of a server and carries the token that the server asks for, if it asks
for one. A token that the client carries consists of visible characters. -/
structure Fits (server : Server) (client : WebClient) : Prop where
  endpoint : client.endpoint = some endpointPath
  token : server.apiToken = none ∨ client.token = server.apiToken
  readable : ∀ token, client.token = some token → token ≠ "" ∧ ∀ c ∈ token.toList, Text.IsVisible c

variable {server : Server} {client : WebClient}

/-- The header with a token arrives as it was sent. -/
theorem authorization_of_token {token : String} (htoken : client.token = some token) (hne : token ≠ "")
    (hvisible : ∀ c ∈ token.toList, Text.IsVisible c) :
    client.authorization = .ok [{ name := "authorization", value := Bytes.ofText ("Bearer " ++ token) }] := by
  have hvalue : Bytes.ofText ("Bearer " ++ token) = Bytes.ofText "Bearer " ++ Bytes.ofText token :=
    Bytes.ofText_append _ _
  have hbytes := Bytes.mem_ofText_visible hvisible
  have hall : (Bytes.ofText ("Bearer " ++ token)).all isHeaderByte = true := by
    rw [hvalue, List.all_append, Bool.and_eq_true]
    refine ⟨by decide, List.all_eq_true.2 fun b hb => ?_⟩
    have hb := hbytes b hb
    simp only [isHeaderByte, Bool.or_eq_true, Bool.and_eq_true, decide_eq_true_eq]
    exact Or.inl ⟨by omega, by simp; omega⟩
  have hreceived : sentHeader "authorization" (Bytes.ofText ("Bearer " ++ token)) =
      { name := "authorization", value := Bytes.ofText ("Bearer " ++ token) } := by
    apply received_eq_self
    · rintro b ⟨⟩
      decide
    · intro b hb
      obtain ⟨front, c, hlast⟩ : ∃ front c, Bytes.ofText token = front ++ [c] :=
        ⟨_, _, (List.dropLast_append_getLast (Bytes.ofText_ne_nil hne)).symm⟩
      have hmem : c ∈ Bytes.ofText token := by simp [hlast]
      rw [hvalue, hlast, ← List.append_assoc, List.getLast?_concat, Option.mem_some_iff] at hb
      rw [← hb]
      exact (hbytes c hmem).1
  rw [authorization, htoken]
  dsimp only
  rw [if_pos hall, hreceived]

/-- The authorization of a client that fits is accepted wherever it is the only one. -/
theorem Fits.authorized (h : client.Fits server) :
    ∃ headers, client.authorization = .ok headers ∧ (∀ header ∈ headers, header.name = "authorization") ∧
      ∀ request : Request, values request.headers "authorization" = headers.map (·.value) →
        judge server.apiToken request = .admitted := by
  cases htoken : client.token with
  | none =>
    refine ⟨[], by rw [authorization, htoken], by simp, fun request hvalues => ?_⟩
    have hexpected : server.apiToken = none := h.token.elim id fun heq => heq.symm.trans htoken
    rw [judge, firstValue?, hvalues, hexpected]
    rfl
  | some token =>
    obtain ⟨hne, hvisible⟩ := h.readable token htoken
    refine ⟨_, authorization_of_token htoken hne hvisible, by simp, fun request hvalues => ?_⟩
    rw [judge, firstValue?, hvalues, List.map_singleton, List.head?_cons]
    dsimp only
    rw [bearerToken?_ofText hvisible]
    rcases h.token with hexpected | hexpected
    · rw [hexpected]
    · rw [← hexpected, htoken]
      exact if_pos rfl

structure IsSessionId (id : String) : Prop where
  ne_empty : id ≠ ""
  visible : ∀ c ∈ id.toList, Text.IsVisible c

theorem sessionHeaders_some {id : String} (h : IsSessionId id) :
    sessionHeaders (some id) = [.ofText sessionHeader id] :=
  congrArg (fun header => [header]) (received_ofText h.visible)

theorem sessionHeaders_name (session : Option String) :
    ∀ header ∈ sessionHeaders session, header.name = sessionHeader := by
  cases session with
  | none => simp [sessionHeaders]
  | some id => simp [sessionHeaders, sentHeader, Header.received]

/-- The id of a session is named by the header that carries it. -/
theorem names_of_values {request : Request} {id : String} (hid : IsSessionId id)
    (hvalues : values request.headers sessionHeader = [Bytes.ofText id]) : Names request id := by
  refine ⟨id, ?_, Text.trim_of_visible hid.visible, hid.ne_empty⟩
  change firstText? request.headers sessionHeader = some id
  rw [firstText?, firstValue?, hvalues]
  exact headerText?_visible hid.visible

/-- Any request of a client that fits is admitted and names the client's session. -/
theorem admitted_names (h : client.Fits server) (session : Option String)
    (hsession : ∀ id, session = some id → IsSessionId id) {front : List Header}
    (hfront : ∀ header ∈ front, header.name ≠ "authorization" ∧ header.name ≠ sessionHeader) :
    ∃ headers, client.authorization = .ok headers ∧
      ∀ request : Request, request.headers = front ++ sessionHeaders session ++ headers →
        judge server.apiToken request = .admitted ∧ ∀ id, session = some id → Names request id := by
  obtain ⟨headers, hheaders, hname, hjudge⟩ := h.authorized
  refine ⟨headers, hheaders, fun request hrequest => ⟨hjudge request ?_, ?_⟩⟩
  · have hother : ∀ header ∈ front ++ sessionHeaders session, header.name ≠ "authorization" := by
      intro header hmem
      rcases List.mem_append.1 hmem with hmem | hmem
      · exact (hfront header hmem).1
      · rw [sessionHeaders_name session header hmem]
        decide
    rw [hrequest, values_append, values_of_other_name hother, values_of_name hname, List.nil_append]
  · rintro id rfl
    have hid := hsession id rfl
    have hvalues : values request.headers sessionHeader = [Bytes.ofText id] := by
      have hother : ∀ header ∈ headers, header.name ≠ sessionHeader := by
        intro header hmem
        rw [hname header hmem]
        decide
      rw [hrequest, values_append, values_append, values_of_other_name fun header hmem => (hfront header hmem).2,
        values_of_other_name hother, sessionHeaders_some hid]
      rfl
    exact names_of_values hid hvalues

/-- The client has no session, or one that is live. -/
def IsOpen (link : WebLink SessionStore) : Prop :=
  ∀ id, link.session = some id → IsSessionId id ∧ link.wire.contains id = true

def IsLinked (link : WebLink SessionStore) : Prop :=
  IsOpen link ∧ link.session ≠ none

theorem exists_post (h : client.Fits server) {link : WebLink SessionStore} (hlink : IsOpen link) {message : Json}
    (hfits : FitsBody message) (hlinked : link.session ≠ none ∨ opensAnswered server message = true) :
    ∃ request, client.post link.session message = .ok request ∧ Posts server link.wire message request := by
  obtain ⟨headers, hheaders, hrequest⟩ :=
    @admitted_names server client h link.session (fun id hid => (hlink id hid).1)
      [.ofText "accept" "application/json, text/event-stream", .ofText "content-type" "application/json"] (by decide)
  have hpath : String.ofList (pathOf endpointPath.toList) = endpointPath := by decide
  refine ⟨_, by rw [post, h.endpoint, hheaders], ?_⟩
  refine ⟨rfl, hpath, (hrequest _ rfl).1, rfl, hfits, ?_⟩
  rcases hlinked with hsome | hopens
  · obtain ⟨id, hid⟩ := Option.ne_none_iff_exists'.1 hsome
    exact Or.inr ⟨id, (hrequest _ rfl).2 id hid, (hlink id hid).2⟩
  · rw [opensAnswered, Bool.and_eq_true] at hopens
    exact Or.inl (opensSession_eq_true_iff.1 hopens.1)

theorem received_of_headers {response : Response} (h : ∀ header ∈ response.headers, header.received = header) :
    response.received = response := by
  rw [Response.received, List.map_congr_left h, List.map_id']

theorem received_withHeader {response : Response} (h : ∀ header ∈ response.headers, header.received = header)
    (name : String) {value : String} (hvalue : ∀ c ∈ value.toList, Text.IsVisible c) :
    (response.withHeader name value).received = response.withHeader name value := by
  apply received_of_headers
  intro header hmem
  rw [Response.withHeader, List.mem_append, List.mem_singleton] at hmem
  rcases hmem with hmem | rfl
  · exact h header hmem
  · exact received_ofText hvalue

theorem headers_replyResponse (reply : Json) (streaming : Bool) :
    ∀ header ∈ (replyResponse reply streaming).headers, header.received = header := by
  cases streaming with
  | false => exact (by decide : ∀ header ∈ [Header.ofText "content-type" "application/json"], header.received = header)
  | true =>
    exact (by decide : ∀ header ∈ [Header.ofText "content-type" eventStream, .ofText "cache-control" "no-cache"],
      header.received = header)

theorem received_posted (server : Server) (ids : SessionIds) (store : SessionStore) (message : Json)
    (streaming : Bool) :
    (posted server ids store message streaming).1.received = (posted server ids store message streaming).1 := by
  have hdispatched : ∀ header ∈ (dispatched server message streaming).headers, header.received = header := by
    unfold dispatched
    cases (server.answer message).value with
    | none => exact fun _ hmem => absurd hmem (List.not_mem_nil)
    | some reply => exact headers_replyResponse reply streaming
  unfold posted
  split_ifs
  · exact received_withHeader hdispatched sessionHeader (ids.visible store.issued)
  · exact received_of_headers hdispatched

theorem opensAnswered_congr {read message : Json} (hmethod : read.get? "method" = message.get? "method")
    (hanswer : (server.answer read).value = (server.answer message).value) :
    opensAnswered server read = opensAnswered server message := by
  rw [opensAnswered, opensAnswered, opensSession, opensSession, hmethod, hanswer]

/-- A message that is posted is answered by the server, and the client has a session afterwards. -/
theorem send_posted (h : client.Fits server) (ids : SessionIds) {link : WebLink SessionStore} (hlink : IsOpen link)
    {message : Json} (hportable : Portable server message) (hfits : FitsBody message)
    (hlinked : link.session ≠ none ∨ opensAnswered server message = true) :
    (client.send (.toRouter ⟨server, ids⟩) message link).1 = .ok (server.answer message).value ∧
      IsLinked (client.send (.toRouter ⟨server, ids⟩) message link).2 := by
  obtain ⟨request, hrequest, hposts⟩ := exists_post h hlink hfits hlinked
  obtain ⟨read, hread, hmethod, hanswer⟩ := hportable.read
  obtain ⟨hvalue, hstore⟩ := @handle_posted server ids link.wire message request hposts read hread hmethod
  have hopens := opensAnswered_congr hmethod hanswer
  generalize acceptsEventStream (values request.headers "accept") = streaming at hvalue hstore
  have hsuccess : (posted server ids link.wire read streaming).1.isSuccess = true := by
    rw [Response.isSuccess, (status_body_posted server ids link.wire read streaming).1]
    rcases status_dispatched server read streaming with hstatus | hstatus
    · rw [hstatus]
      decide
    · rw [hstatus]
      decide
  unfold send
  rw [hrequest]
  dsimp only [Wire.toRouter]
  rw [hvalue, hstore, received_posted]
  refine ⟨by rw [answerOf_posted, hanswer], ?_⟩
  have hsession : sessionAfter link.session (posted server ids link.wire read streaming).1 =
      ((if opensAnswered server message then some (ids.text link.wire.issued) else none) <|> link.session) := by
    rw [sessionAfter, if_pos hsuccess, session_posted, hopens]
  have hwire : (posted server ids link.wire read streaming).2 =
      if opensAnswered server message then (link.wire.create ids).2 else link.wire := by
    rw [posted, hopens]
    split_ifs
    · rfl
    · rfl
  rw [hsession, hwire]
  cases hanswered : opensAnswered server message with
  | true =>
    refine ⟨?_, by simp⟩
    rintro id ⟨⟩
    exact ⟨⟨ids.ne_empty link.wire.issued, ids.visible link.wire.issued⟩,
      by simp [SessionStore.create, SessionStore.contains]⟩
  | false =>
    refine ⟨hlink, ?_⟩
    exact hlinked.resolve_right (by rw [hanswered]; decide)

/-- A client that closes deletes its session, which was live until then. -/
theorem close_ok (h : client.Fits server) (ids : SessionIds) {link : WebLink SessionStore} (hlink : IsOpen link) :
    (client.close (.toRouter ⟨server, ids⟩) link).1 = .ok () := by
  unfold close
  cases hsession : link.session with
  | none => rfl
  | some id =>
    obtain ⟨hid, hlive⟩ := hlink id hsession
    obtain ⟨headers, hheaders, hrequest⟩ :=
      @admitted_names server client h (some id) (by rintro _ ⟨⟩; exact hid) [.ofText "accept" "*/*"] (by decide)
    have hpath : String.ofList (pathOf endpointPath.toList) = endpointPath := by decide
    obtain ⟨request, hdelete, hmethod, htarget, hsent⟩ : ∃ request, client.delete id = .ok request ∧
        request.method = "DELETE" ∧ request.path = endpointPath ∧
          request.headers = [.ofText "accept" "*/*"] ++ sessionHeaders (some id) ++ headers := by
      refine ⟨_, by rw [delete, h.endpoint, hheaders], ?_⟩
      exact ⟨rfl, hpath, rfl⟩
    obtain ⟨hadmitted, hnames⟩ := hrequest request hsent
    have hvalue := (@handle_deleted_live ⟨server, ids⟩ link.wire request htarget hadmitted hmethod id (hnames id rfl)
      (List.contains_iff_mem.1 hlive)).1
    dsimp only [Wire.toRouter]
    rw [hdelete]
    dsimp only
    rw [hvalue]
    exact if_pos (Or.inl rfl)

theorem delivers (h : client.Fits server) (ids : SessionIds) :
    Delivers server (client.transport (.toRouter ⟨server, ids⟩)) FitsBody IsOpen IsLinked where
  isOpen_of_isLinked _ h := h.1
  close _ hopen := close_ok h ids hopen
  send _ _ hportable hfits hlink := by
    rcases hlink with hlinked | ⟨hopen, hopens⟩
    · exact send_posted h ids hlinked.1 hportable hfits (Or.inl hlinked.2)
    · exact send_posted h ids hopen hportable hfits (Or.inr hopens)

end WebClient

end ModelContext
