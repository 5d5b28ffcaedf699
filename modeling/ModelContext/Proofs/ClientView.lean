import ModelContext.Client.Direct
import ModelContext.Proofs.Outcomes
import ModelContext.Proofs.Transports

/-!
# What a client sees of its server

In the same process a client is told what its server replies and nothing else. An error comes with its code, its
message and its data; a result can be read, and is written as the server wrote it.
-/

namespace ModelContext

open Json

/-! ## Calls of tools -/

section Tools

variable (server : Server) {id : Int} {name : String} {arguments : Json}

/-- The call of a tool that the parameters are read as has the name that was given. -/
theorem name_of_readAs {read : CallToolParams}
    (h : ReadAs (some (toolParams name arguments)) CallToolParams.ofJson? read) : read.name = name := by
  obtain ⟨taken, htaken, hread⟩ := h
  rw [takeOver?, toolParams, expandFields?] at htaken
  cases hexpand : arguments.expand? with
  | none =>
    rw [hexpand] at htaken
    cases htaken
  | some v =>
    rw [hexpand] at htaken
    obtain rfl := Option.some.inj (Option.some.inj htaken)
    have hparams : CallToolParams.ofJson? (.obj (toolParams name v)) =
        ((Record.named (toolParams name v)).optional 0 "arguments" Json.openObject?).bind fun arguments =>
          some { arguments, name } := rfl
    rw [← toolParams, hparams, Option.bind_eq_some_iff] at hread
    obtain ⟨_, -, hread⟩ := hread
    rw [← Option.some.inj hread]

/-- Arguments that embed nothing are read if there are none or they are an object. -/
theorem exists_readAs_iff (harguments : arguments.all isUnmarked = true) :
    (∃ read, ReadAs (some (toolParams name arguments)) CallToolParams.ofJson? read) ↔
      arguments = .null ∨ ∃ fields, arguments = .obj fields := by
  have htaken : takeOver? (some (toolParams name arguments)) = some (some (toolParams name arguments)) := by
    rw [takeOver?, expandFields?_toolParams name harguments, Option.map_some]
  simp only [ReadAs, htaken, Option.some.injEq, exists_eq_left', ofJson?_toolParams name harguments,
    Option.map_eq_some_iff]
  cases arguments <;> simp [givenArguments?]

def unknownToolError (name : String) : ClientError :=
  .rpc (-32601) "Method not found"
    (some (.obj
      [("code", .str "tool_not_found"), ("details", .obj [("name", .str name)]), ("message", .str "unknown tool name")]))

def unknownResourceError (uri : String) : ClientError :=
  .rpc (-32601) "Method not found"
    (some (.obj
      [("code", .str "resource_not_found"), ("details", .obj [("uri", .str uri)]),
       ("message", .str "unknown resource uri")]))

theorem outcomeOf_unknownTool (hid : FitsInt64 id) (hname : name ≠ "add")
    (hread : ∃ read, ReadAs (some (toolParams name arguments)) CallToolParams.ofJson? read) :
    outcomeOf server id Method.callTool.name (some (.obj (toolParams name arguments))) CallToolResult.ofJson? =
      .error (unknownToolError name) := by
  obtain ⟨read, hreadAs⟩ := hread
  have hsame := name_of_readAs hreadAs
  obtain ⟨taken, htaken, hread⟩ := hreadAs
  have hrefused : callTool read = .error (unknownTool name) := by
    rw [callTool, hsame]
    exact if_neg hname
  have hmethod : Method.callTool.name = "tools/call" := rfl
  have hanswer := @value_answer_taken server id hid Method.callTool.name _ _ htaken
  rw [Option.map_some] at hanswer
  rw [outcomeOf, hanswer, hmethod, value_answerRequest_callTool server _ hread, hrefused]
  exact readAnswer_fault hid _ _ .methodNotFound _

/-- A call that is not read is refused without data. -/
theorem outcomeOf_unread_tool (hid : FitsInt64 id)
    (hread : ¬∃ read, ReadAs (some (toolParams name arguments)) CallToolParams.ofJson? read) :
    outcomeOf server id Method.callTool.name (some (.obj (toolParams name arguments))) CallToolResult.ofJson? =
        .error (.rpc (-32600) "Invalid Request" none) ∨
      outcomeOf server id Method.callTool.name (some (.obj (toolParams name arguments))) CallToolResult.ofJson? =
        .error (.rpc (-32602) "Invalid params" none) := by
  cases hexpand : expandFields? (toolParams name arguments) with
  | none =>
    have htaken : takeOver? (some (toolParams name arguments)) = none := by rw [takeOver?, hexpand, Option.map_none]
    have hanswer := @value_answer_unreadable server id Method.callTool.name _ htaken
    rw [Option.map_some] at hanswer
    rw [outcomeOf, hanswer]
    exact Or.inl (readAnswer_fault hid _ _ .invalidRequest none)
  | some taken =>
    have htaken : takeOver? (some (toolParams name arguments)) = some (some taken) := by
      rw [takeOver?, hexpand, Option.map_some]
    have haccepts : Method.callTool.accepts ((some taken).map .obj) = false := by
      rw [Option.map_some, Method.accepts, Option.isSome_eq_false_iff, Option.isNone_iff_eq_none,
        Option.eq_none_iff_forall_ne_some]
      exact fun read hsome => hread ⟨read, taken, htaken, hsome⟩
    have hanswer := @value_answer_taken server id hid Method.callTool.name _ _ htaken
    rw [Option.map_some] at hanswer
    rw [outcomeOf, hanswer, value_answerRequest_of_not_accepts server _ .callTool _ haccepts]
    exact Or.inr (readAnswer_fault hid _ _ .invalidParams none)

theorem outcomeOf_unknownResource (hid : FitsInt64 id) {uri : String} (huri : ¬IsGreeting uri) :
    outcomeOf server id Method.readResource.name (some (.obj [("uri", .str uri)])) ReadResourceResult.ofJson? =
      .error (unknownResourceError uri) := by
  have hrefused : readResource uri = .error (unknownResource uri) := by
    rw [readResource, not_isGreeting_iff.1 huri]
  have hread : ReadResourceParams.ofJson? (.obj [("uri", .str uri)]) = some { uri } := rfl
  have htaken : takeOver? (some [("uri", .str uri)]) = some (some [("uri", .str uri)]) := rfl
  have hmethod : Method.readResource.name = "resources/read" := rfl
  have hanswer := @value_answer_taken server id hid Method.readResource.name _ _ htaken
  rw [Option.map_some] at hanswer
  rw [outcomeOf, hanswer, hmethod, value_answerRequest_readResource server _ hread, hrefused]
  exact readAnswer_fault hid _ _ .methodNotFound _

end Tools

/-! ## Sessions -/

namespace Session

section Direct

variable {server : Server} {s : Session Unit}

theorem request_direct {α : Type} (hknown : s.server.isSome = true) (method : String) (params : Option Json)
    (read : Json → Option α) :
    s.request (.direct server) method params read =
      (outcomeOf server s.nextId.toInt method params read, { s with nextId := s.nextId + 1 }) := by
  rw [request_eq hknown, send_eq]
  rfl

theorem handshake_direct : (s.handshake (.direct server)).1 = .ok (server.welcome Server.protocolVersion) := by
  have haccepted : (server.welcome Server.protocolVersion).protocolVersion ∈ acceptedVersions :=
    (by decide : Server.protocolVersion ∈ acceptedVersions)
  have hsend (message : Json) : (Transport.direct server).send message s.link =
      (.ok (server.answer message).value, s.link) := rfl
  rw [handshake_eq (hsend _) (outcomeOf_handshake server (fitsInt64_toInt s.nextId)) haccepted (hsend _)]

theorem page_direct (hknown : s.server.isSome = true) (listing : Listing) (cursor : Option String) :
    s.page (.direct server) listing cursor =
      (.ok (.whole (Server.items listing)), { s with nextId := s.nextId + 1 }) := by
  rw [page, request_direct hknown, outcomeOf_page server (fitsInt64_toInt s.nextId)]

theorem listAll_direct (hknown : s.server.isSome = true) (listing : Listing) {budget : Nat} (hbudget : 0 < budget) :
    s.listAll (.direct server) listing budget =
      some (.ok (Server.items listing), { s with nextId := s.nextId + 1 }) := by
  obtain ⟨budget, rfl⟩ : ∃ k, budget = k + 1 := ⟨budget - 1, by omega⟩
  rw [listAll, walk, page_direct hknown]
  rfl

theorem andThen_listAll {β : Type} (hknown : s.server.isSome = true) (listing : Listing) {budget : Nat}
    (hbudget : 0 < budget)
    (next : List listing.Item → Session Unit → Option (Except ClientError β × Session Unit)) :
    andThen (s.listAll (.direct server) listing budget) next =
      next (Server.items listing) { s with nextId := s.nextId + 1 } := by
  rw [listAll_direct hknown listing hbudget]
  rfl

theorem listCapabilities_direct (hknown : s.server.isSome = true) {budget : Nat} (hbudget : 0 < budget) :
    s.listCapabilities (.direct server) budget =
      some (.ok { prompts := Server.items .prompts, resources := Server.items .resources,
                  templates := Server.items .templates, tools := Server.items .tools },
        { s with nextId := s.nextId + 1 + 1 + 1 + 1 }) := by
  have hlist (id : Int64) := @andThen_listAll server { s with nextId := id } Capabilities hknown
  exact (hlist s.nextId .prompts hbudget _).trans <| (hlist _ .resources hbudget _).trans <|
    (hlist _ .templates hbudget _).trans <| hlist _ .tools hbudget _

end Direct

structure Reflects (server : Server) (s : Session Unit) : Prop where
  handshake : Sees server s.nextId.toInt "initialize" (some handshakeParams) InitializeResult.toJson
    (s.handshake (.direct server)).1
  ping : Sees server s.nextId.toInt "ping" none (fun _ => .obj []) (s.ping (.direct server)).1
  page : ∀ listing cursor, Sees server s.nextId.toInt listing.methodName (cursorParams cursor) listing.pageToJson
    (s.page (.direct server) listing cursor).1
  /-- All items of a listing are those of the page that is asked for. -/
  listAll : ∀ listing budget, 0 < budget → ∃ outcome after,
    s.listAll (.direct server) listing budget = some (outcome, after) ∧
      Sees server s.nextId.toInt listing.methodName none (fun items => listing.pageToJson (.whole items)) outcome
  /-- All that a server offers is asked for one listing after the other. -/
  listCapabilities : ∀ budget, 0 < budget → ∃ all after,
    s.listCapabilities (.direct server) budget = some (.ok all, after) ∧
      Sees server s.nextId.toInt "prompts/list" none (fun items => Listing.prompts.pageToJson (.whole items))
        (.ok all.prompts) ∧
      Sees server (s.nextId + 1).toInt "resources/list" none (fun items => Listing.resources.pageToJson (.whole items))
        (.ok all.resources) ∧
      Sees server (s.nextId + 2).toInt "resources/templates/list" none
        (fun items => Listing.templates.pageToJson (.whole items)) (.ok all.templates) ∧
      Sees server (s.nextId + 3).toInt "tools/list" none (fun items => Listing.tools.pageToJson (.whole items))
        (.ok all.tools)
  callTool : ∀ name arguments, Sees server s.nextId.toInt "tools/call" (some (.obj (toolParams name arguments)))
    CallToolResult.toJson (s.callTool (.direct server) name arguments).1
  readResource : ∀ uri, Sees server s.nextId.toInt "resources/read" (some (.obj [("uri", .str uri)]))
    ReadResourceResult.toJson (s.readResource (.direct server) uri).1
  /-- The name of a tool that there is none of is told exactly if the server can read the call. -/
  unknownTool : ∀ name arguments, name ≠ "add" →
    ((s.callTool (.direct server) name arguments).1 = .error (unknownToolError name) ↔
      ∃ read, ReadAs (some (toolParams name arguments)) CallToolParams.ofJson? read)
  /-- A call that the server cannot read is told without data, whatever its tool. -/
  unread : ∀ name arguments, (¬∃ read, ReadAs (some (toolParams name arguments)) CallToolParams.ofJson? read) →
    (s.callTool (.direct server) name arguments).1 = .error (.rpc (-32600) "Invalid Request" none) ∨
      (s.callTool (.direct server) name arguments).1 = .error (.rpc (-32602) "Invalid params" none)
  /-- Arguments that embed nothing can be read if they are null or an object. -/
  readable : ∀ name arguments, arguments.all isUnmarked = true →
    ((∃ read, ReadAs (some (toolParams name arguments)) CallToolParams.ofJson? read) ↔
      arguments = .null ∨ ∃ fields, arguments = .obj fields)
  /-- The address of a resource that there is none of is always told. -/
  unknownResource : ∀ uri, ¬IsGreeting uri →
    (s.readResource (.direct server) uri).1 = .error (unknownResourceError uri)

/-- A page that is the whole of a listing tells of its items. -/
theorem sees_items (server : Server) {id : Int} (hid : FitsInt64 id) (listing : Listing) :
    Sees server id listing.methodName none (fun items => listing.pageToJson (.whole items))
      (.ok (Server.items listing)) := by
  have hsees := sees_page server hid listing none
  rw [outcomeOf_page server hid] at hsees
  obtain ⟨reply, hreply, htells⟩ := hsees
  cases htells with
  | result _ hresult herror => exact ⟨reply, hreply, .result (Server.items listing) hresult herror⟩

/-- After the handshake a session is told what its server replies. -/
theorem client_sees_replies (server : Server) {s : Session Unit} (hknown : s.server.isSome = true) :
    Reflects server s where
  handshake := by
    have hsees := sees_handshake server (fitsInt64_toInt s.nextId)
    rw [outcomeOf_handshake server (fitsInt64_toInt s.nextId)] at hsees
    rw [handshake_direct]
    exact hsees
  ping := by
    rw [Session.ping, request_direct hknown]
    dsimp only
    exact sees_ping server (fitsInt64_toInt _)
  page listing cursor := by
    rw [Session.page, request_direct hknown]
    exact sees_page server (fitsInt64_toInt _) listing cursor
  listAll listing budget hbudget :=
    ⟨_, _, listAll_direct hknown listing hbudget, sees_items server (fitsInt64_toInt _) listing⟩
  listCapabilities budget hbudget :=
    ⟨_, _, listCapabilities_direct hknown hbudget, sees_items server (fitsInt64_toInt _) .prompts,
      sees_items server (fitsInt64_toInt _) .resources, sees_items server (fitsInt64_toInt _) .templates,
      sees_items server (fitsInt64_toInt _) .tools⟩
  callTool name arguments := by
    rw [Session.callTool, request_direct hknown]
    exact sees_callTool server (fitsInt64_toInt _) name arguments
  readResource uri := by
    rw [Session.readResource, request_direct hknown]
    dsimp only
    exact sees_readResource server (fitsInt64_toInt _) uri
  unknownTool name arguments hname := by
    rw [Session.callTool, request_direct hknown]
    constructor
    · intro houtcome
      by_contra hread
      have hrefused := outcomeOf_unread_tool server (fitsInt64_toInt s.nextId) hread
      rw [toolParams] at hrefused
      rcases hrefused with hrefused | hrefused
      · rw [hrefused] at houtcome
        cases houtcome
      · rw [hrefused] at houtcome
        cases houtcome
    · exact outcomeOf_unknownTool server (fitsInt64_toInt s.nextId) hname
  unread name arguments hread := by
    rw [Session.callTool, request_direct hknown]
    exact outcomeOf_unread_tool server (fitsInt64_toInt s.nextId) hread
  readable name arguments harguments := exists_readAs_iff harguments
  unknownResource uri huri := by
    rw [Session.readResource, request_direct hknown]
    dsimp only
    exact outcomeOf_unknownResource server (fitsInt64_toInt s.nextId) huri

def welcomed (server : Server) : Session Unit :=
  { nextId := 2, server := some (server.welcome Server.protocolVersion), link := () }

theorem client_sees_replies_multiplication :
    (welcomed ⟨"Demo", none⟩).server.isSome = true ∧
      ((welcomed ⟨"Demo", none⟩).callTool (.direct ⟨"Demo", none⟩) "mul" (.obj [("a", .int 2), ("b", .int 3)])).1 =
        .error (unknownToolError "mul") := by
  have hreflects := client_sees_replies ⟨"Demo", none⟩ (rfl : (welcomed ⟨"Demo", none⟩).server.isSome = true)
  exact ⟨rfl, (hreflects.unknownTool "mul" _ (by decide)).2 ((hreflects.readable "mul" _ rfl).2 (Or.inr ⟨_, rfl⟩))⟩

/-- Not every name that no tool has is told to the caller: the arguments are looked at before it. -/
theorem not_every_unknown_name_told :
    ¬∀ (server : Server) (s : Session Unit) (name : String) (arguments : Json), s.server.isSome = true →
      name ≠ "add" → ∃ code reason data details,
        (s.callTool (.direct server) name arguments).1 = .error (.rpc code reason (some data)) ∧
          data.get? "details" = some details ∧ details.get? "name" = some (.str name) := by
  intro h
  obtain ⟨code, reason, data, details, houtcome, -⟩ := h ⟨"Demo", none⟩ (welcomed ⟨"Demo", none⟩) "mul" (.int 5) rfl
    (by decide)
  have hrefused : ((welcomed ⟨"Demo", none⟩).callTool (.direct ⟨"Demo", none⟩) "mul" (.int 5)).1 =
      .error (.rpc (-32602) "Invalid params" none) := by decide +kernel
  rw [hrefused] at houtcome
  cases houtcome

end Session

end ModelContext
