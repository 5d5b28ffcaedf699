import ModelContext.Http.Router
import ModelContext.Proofs.BodySizes

/-!
# Sessions over a history of requests

What a router has answered so far tells which sessions are live: those that were handed out and not
deleted since. The store holds exactly these, whatever was requested, and they alone decide which
messages are dispatched.
-/

namespace ModelContext.Http

structure Exchange where
  request : Request
  response : Response

namespace Exchange

def handedOut (exchange : Exchange) : Option String :=
  firstText? exchange.response.headers sessionHeader

def closed (exchange : Exchange) : Option String :=
  if exchange.request.method = "DELETE" ∧ exchange.response.status = 204 then sessionOf? exchange.request.headers
  else none

end Exchange

def Router.exchanges (router : Router) (store : SessionStore) (requests : List Request) : List Exchange :=
  (requests.zip (router.handleAll store requests).1).map fun (request, answer) => ⟨request, answer.value⟩

theorem handleAll_cons (router : Router) (store : SessionStore) (request : Request) (later : List Request) :
    router.handleAll store (request :: later) =
      ((router.handle store request).1 :: (router.handleAll (router.handle store request).2 later).1,
        (router.handleAll (router.handle store request).2 later).2) := rfl

/-- A live session was handed out, and no request deleted it. -/
def IsLive (past : List Exchange) (id : String) : Prop :=
  (∃ exchange ∈ past, exchange.handedOut = some id) ∧ ∀ exchange ∈ past, exchange.closed ≠ some id

/-! ## Responses -/

theorem run_map (f : Logged Response → Logged Response) (plan : Plan) (ids : SessionIds) (store : SessionStore) :
    (plan.map f).run ids store = (f (plan.run ids store).1, (plan.run ids store).2) := by
  cases plan <;> rfl

@[simp] theorem value_noted (request : Request) (answer : Logged Response) :
    (noted request answer).value = answer.value := by
  simp only [noted, Logged.value_bind]
  split <;> rfl

/-- An answer is noted after all that was noted before it. -/
theorem events_noted (request : Request) (answer : Logged Response) :
    (noted request answer).events = answer.events ++
      .requestAnswered request.method request.path answer.value.status ::
        if answer.value.status = 401 then [.authenticationFailed request.method request.path] else [] := by
  unfold noted
  by_cases h : answer.value.status = 401
  · simp [h]
  · simp [h]

theorem value_handle (router : Router) (store : SessionStore) (request : Request) :
    (router.handle store request).1.value = ((plan router.server request).run router.ids store).1.value := by
  rw [Router.handle, run_map, value_noted]

theorem store_handle (router : Router) (store : SessionStore) (request : Request) :
    (router.handle store request).2 = ((plan router.server request).run router.ids store).2 := by
  rw [Router.handle, run_map]

/-- The response to a message, as far as it does not depend on a session. -/
def dispatched (server : Server) (message : Json) (streaming : Bool) : Response :=
  match (server.answer message).value with
  | none => .bare 202
  | some reply => replyResponse reply streaming

theorem value_dispatch (server : Server) (message : Json) (streaming : Bool) :
    (dispatch server message streaming).value = dispatched server message streaming := by
  simp only [dispatch, dispatched, Logged.value_bind]
  cases (server.answer message).value <;> rfl

/-- A response that neither hands out a session nor says that one was deleted. -/
structure IsOrdinary (response : Response) : Prop where
  no_session : firstText? response.headers sessionHeader = none
  not_closed : response.status ≠ 204

theorem IsOrdinary.no_id {response : Response} (h : IsOrdinary response) :
    ¬∃ id, firstText? response.headers "mcp-session-id" = some id := by
  rintro ⟨id, hid⟩
  have hnone : firstText? response.headers "mcp-session-id" = none := h.no_session
  rw [hnone] at hid
  cases hid

theorem isOrdinary_bare {status : Nat} (h : status ≠ 204) : IsOrdinary (.bare status) where
  no_session := rfl
  not_closed := h

theorem isOrdinary_json {status : Nat} (h : status ≠ 204) (text : String) : IsOrdinary (.json status text) where
  no_session := rfl
  not_closed := h

theorem isOrdinary_bodyTooLong : IsOrdinary bodyTooLong where
  no_session := rfl
  not_closed := (by decide : 413 ≠ 204)

theorem isOrdinary_replyResponse (reply : Json) (streaming : Bool) : IsOrdinary (replyResponse reply streaming) := by
  cases streaming with
  | false => exact isOrdinary_json (by decide) _
  | true => exact ⟨rfl, (by decide : 200 ≠ 204)⟩

theorem isOrdinary_dispatched (server : Server) (message : Json) (streaming : Bool) :
    IsOrdinary (dispatched server message streaming) := by
  unfold dispatched
  split
  · exact isOrdinary_bare (by decide)
  · exact isOrdinary_replyResponse _ _

theorem isOrdinary_refusal (refusal : Refusal) : IsOrdinary refusal.response.value := by
  cases refusal <;> exact isOrdinary_json (by decide) _

/-- A further header does not change what stands under other names. -/
theorem firstText?_withHeader_of_ne {name other : String} (h : name ≠ other) (response : Response) (value : String) :
    firstText? (response.withHeader name value).headers other = firstText? response.headers other := by
  simp [firstText?, firstValue?, values, Response.withHeader, Header.ofText, h]

theorem isOrdinary_otherMethod {response : Response} (h : IsOrdinary response) (method : String) :
    IsOrdinary (otherMethod method response) := by
  have hheader : firstText? (response.withHeader "allow" "POST,DELETE").headers sessionHeader = none := by
    rw [firstText?_withHeader_of_ne (by decide : "allow" ≠ sessionHeader)]
    exact h.no_session
  unfold otherMethod
  dsimp only
  split
  · exact ⟨hheader, h.not_closed⟩
  · exact ⟨hheader, h.not_closed⟩

theorem isOrdinary_pageResponse (method text : String) : IsOrdinary (pageResponse method text) := by
  unfold pageResponse
  split_ifs
  · exact isOrdinary_json (by decide) _
  · exact ⟨rfl, (by decide : 200 ≠ 204)⟩
  · exact ⟨rfl, (by decide : 405 ≠ 204)⟩

/-- The id of a new session stands in the response to a handshake as it is. -/
theorem firstText?_opened (reply : Json) (streaming : Bool) {id : String} (hid : ∀ c ∈ id.toList, Text.IsVisible c) :
    firstText? ((replyResponse reply streaming).withHeader sessionHeader id).headers sessionHeader = some id := by
  have hvalues : values ((replyResponse reply streaming).withHeader sessionHeader id).headers sessionHeader =
      [Bytes.ofText id] := by
    cases streaming <;> rfl
  rw [firstText?, firstValue?, hvalues]
  exact headerText?_visible hid

/-- Such an id can stand in a header, so the handshake is not refused for it. -/
theorem openedResponse_of_visible (reply : Json) (streaming : Bool) {id : String}
    (hid : ∀ c ∈ id.toList, Text.IsVisible c) :
    openedResponse reply streaming id = (do
      Logged.emit (.sessionOpened id)
      pure ((replyResponse reply streaming).withHeader sessionHeader id)) := by
  have htext : (Bytes.ofText id).all isTextByte = true := by
    by_contra hnot
    have hnone : headerText? (Bytes.ofText id) = none := if_neg hnot
    rw [headerText?_visible hid] at hnone
    cases hnone
  refine if_pos (List.all_eq_true.2 fun b hb => ?_)
  have hb := List.all_eq_true.1 htext b hb
  simp only [isTextByte, isHeaderByte, Bool.or_eq_true, Bool.and_eq_true, decide_eq_true_eq] at hb ⊢
  exact hb.imp_left fun h => ⟨h.1, by omega⟩

/-! ## What a request does to the store -/

/-- All that a request can do: leave the store as it is, open a session, or close the one that it names. -/
inductive Effect (ids : SessionIds) (store : SessionStore) (request : Request) : Response → SessionStore → Prop where
  | kept {response : Response} (h : IsOrdinary response) : Effect ids store request response store
  | opened {response : Response} (hmethod : request.method = "POST")
      (hnew : firstText? response.headers sessionHeader = some (ids.text store.issued)) :
      Effect ids store request response (store.create ids).2
  | closed {id : String} (hmethod : request.method = "DELETE") (hid : sessionOf? request.headers = some id)
      (hlive : id ∈ store.live) : Effect ids store request (.bare 204) (store.remove id).2

section Run

variable (server : Server) (ids : SessionIds) (store : SessionStore) (request : Request)

/-- What a handshake is answered, and whether it opens a session. -/
theorem run_planHandshake (message : Json) (streaming : Bool) :
    (∃ reply, (server.answer message).value = some reply ∧ isErrorReply reply = false ∧
      ((planHandshake server message streaming).run ids store).1.value =
        (replyResponse reply streaming).withHeader sessionHeader (ids.text store.issued) ∧
      ((planHandshake server message streaming).run ids store).2 = (store.create ids).2) ∨
    ((∀ reply, (server.answer message).value = some reply → isErrorReply reply = true) ∧
      ((planHandshake server message streaming).run ids store).1.value = dispatched server message streaming ∧
      ((planHandshake server message streaming).run ids store).2 = store) := by
  have hdispatch := value_dispatch server message streaming
  unfold planHandshake
  dsimp only
  cases hanswer : (server.answer message).value with
  | none => exact Or.inr ⟨by simp, hdispatch, rfl⟩
  | some reply =>
    cases herror : isErrorReply reply with
    | true =>
      refine Or.inr ⟨?_, ?_, ?_⟩
      · intro other hother
        rw [← Option.some.inj hother, herror]
      · simp only [herror, if_true]
        exact hdispatch
      · simp only [herror, if_true]
        rfl
    | false =>
      have hopened := openedResponse_of_visible reply streaming (ids.visible store.issued)
      refine Or.inl ⟨reply, rfl, herror, ?_, ?_⟩
      · simp only [herror, Bool.false_eq_true, if_false, Plan.run, SessionStore.perform, SessionStore.create,
          Logged.value_bind, hopened, Logged.value_pure]
      · simp only [herror, Bool.false_eq_true, if_false]
        rfl

theorem planBody_of_unparsed (hbody : Json.parseBytes? request.body = none) :
    planBody server request = .done (pure (replyResponse (RpcFault.parseError.reply none none)
      (acceptsEventStream (values request.headers "accept")))) := by
  unfold planBody
  simp only [hbody]

theorem planBody_of_handshake {message : Json} (hbody : Json.parseBytes? request.body = some message)
    (hopens : opensSession message = true) :
    planBody server request =
      planHandshake server message (acceptsEventStream (values request.headers "accept")) := by
  unfold planBody
  simp only [hbody, hopens, if_true]

/-- What a message outside of a handshake is answered. It leaves the store as it is. -/
theorem run_planBody_of_message {message : Json} (hbody : Json.parseBytes? request.body = some message)
    (hopens : opensSession message = false) :
    ((planBody server request).run ids store).2 = store ∧
      ((planBody server request).run ids store).1.value =
        match sessionOf? request.headers with
        | none => missingSession.response.value
        | some id =>
          if id ∈ store.live then
            dispatched server message (acceptsEventStream (values request.headers "accept"))
          else (unknownSession id).response.value := by
  unfold planBody
  simp only [hbody, hopens, Bool.false_eq_true, if_false]
  cases sessionOf? request.headers with
  | none => exact ⟨rfl, rfl⟩
  | some id =>
    refine ⟨rfl, ?_⟩
    simp only [Plan.run, SessionStore.perform, SessionStore.contains, List.contains_iff_mem]
    split
    · exact value_dispatch server message _
    · rfl

/-- All that can become of a body that is not too long. -/
inductive BodyAnswer (streaming : Bool) : Response → SessionStore → Prop where
  | unparsed (hbody : Json.parseBytes? request.body = none) :
      BodyAnswer streaming (replyResponse (RpcFault.parseError.reply none none) streaming) store
  | opened {message reply : Json} (hbody : Json.parseBytes? request.body = some message)
      (hopens : opensSession message = true) (hreply : (server.answer message).value = some reply)
      (herror : isErrorReply reply = false) :
      BodyAnswer streaming ((replyResponse reply streaming).withHeader sessionHeader (ids.text store.issued))
        (store.create ids).2
  | failed {message : Json} (hbody : Json.parseBytes? request.body = some message)
      (hopens : opensSession message = true)
      (herror : ∀ reply, (server.answer message).value = some reply → isErrorReply reply = true) :
      BodyAnswer streaming (dispatched server message streaming) store
  | answered {message : Json} {id : String} (hbody : Json.parseBytes? request.body = some message)
      (hopens : opensSession message = false) (hid : sessionOf? request.headers = some id) (hlive : id ∈ store.live) :
      BodyAnswer streaming (dispatched server message streaming) store
  | missing {message : Json} (hbody : Json.parseBytes? request.body = some message)
      (hopens : opensSession message = false) (hid : sessionOf? request.headers = none) :
      BodyAnswer streaming missingSession.response.value store
  | unknown {message : Json} {id : String} (hbody : Json.parseBytes? request.body = some message)
      (hopens : opensSession message = false) (hid : sessionOf? request.headers = some id) (hdead : id ∉ store.live) :
      BodyAnswer streaming (unknownSession id).response.value store

theorem planBody_answer :
    BodyAnswer server ids store request (acceptsEventStream (values request.headers "accept"))
      ((planBody server request).run ids store).1.value ((planBody server request).run ids store).2 := by
  cases hbody : Json.parseBytes? request.body with
  | none =>
    rw [planBody_of_unparsed server request hbody]
    exact .unparsed hbody
  | some message =>
    cases hopens : opensSession message with
    | true =>
      rw [planBody_of_handshake server request hbody hopens]
      rcases run_planHandshake server ids store message (acceptsEventStream (values request.headers "accept")) with
        ⟨reply, hreply, herror, hvalue, hstore⟩ | ⟨herror, hvalue, hstore⟩
      · rw [hvalue, hstore]
        exact .opened hbody hopens hreply herror
      · rw [hvalue, hstore]
        exact .failed hbody hopens herror
    | false =>
      obtain ⟨hstore, hvalue⟩ := run_planBody_of_message server ids store request hbody hopens
      rw [hstore, hvalue]
      cases hid : sessionOf? request.headers with
      | none => exact .missing hbody hopens hid
      | some id =>
        by_cases hlive : id ∈ store.live
        · simp only [if_pos hlive]
          exact .answered hbody hopens hid hlive
        · simp only [if_neg hlive]
          exact .unknown hbody hopens hid hlive

theorem planPost_of_fits (hfits : request.body.length ≤ bodyLimit) :
    planPost server request = planBody server request := if_pos hfits

theorem planPost_of_too_long (hlong : bodyLimit < request.body.length) :
    planPost server request = .done (pure bodyTooLong) := if_neg (Nat.not_le.2 hlong)

/-- What a deletion is answered. -/
theorem run_planDelete :
    ((planDelete request).run ids store).1.value =
        (match sessionOf? request.headers with
        | none => missingSession.response.value
        | some id => if id ∈ store.live then .bare 204 else (unknownSession id).response.value) ∧
      ((planDelete request).run ids store).2 =
        match sessionOf? request.headers with
        | none => store
        | some id => (store.remove id).2 := by
  unfold planDelete
  cases sessionOf? request.headers with
  | none => exact ⟨rfl, rfl⟩
  | some id =>
    refine ⟨?_, rfl⟩
    simp only [Plan.run, SessionStore.perform, SessionStore.remove, SessionStore.contains, List.contains_iff_mem]
    split
    · rfl
    · rfl

theorem remove_of_not_mem {store : SessionStore} {id : String} (h : id ∉ store.live) :
    (store.remove id).2 = store := by
  rw [SessionStore.remove, List.erase_of_not_mem h]

theorem planBody_effect (hmethod : request.method = "POST") :
    Effect ids store request ((planBody server request).run ids store).1.value
      ((planBody server request).run ids store).2 := by
  have hanswer := planBody_answer server ids store request
  generalize ((planBody server request).run ids store).1.value = response at *
  generalize ((planBody server request).run ids store).2 = after at *
  cases hanswer with
  | unparsed => exact .kept (isOrdinary_replyResponse _ _)
  | opened => exact .opened hmethod (firstText?_opened _ _ (ids.visible store.issued))
  | failed | answered => exact .kept (isOrdinary_dispatched _ _ _)
  | missing | unknown => exact .kept (isOrdinary_refusal _)

theorem planPost_effect (hmethod : request.method = "POST") :
    Effect ids store request ((planPost server request).run ids store).1.value
      ((planPost server request).run ids store).2 := by
  rcases Nat.lt_or_ge bodyLimit request.body.length with hlong | hfits
  · rw [planPost_of_too_long server request hlong]
    exact .kept isOrdinary_bodyTooLong
  · rw [planPost_of_fits server request hfits]
    exact planBody_effect server ids store request hmethod

theorem planDelete_effect (hmethod : request.method = "DELETE") :
    Effect ids store request ((planDelete request).run ids store).1.value
      ((planDelete request).run ids store).2 := by
  obtain ⟨hvalue, hstore⟩ := run_planDelete ids store request
  rw [hvalue, hstore]
  cases hid : sessionOf? request.headers with
  | none => exact .kept (isOrdinary_refusal _)
  | some id =>
    by_cases hlive : id ∈ store.live
    · simp only [if_pos hlive]
      exact .closed hmethod hid hlive
    · simp only [if_neg hlive]
      rw [remove_of_not_mem hlive]
      exact .kept (isOrdinary_refusal _)

theorem isOrdinary_unreadable : IsOrdinary unreadableAuthorization where
  no_session := rfl
  not_closed := (by decide : 400 ≠ 204)

theorem planEndpoint_effect : Effect ids store request ((planEndpoint server request).run ids store).1.value
    ((planEndpoint server request).run ids store).2 := by
  unfold planEndpoint
  dsimp only
  split
  · rename_i hmethod
    cases judge server.apiToken request with
    | admitted =>
      dsimp only
      unfold planAdmitted
      by_cases hpost : request.method = "POST"
      · rw [if_pos hpost]
        exact planPost_effect server ids store request hpost
      · have hdelete : request.method = "DELETE" := hmethod.resolve_left hpost
        rw [if_neg hpost, if_pos hdelete]
        exact planDelete_effect ids store request hdelete
    | unreadable => exact .kept isOrdinary_unreadable
    | refused refusal => exact .kept (isOrdinary_refusal refusal)
  · rename_i hmethod
    rw [run_map]
    cases judge server.apiToken request with
    | admitted =>
      have hplan : planAdmitted server request = .done (pure (.bare 405)) := by
        unfold planAdmitted
        rw [if_neg fun h => hmethod (Or.inl h), if_neg fun h => hmethod (Or.inr h)]
      dsimp only
      rw [hplan]
      exact .kept (isOrdinary_otherMethod (isOrdinary_bare (by decide)) _)
    | unreadable => exact .kept (isOrdinary_otherMethod isOrdinary_unreadable _)
    | refused refusal => exact .kept (isOrdinary_otherMethod (isOrdinary_refusal refusal) _)

end Run

/-- Whatever is requested, the store is left as it is, or one session is opened or closed. -/
theorem handle_effect (router : Router) (store : SessionStore) (request : Request) :
    Effect router.ids store request (router.handle store request).1.value (router.handle store request).2 := by
  rw [value_handle, store_handle]
  unfold plan
  split
  · exact planEndpoint_effect router.server router.ids store request
  · split
    · exact .kept (isOrdinary_pageResponse _ _)
    · exact .kept (isOrdinary_bare (by decide))

/-! ## The invariant -/

/-- What a store has to do with the exchanges so far. The ids of sessions that were handed out and of those
that were deleted are among those that were issued, so the next one is new. -/
structure Consistent (ids : SessionIds) (store : SessionStore) (past : List Exchange) : Prop where
  live_iff : ∀ id, id ∈ store.live ↔ IsLive past id
  nodup : store.live.Nodup
  handed : ∀ exchange ∈ past, ∀ id, exchange.handedOut = some id → ∃ n < store.issued, id = ids.text n
  closed : ∀ exchange ∈ past, ∀ id, exchange.closed = some id → ∃ n < store.issued, id = ids.text n

theorem consistent_empty (ids : SessionIds) : Consistent ids .empty [] where
  live_iff id := by simp [SessionStore.empty, IsLive]
  nodup := List.nodup_nil
  handed := by simp
  closed := by simp

theorem isLive_append (past : List Exchange) (exchange : Exchange) (id : String) :
    IsLive (past ++ [exchange]) id ↔
      ((∃ earlier ∈ past, earlier.handedOut = some id) ∨ exchange.handedOut = some id) ∧
        (∀ earlier ∈ past, earlier.closed ≠ some id) ∧ exchange.closed ≠ some id := by
  simp only [IsLive, List.mem_append, List.mem_singleton, or_and_right, exists_or, exists_eq_left, or_imp,
    forall_and, forall_eq]

section Step

variable {ids : SessionIds} {store : SessionStore} {past : List Exchange} {request : Request}

theorem closed_of_ordinary {response : Response} (h : IsOrdinary response) :
    Exchange.closed ⟨request, response⟩ = none :=
  if_neg fun hclosed => h.not_closed hclosed.2

theorem Consistent.kept (h : Consistent ids store past) {exchange : Exchange} (hnew : exchange.handedOut = none)
    (hclosed : exchange.closed = none) : Consistent ids store (past ++ [exchange]) where
  live_iff id := by
    rw [isLive_append, hnew, hclosed, h.live_iff]
    simp [IsLive]
  nodup := h.nodup
  handed := by
    refine List.forall_mem_append.2 ⟨h.handed, List.forall_mem_singleton.2 ?_⟩
    simp [hnew]
  closed := by
    refine List.forall_mem_append.2 ⟨h.closed, List.forall_mem_singleton.2 ?_⟩
    simp [hclosed]

/-- An id that was not issued yet was neither handed out nor deleted. -/
theorem Consistent.fresh (h : Consistent ids store past) {exchange : Exchange} (hmem : exchange ∈ past) :
    exchange.handedOut ≠ some (ids.text store.issued) ∧ exchange.closed ≠ some (ids.text store.issued) := by
  constructor
  · intro hid
    obtain ⟨n, hn, heq⟩ := h.handed exchange hmem _ hid
    exact absurd (ids.injective heq) (by omega)
  · intro hid
    obtain ⟨n, hn, heq⟩ := h.closed exchange hmem _ hid
    exact absurd (ids.injective heq) (by omega)

theorem Consistent.not_mem_fresh (h : Consistent ids store past) : ids.text store.issued ∉ store.live := by
  intro hmem
  obtain ⟨⟨exchange, hexchange, hid⟩, -⟩ := (h.live_iff _).1 hmem
  exact (h.fresh hexchange).1 hid

theorem Consistent.opened (h : Consistent ids store past) {exchange : Exchange}
    (hnew : exchange.handedOut = some (ids.text store.issued)) (hclosed : exchange.closed = none) :
    Consistent ids (store.create ids).2 (past ++ [exchange]) where
  live_iff id := by
    rw [isLive_append, hnew, hclosed, SessionStore.create, List.mem_cons, h.live_iff]
    constructor
    · rintro (rfl | hlive)
      · exact ⟨Or.inr rfl, fun earlier hearlier => (h.fresh hearlier).2, by simp⟩
      · exact ⟨Or.inl hlive.1, hlive.2, by simp⟩
    · rintro ⟨hhanded | hhanded, hopen, -⟩
      · exact Or.inr ⟨hhanded, hopen⟩
      · exact Or.inl (Option.some.inj hhanded).symm
  nodup := List.nodup_cons.2 ⟨h.not_mem_fresh, h.nodup⟩
  handed := by
    refine List.forall_mem_append.2 ⟨fun other hother id hid => ?_, List.forall_mem_singleton.2 fun id hid => ?_⟩
    · obtain ⟨n, hn, hid⟩ := h.handed other hother id hid
      exact ⟨n, Nat.lt_succ_of_lt hn, hid⟩
    · rw [hnew] at hid
      exact ⟨store.issued, Nat.lt_succ_self _, (Option.some.inj hid).symm⟩
  closed := by
    refine List.forall_mem_append.2 ⟨fun other hother id hid => ?_, List.forall_mem_singleton.2 ?_⟩
    · obtain ⟨n, hn, hid⟩ := h.closed other hother id hid
      exact ⟨n, Nat.lt_succ_of_lt hn, hid⟩
    · simp [hclosed]

theorem Consistent.removed (h : Consistent ids store past) {exchange : Exchange} {id : String}
    (hlive : id ∈ store.live) (hnew : exchange.handedOut = none) (hclosed : exchange.closed = some id) :
    Consistent ids (store.remove id).2 (past ++ [exchange]) where
  live_iff other := by
    have hmem : other ∈ (store.remove id).2.live ↔ other ≠ id ∧ other ∈ store.live :=
      List.Nodup.mem_erase_iff h.nodup
    rw [isLive_append, hnew, hclosed, hmem, h.live_iff]
    constructor
    · rintro ⟨hne, hlive⟩
      exact ⟨Or.inl hlive.1, hlive.2, fun heq => hne (Option.some.inj heq).symm⟩
    · rintro ⟨hhanded | hhanded, hopen, hne⟩
      · exact ⟨fun heq => hne (by rw [heq]), hhanded, hopen⟩
      · cases hhanded
  nodup := h.nodup.erase id
  handed := by
    refine List.forall_mem_append.2 ⟨h.handed, List.forall_mem_singleton.2 ?_⟩
    simp [hnew]
  closed := by
    refine List.forall_mem_append.2 ⟨h.closed, List.forall_mem_singleton.2 fun other hother => ?_⟩
    rw [hclosed] at hother
    obtain ⟨⟨opener, hopener, hopened⟩, -⟩ := (h.live_iff id).1 hlive
    rw [← Option.some.inj hother]
    exact h.handed opener hopener id hopened

/-- Every effect keeps the store consistent with the exchanges. -/
theorem Consistent.step (h : Consistent ids store past) {response : Response} {after : SessionStore}
    (heffect : Effect ids store request response after) :
    Consistent ids after (past ++ [⟨request, response⟩]) := by
  cases heffect with
  | kept hordinary => exact h.kept hordinary.no_session (closed_of_ordinary hordinary)
  | opened hmethod hnew =>
    have hopen : Exchange.closed ⟨request, response⟩ = none := by
      rw [Exchange.closed, hmethod]
      exact if_neg (by simp)
    exact h.opened hnew hopen
  | closed hmethod hid hlive =>
    refine h.removed hlive rfl ?_
    rw [Exchange.closed, if_pos ⟨hmethod, rfl⟩]
    exact hid

end Step

/-- The store stays consistent over every history. -/
theorem consistent_handleAll (router : Router) {store : SessionStore} {past : List Exchange}
    (h : Consistent router.ids store past) (requests : List Request) :
    Consistent router.ids (router.handleAll store requests).2 (past ++ router.exchanges store requests) := by
  induction requests generalizing store past with
  | nil =>
    rw [Router.exchanges, List.zip_nil_left, List.map_nil, List.append_nil]
    exact h
  | cons request later ih =>
    have hstep := h.step (handle_effect router store request)
    have hlater := ih hstep
    rw [List.append_assoc] at hlater
    exact hlater

/-! ## The rules of sessions -/

/-- The session that a request names: the text of its first session header, without the blanks around it. -/
def Names (request : Request) (id : String) : Prop :=
  ∃ text, firstText? request.headers "mcp-session-id" = some text ∧ Text.trim text = id ∧ id ≠ ""

/-- The requests that need a session: deletions, and posted messages and batches that are no handshake and not too
long. -/
def NeedsSession (request : Request) : Prop :=
  request.method = "DELETE" ∨ (request.method = "POST" ∧ request.body.length ≤ 2097152 ∧
    ∃ message, Json.parseBytes? request.body = some message ∧ message.get? "method" ≠ some (.str "initialize"))

def Refuses (response : Response) (status : Nat) (code : String) (details : Json) : Prop :=
  response.status = status ∧ ∃ body, Json.parseBytes? response.body = some body ∧
    body.get? "code" = some (.str code) ∧ body.get? "details" = some details

/-- What a request with the given response does, after the exchanges `past` have led to a store. -/
structure SessionRules (server : Server) (past : List Exchange) (store : SessionStore) (request : Request)
    (response : Response) (after : SessionStore) : Prop where
  /-- The store holds the live sessions, each once. -/
  holds_live : (∀ id, store.contains id = true ↔ IsLive past id) ∧ store.live.Nodup
  /-- A message is dispatched if and only if its request names a live session. -/
  message : request.method = "POST" → request.body.length ≤ 2097152 →
    ∀ message, Json.parseBytes? request.body = some message → message.get? "method" ≠ some (.str "initialize") →
    ((response.status = 200 ∨ response.status = 202) ↔ ∃ id, Names request id ∧ IsLive past id) ∧ after = store
  /-- A deletion succeeds if and only if it names a live session, and it removes that one. -/
  deletion : request.method = "DELETE" →
    (response.status = 204 ↔ ∃ id, Names request id ∧ IsLive past id) ∧
      (response.status = 204 → ∀ id, Names request id →
        ∀ other, after.contains other = true ↔ store.contains other = true ∧ other ≠ id) ∧
      (response.status ≠ 204 → after = store)
  /-- Without a name, requests that need a session are refused. -/
  missing : NeedsSession request → (∀ id, ¬Names request id) → Refuses response 400 "missing_session" (.obj [])
  /-- So are those that name a session that is not live. -/
  unknown : NeedsSession request → ∀ id, Names request id → ¬IsLive past id →
    Refuses response 404 "session_not_found" (.obj [("session_id", .str id)])
  /-- A session is handed out if and only if a single handshake is answered by a result. -/
  opening : (∃ id, firstText? response.headers "mcp-session-id" = some id) ↔
    request.method = "POST" ∧ request.body.length ≤ 2097152 ∧
      ∃ message reply, Json.parseBytes? request.body = some message ∧
        message.get? "method" = some (.str "initialize") ∧ (server.answer message).value = some reply ∧
        reply.has "result" = true
  /-- A body of more than two mebibytes is refused, whatever it holds and whichever session is named. -/
  too_long : request.method = "POST" → 2097152 < request.body.length → response.status = 413 ∧ after = store
  /-- A session that is handed out is a new one, and it is open. -/
  fresh : ∀ id, firstText? response.headers "mcp-session-id" = some id → after.contains id = true ∧
    ∀ exchange ∈ past, exchange.handedOut ≠ some id ∧ exchange.closed ≠ some id
  /-- A deleted session is neither accepted nor handed out again. -/
  closed : ∀ exchange ∈ past, ∀ id, exchange.closed = some id →
    firstText? response.headers "mcp-session-id" ≠ some id ∧
      (NeedsSession request → Names request id →
        Refuses response 404 "session_not_found" (.obj [("session_id", .str id)]))

theorem sessionOf?_eq_some_iff {request : Request} {id : String} :
    sessionOf? request.headers = some id ↔ Names request id := by
  have hname : sessionHeader = "mcp-session-id" := rfl
  simp only [sessionOf?, Names, hname, Option.bind_eq_some_iff]
  constructor
  · rintro ⟨text, htext, h⟩
    split at h
    · cases h
    · rename_i hne
      refine ⟨text, htext, Option.some.inj h, ?_⟩
      rw [← Option.some.inj h]
      simpa using hne
  · rintro ⟨text, htext, rfl, hne⟩
    refine ⟨text, htext, ?_⟩
    rw [if_neg (by simpa using hne)]

theorem sessionOf?_eq_none_iff {request : Request} :
    sessionOf? request.headers = none ↔ ∀ id, ¬Names request id := by
  rw [Option.eq_none_iff_forall_ne_some]
  exact forall_congr' fun id => not_congr sessionOf?_eq_some_iff

theorem opensSession_eq_true_iff {message : Json} :
    opensSession message = true ↔ message.get? "method" = some (.str "initialize") := by
  rw [opensSession, beq_iff_eq]
  rfl

theorem opensSession_eq_false_iff {message : Json} :
    opensSession message = false ↔ message.get? "method" ≠ some (.str "initialize") := by
  rw [← Bool.not_eq_true, opensSession_eq_true_iff]

theorem parseBytes?_ofText (s : String) : Json.parseBytes? (Bytes.ofText s) = Json.parse? s := by
  rw [Json.parseBytes?, Bytes.toText?_ofText]
  rfl

/-- The body of a refusal is read with its code and details. -/
theorem refuses_body {status : Nat} {code reason : String} {details : Json}
    (hplain : details.all Json.isPlain = true) (hstable : details.all Json.isStable = true)
    (hdepth : details.depth < Json.maxNesting) :
    Refuses (Refusal.response.body status code reason details) status code details := by
  have hfields : ¬"message" < "code" ∧ ¬"details" < "code" ∧ "details" < "message" := by decide
  have hsorted : Json.ofFields [("code", .str code), ("message", .str reason), ("details", details)] =
      .obj [("code", .str code), ("details", details), ("message", .str reason)] := by
    simp [Json.ofFields, Json.insertField, hfields]
  have hparse : Json.parse? (Json.recordText
      [("code", .str code), ("message", .str reason), ("details", details)]) =
        some (.obj [("code", .str code), ("details", details), ("message", .str reason)]) := by
    rw [Json.recordText, Json.parse?_text]
    · rw [Json.reread, Json.rereadFields, Json.rereadFields, Json.rereadFields, Json.rereadFields,
        Json.reread_of_stable details hstable, ← hsorted]
      rfl
    · simp only [Json.all, Json.allFields, hplain, Bool.and_true]
      rfl
    · simp only [Json.depth, Json.fieldsDepth]
      omega
  refine ⟨rfl, .obj [("code", .str code), ("details", details), ("message", .str reason)], ?_, rfl, rfl⟩
  rw [Refusal.response.body, Response.json, parseBytes?_ofText]
  exact hparse

theorem refuses_missingSession : Refuses missingSession.response.value 400 "missing_session" (.obj []) :=
  refuses_body rfl rfl (by decide)

theorem refuses_unknownSession (id : String) :
    Refuses (unknownSession id).response.value 404 "session_not_found" (.obj [("session_id", .str id)]) :=
  refuses_body rfl rfl (by decide : 1 < 127)

theorem status_dispatched (server : Server) (message : Json) (streaming : Bool) :
    (dispatched server message streaming).status = 200 ∨ (dispatched server message streaming).status = 202 := by
  unfold dispatched
  split
  · exact Or.inr rfl
  · cases streaming <;> exact Or.inl rfl

/-- A reply is either a result or an error. -/
theorem has_result_iff {server : Server} {message reply : Json}
    (h : (server.answerMessage message).value = some reply) :
    reply.has "result" = true ↔ isErrorReply reply = false := by
  rcases (answerMessage_form server h).isReply with ⟨-, -, ⟨result, hresult, herror⟩ | ⟨member, herror, -, hresult⟩⟩
  · simp [isErrorReply, Json.has, hresult, herror]
  · simp [isErrorReply, Json.has, hresult, herror]

theorem answer_eq_answerMessage (server : Server) {message : Json} {v : Json} {key : String}
    (h : message.get? key = some v) : server.answer message = server.answerMessage message := by
  apply answer_of_not_batch
  rintro items rfl
  cases h

/-- What does not get to the handlers is answered at once, in an ordinary way. -/
theorem plan_of_not_admitted {server : Server} {request : Request}
    (h : ¬(request.path = endpointPath ∧ judge server.apiToken request = .admitted)) :
    ∃ answer, plan server request = .done answer ∧ IsOrdinary answer.value := by
  have hrefused : ∀ answer : Logged Response, IsOrdinary answer.value →
      ∃ sent, (if request.method = "POST" ∨ request.method = "DELETE" then Plan.done answer
        else (Plan.done answer).map fun answer => otherMethod request.method <$> answer) = .done sent ∧
          IsOrdinary sent.value := by
    intro answer hanswer
    split
    · exact ⟨answer, rfl, hanswer⟩
    · exact ⟨_, rfl, isOrdinary_otherMethod hanswer request.method⟩
  unfold plan
  split
  · rename_i hpath
    rw [planEndpoint]
    cases hjudge : judge server.apiToken request with
    | admitted => exact absurd ⟨hpath, hjudge⟩ h
    | unreadable => exact hrefused _ isOrdinary_unreadable
    | refused refusal => exact hrefused _ (isOrdinary_refusal refusal)
  · split
    · exact ⟨_, rfl, isOrdinary_pageResponse _ _⟩
    · exact ⟨_, rfl, isOrdinary_bare (by decide)⟩

/-- A body that is read hands out a session exactly if it is a handshake with a result. -/
theorem planBody_opening (server : Server) (ids : SessionIds) (store : SessionStore) (request : Request) :
    (∃ id, firstText? ((planBody server request).run ids store).1.value.headers "mcp-session-id" = some id) ↔
      ∃ message reply, Json.parseBytes? request.body = some message ∧
        message.get? "method" = some (.str "initialize") ∧ (server.answer message).value = some reply ∧
        reply.has "result" = true := by
  have hother : ∀ message, Json.parseBytes? request.body = some message → opensSession message = false →
      ¬∃ message reply, Json.parseBytes? request.body = some message ∧
        message.get? "method" = some (.str "initialize") ∧ (server.answer message).value = some reply ∧
        reply.has "result" = true := by
    rintro message hbody hopens ⟨other, reply, hother, hname, -⟩
    rw [Option.some.inj (hother.symm.trans hbody)] at hname
    exact opensSession_eq_false_iff.1 hopens hname
  have hanswer := planBody_answer server ids store request
  generalize ((planBody server request).run ids store).1.value = response at *
  generalize ((planBody server request).run ids store).2 = after at *
  cases hanswer with
  | unparsed hbody =>
    refine iff_of_false (isOrdinary_replyResponse _ _).no_id ?_
    rintro ⟨message, reply, h, -⟩
    cases hbody.symm.trans h
  | opened hbody hopens hreply herror =>
    have hname := opensSession_eq_true_iff.1 hopens
    refine iff_of_true ⟨_, firstText?_opened _ _ (ids.visible store.issued)⟩ ⟨_, _, hbody, hname, hreply, ?_⟩
    rw [answer_eq_answerMessage server hname] at hreply
    exact (has_result_iff hreply).2 herror
  | failed hbody hopens herror =>
    refine iff_of_false (isOrdinary_dispatched _ _ _).no_id ?_
    rintro ⟨other, reply, hother, hname, hreply, hresult⟩
    obtain rfl := Option.some.inj (hbody.symm.trans hother)
    have hfail := herror reply hreply
    rw [answer_eq_answerMessage server hname] at hreply
    rw [(has_result_iff hreply).1 hresult] at hfail
    cases hfail
  | answered hbody hopens => exact iff_of_false (isOrdinary_dispatched _ _ _).no_id (hother _ hbody hopens)
  | missing hbody hopens => exact iff_of_false (isOrdinary_refusal _).no_id (hother _ hbody hopens)
  | unknown hbody hopens => exact iff_of_false (isOrdinary_refusal _).no_id (hother _ hbody hopens)

section Rules

variable {router : Router} {store : SessionStore} {past : List Exchange} {request : Request}

/-- At the endpoint, an admitted request is carried out. -/
theorem plan_of_admitted {server : Server} (hpath : request.path = endpointPath)
    (hadmitted : judge server.apiToken request = .admitted)
    (hmethod : request.method = "POST" ∨ request.method = "DELETE") :
    plan server request = planAdmitted server request := by
  rw [plan, if_pos hpath, planEndpoint, if_pos hmethod, hadmitted]

variable (hpath : request.path = endpointPath) (hadmitted : judge router.server.apiToken request = .admitted)

include hpath hadmitted

theorem handle_post (hmethod : request.method = "POST") :
    (router.handle store request).1.value = ((planPost router.server request).run router.ids store).1.value ∧
      (router.handle store request).2 = ((planPost router.server request).run router.ids store).2 := by
  have hplan : plan router.server request = planPost router.server request := by
    rw [plan_of_admitted hpath hadmitted (Or.inl hmethod), planAdmitted, if_pos hmethod]
  rw [value_handle, store_handle, hplan]
  exact ⟨rfl, rfl⟩

/-- A posted body is answered by what it holds. -/
theorem handle_body (hmethod : request.method = "POST") (hfits : request.body.length ≤ bodyLimit) :
    (router.handle store request).1.value = ((planBody router.server request).run router.ids store).1.value ∧
      (router.handle store request).2 = ((planBody router.server request).run router.ids store).2 := by
  rw [← planPost_of_fits router.server request hfits]
  exact handle_post hpath hadmitted hmethod

/-- A body that is too long is not looked at. -/
theorem handle_too_long (hmethod : request.method = "POST") (hlong : bodyLimit < request.body.length) :
    (router.handle store request).1.value = bodyTooLong ∧ (router.handle store request).2 = store := by
  obtain ⟨hvalue, hstore⟩ := @handle_post router store request hpath hadmitted hmethod
  rw [hvalue, hstore, planPost_of_too_long router.server request hlong]
  exact ⟨rfl, rfl⟩

theorem handle_delete (hmethod : request.method = "DELETE") :
    (router.handle store request).1.value = ((planDelete request).run router.ids store).1.value ∧
      (router.handle store request).2 = ((planDelete request).run router.ids store).2 := by
  have hplan : plan router.server request = planDelete request := by
    rw [plan_of_admitted hpath hadmitted (Or.inr hmethod), planAdmitted, if_neg (by rw [hmethod]; decide),
      if_pos hmethod]
  rw [value_handle, store_handle, hplan]
  exact ⟨rfl, rfl⟩

/-- A live session is deleted by its name. -/
theorem handle_deleted_live (hmethod : request.method = "DELETE") {id : String} (hnames : Names request id)
    (hlive : id ∈ store.live) :
    (router.handle store request).1.value = .bare 204 ∧ (router.handle store request).2 = (store.remove id).2 := by
  obtain ⟨hvalue, hstore⟩ := @handle_delete router store request hpath hadmitted hmethod
  obtain ⟨hrun, hafter⟩ := run_planDelete router.ids store request
  rw [hvalue, hstore, hrun, hafter, sessionOf?_eq_some_iff.2 hnames]
  exact ⟨if_pos hlive, rfl⟩

/-- A request that needs a session, but names no live one, is refused. -/
theorem handle_needsSession (hneeds : NeedsSession request) :
    (sessionOf? request.headers = none → (router.handle store request).1.value = missingSession.response.value) ∧
      ∀ id, sessionOf? request.headers = some id → id ∉ store.live →
        (router.handle store request).1.value = (unknownSession id).response.value := by
  rcases hneeds with hmethod | ⟨hmethod, hfits, message, hbody, hopens⟩
  · rw [(handle_delete hpath hadmitted hmethod).1, (run_planDelete router.ids store request).1]
    refine ⟨fun hnone => by rw [hnone], fun id hid hdead => ?_⟩
    rw [hid]
    exact if_neg hdead
  · rw [(handle_body hpath hadmitted hmethod hfits).1,
      (run_planBody_of_message router.server router.ids store request hbody (opensSession_eq_false_iff.2 hopens)).2]
    refine ⟨fun hnone => by rw [hnone], fun id hid hdead => ?_⟩
    rw [hid]
    exact if_neg hdead

/-- A session is handed out exactly for a handshake with a result. -/
theorem handle_opening :
    (∃ id, firstText? (router.handle store request).1.value.headers "mcp-session-id" = some id) ↔
      request.method = "POST" ∧ request.body.length ≤ bodyLimit ∧
        ∃ message reply, Json.parseBytes? request.body = some message ∧
          message.get? "method" = some (.str "initialize") ∧ (router.server.answer message).value = some reply ∧
          reply.has "result" = true := by
  by_cases hmethod : request.method = "POST"
  · rcases Nat.lt_or_ge bodyLimit request.body.length with hlong | hfits
    · rw [(handle_too_long hpath hadmitted hmethod hlong).1]
      exact iff_of_false isOrdinary_bodyTooLong.no_id fun h => Nat.not_le.2 hlong h.2.1
    · rw [(handle_body hpath hadmitted hmethod hfits).1, planBody_opening, and_iff_right hmethod, and_iff_right hfits]
  · refine iff_of_false ?_ fun h => hmethod h.1
    have heffect := handle_effect router store request
    generalize (router.handle store request).1.value = response at *
    generalize (router.handle store request).2 = after at *
    cases heffect with
    | kept hordinary => exact hordinary.no_id
    | opened hpost hnew => exact absurd hpost hmethod
    | closed hdelete hid hlive =>
      rintro ⟨id, h⟩
      cases h

/-- A message is dispatched exactly in a live session. -/
theorem handle_message {message : Json} (hmethod : request.method = "POST")
    (hfits : request.body.length ≤ bodyLimit) (hbody : Json.parseBytes? request.body = some message)
    (hopens : opensSession message = false) :
    (((router.handle store request).1.value.status = 200 ∨ (router.handle store request).1.value.status = 202) ↔
        ∃ id, sessionOf? request.headers = some id ∧ id ∈ store.live) ∧
      (router.handle store request).2 = store := by
  obtain ⟨hvalue, hstore⟩ := @handle_body router store request hpath hadmitted hmethod hfits
  obtain ⟨hrunStore, hrunValue⟩ := run_planBody_of_message router.server router.ids store request hbody hopens
  refine ⟨?_, by rw [hstore, hrunStore]⟩
  rw [hvalue, hrunValue]
  cases sessionOf? request.headers with
  | none =>
    refine iff_of_false ?_ (by simp)
    exact (by decide : ¬(400 = 200 ∨ 400 = 202))
  | some id =>
    by_cases hlive : id ∈ store.live
    · simp only [if_pos hlive]
      exact iff_of_true (status_dispatched _ _ _) ⟨id, rfl, hlive⟩
    · simp only [if_neg hlive]
      refine iff_of_false (by decide : ¬(404 = 200 ∨ 404 = 202)) ?_
      rintro ⟨other, hother, hmem⟩
      rw [← Option.some.inj hother] at hmem
      exact hlive hmem

/-- A deletion succeeds exactly for a live session, which is removed. -/
theorem handle_deletion (hmethod : request.method = "DELETE") :
    ((router.handle store request).1.value.status = 204 ↔
        ∃ id, sessionOf? request.headers = some id ∧ id ∈ store.live) ∧
      ∀ id, sessionOf? request.headers = some id → (router.handle store request).2 = (store.remove id).2 := by
  obtain ⟨hvalue, hstore⟩ := @handle_delete router store request hpath hadmitted hmethod
  obtain ⟨hrunValue, hrunStore⟩ := run_planDelete router.ids store request
  rw [hvalue, hstore, hrunValue, hrunStore]
  cases sessionOf? request.headers with
  | none => exact ⟨iff_of_false (by decide : ¬400 = 204) (by simp), by simp⟩
  | some id =>
    refine ⟨?_, fun other hother => by rw [← Option.some.inj hother]⟩
    by_cases hlive : id ∈ store.live
    · simp only [if_pos hlive]
      exact iff_of_true rfl ⟨id, rfl, hlive⟩
    · simp only [if_neg hlive]
      refine iff_of_false (by decide : ¬404 = 204) ?_
      rintro ⟨other, hother, hmem⟩
      rw [← Option.some.inj hother] at hmem
      exact hlive hmem

/-- The rules of sessions hold for every admitted request to the endpoint, after every history of requests. -/
theorem session_rules (history : List Request) :
    SessionRules router.server (router.exchanges .empty history) (router.handleAll .empty history).2 request
      (router.handle (router.handleAll .empty history).2 request).1.value
      (router.handle (router.handleAll .empty history).2 request).2 := by
  have hcons : Consistent router.ids (router.handleAll .empty history).2 (router.exchanges .empty history) := by
    have h := consistent_handleAll router (consistent_empty router.ids) history
    rwa [List.nil_append] at h
  generalize (router.handleAll .empty history).2 = store at *
  generalize router.exchanges .empty history = past at *
  have hnamed : (∃ id, sessionOf? request.headers = some id ∧ id ∈ store.live) ↔
      ∃ id, Names request id ∧ IsLive past id :=
    exists_congr fun id => and_congr sessionOf?_eq_some_iff (hcons.live_iff id)
  have hunknown : NeedsSession request → ∀ id, Names request id → ¬IsLive past id →
      Refuses (router.handle store request).1.value 404 "session_not_found" (.obj [("session_id", .str id)]) := by
    intro hneeds id hid hdead
    rw [(handle_needsSession hpath hadmitted hneeds).2 id (sessionOf?_eq_some_iff.2 hid)
      (mt (hcons.live_iff id).1 hdead)]
    exact refuses_unknownSession id
  have hfresh : ∀ id, firstText? (router.handle store request).1.value.headers "mcp-session-id" = some id →
      id = router.ids.text store.issued ∧ (router.handle store request).2 = (store.create router.ids).2 := by
    intro id hid
    have heffect := handle_effect router store request
    generalize (router.handle store request).1.value = response at *
    generalize (router.handle store request).2 = after at *
    cases heffect with
    | kept hordinary => exact absurd ⟨id, hid⟩ hordinary.no_id
    | opened hpost hnew => exact ⟨Option.some.inj (hid.symm.trans hnew), rfl⟩
    | closed hdelete hclosed hlive => cases hid
  constructor
  case holds_live => exact ⟨fun id => List.contains_iff_mem.trans (hcons.live_iff id), hcons.nodup⟩
  case message =>
    intro hmethod hfits message hbody hname
    obtain ⟨hstatus, hstore⟩ := @handle_message router store request hpath hadmitted message hmethod hfits hbody
      (opensSession_eq_false_iff.2 hname)
    exact ⟨hstatus.trans hnamed, hstore⟩
  case deletion =>
    intro hmethod
    obtain ⟨hstatus, hremoved⟩ := @handle_deletion router store request hpath hadmitted hmethod
    refine ⟨hstatus.trans hnamed, ?_, ?_⟩
    · intro _ id hid other
      rw [hremoved id (sessionOf?_eq_some_iff.2 hid)]
      simp only [SessionStore.contains, List.contains_iff_mem, SessionStore.remove,
        List.Nodup.mem_erase_iff hcons.nodup]
      exact and_comm
    · intro hother
      cases hid : sessionOf? request.headers with
      | none =>
        obtain ⟨-, hrun⟩ := run_planDelete router.ids store request
        rw [(handle_delete hpath hadmitted hmethod).2, hrun, hid]
      | some id =>
        rw [hremoved id hid]
        exact remove_of_not_mem fun hlive => hother (hstatus.2 ⟨id, hid, hlive⟩)
  case missing =>
    intro hneeds hnone
    rw [(handle_needsSession hpath hadmitted hneeds).1 (sessionOf?_eq_none_iff.2 hnone)]
    exact refuses_missingSession
  case unknown => exact hunknown
  case opening => exact handle_opening hpath hadmitted
  case too_long =>
    intro hmethod hlong
    obtain ⟨hvalue, hstore⟩ := @handle_too_long router store request hpath hadmitted hmethod hlong
    exact ⟨congrArg Response.status hvalue, hstore⟩
  case fresh =>
    intro id hid
    obtain ⟨rfl, hstore⟩ := hfresh id hid
    refine ⟨?_, fun exchange hmem => hcons.fresh hmem⟩
    rw [hstore]
    exact List.contains_iff_mem.2 List.mem_cons_self
  case closed =>
    intro exchange hmem id hclosed
    refine ⟨?_, fun hneeds hid => hunknown hneeds id hid fun hlive => hlive.2 exchange hmem hclosed⟩
    intro hid
    rw [(hfresh id hid).1] at hclosed
    exact (hcons.fresh hmem).2 hclosed

end Rules

theorem store_handleAll_singleton (router : Router) (store : SessionStore) (request : Request) :
    (router.handleAll store [request]).2 = (router.handle store request).2 := rfl

/-- A deletion that names a session in the store succeeds. -/
theorem SessionRules.status_deletion {server : Server} {past : List Exchange} {store after : SessionStore}
    {request : Request} {response : Response} (hrules : SessionRules server past store request response after)
    (hmethod : request.method = "DELETE") {id : String} (hid : Names request id) (hlive : id ∈ store.live) :
    response.status = 204 := by
  have hcontains : store.contains id = true := List.contains_iff_mem.2 hlive
  exact (hrules.deletion hmethod).1.2 ⟨id, hid, (hrules.holds_live.1 id).1 hcontains⟩

/-- A session is opened by a handshake and deleted by the next request. -/
theorem session_rules_handshake_deletion :
    let router : Router := { server := ⟨"demo", none⟩, ids := .numbered }
    let message := requestJson (.int 1) "initialize" (some Session.handshakeParams)
    let handshake : Request := { method := "POST", target := "/mcp", headers := [], body := Bytes.ofText message.text }
    let deletion : Request :=
      { method := "DELETE", target := "/mcp", body := []
        headers := [.ofText "mcp-session-id" "<session:0>"] }
    let store := (router.handleAll .empty [handshake]).2
    deletion.path = endpointPath ∧ judge none deletion = .admitted ∧ store.live = ["<session:0>"] ∧
      SessionRules router.server (router.exchanges .empty [handshake]) store deletion
        (router.handle store deletion).1.value (router.handle store deletion).2 ∧
      (router.handle store deletion).1.value.status = 204 := by
  intro router message handshake deletion store
  have hpath : deletion.path = endpointPath := by decide
  have hadmitted : judge router.server.apiToken deletion = .admitted := by decide
  have hrules := session_rules hpath hadmitted [handshake]
  have hlive : store.live = ["<session:0>"] := by
    have hbody : Json.parseBytes? handshake.body = some message := by
      rw [parseBytes?_ofText, Json.parse?_text (by decide) (by decide), Json.reread_of_stable message (by decide)]
    have hwelcome : (router.server.answer message).value =
        some (resultReply (some (.int 1)) (router.server.welcome Server.protocolVersion).toJson) := by decide
    have hopened : store = (SessionStore.empty.create .numbered).2 := by
      have hpost : store = ((planBody router.server handshake).run .numbered .empty).2 :=
        (store_handleAll_singleton router .empty handshake).trans
          (@handle_body router .empty handshake (by decide) rfl rfl (by decide +kernel)).2
      rw [hpost, planBody_of_handshake router.server handshake hbody (by decide)]
      rcases run_planHandshake router.server .numbered .empty message
        (acceptsEventStream (values handshake.headers "accept")) with
        ⟨reply, -, -, -, hstore⟩ | ⟨herror, -⟩
      · exact hstore
      · exact absurd (herror _ hwelcome) (by rw [isErrorReply_resultReply]; decide)
    rw [hopened]
    decide
  have hnamed : Names deletion "<session:0>" := ⟨"<session:0>", by decide, by decide, by decide⟩
  exact ⟨hpath, hadmitted, hlive, hrules, hrules.status_deletion rfl hnamed (by rw [hlive]; decide)⟩

/-- A message that names no session is refused with another status if it is too long. -/
theorem not_refused_for_session :
    let router : Router := { server := ⟨"demo", none⟩, ids := .numbered }
    let message := letters 2097151
    let request : Request := { method := "POST", target := "/mcp", headers := [], body := Bytes.ofText message.text }
    request.path = endpointPath ∧ judge none request = .admitted ∧ Json.parseBytes? request.body = some message ∧
      message.get? "method" ≠ some (.str "initialize") ∧ (∀ id, ¬Names request id) ∧
        (router.handle .empty request).1.value.status = 413 ∧
        ¬Refuses (router.handle .empty request).1.value 400 "missing_session" (.obj []) := by
  intro router message request
  have hpath : request.path = endpointPath := by decide
  have hadmitted : judge router.server.apiToken request = .admitted := by decide
  -- Comparing terms by computation would spell out the message, so its text is named once.
  have htext : request.body = Bytes.ofText message.text := by dsimp only [request]
  have hlong : bodyLimit < request.body.length :=
    bodyLimit_lt_of_not_fitsBody htext (not_fitsBody_letters (by omega))
  have hbody : Json.parseBytes? request.body = some message := by rw [htext, parseBytes?_ofText, parse?_letters]
  have hnone : firstText? request.headers "mcp-session-id" = none := rfl
  have hvalue := (@handle_too_long router .empty request hpath hadmitted rfl hlong).1
  refine ⟨hpath, hadmitted, hbody, nofun, ?_, congrArg Response.status hvalue, ?_⟩
  · rintro id ⟨text, htext, -⟩
    rw [hnone] at htext
    cases htext
  · rintro ⟨hstatus, -⟩
    rw [hvalue] at hstatus
    exact absurd hstatus (by decide : 413 ≠ 400)

end ModelContext.Http
