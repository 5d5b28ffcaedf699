import ModelContext.Proofs.ClientSessions
import ModelContext.Proofs.KeptMembers
import ModelContext.Proofs.TakenRequests

/-!
# The sessions that a client leaves open

A client that does its handshake again is given a new session, and keeps to that one from then on. When it closes, the
new session is deleted, and the ones before it stay open, as do those of other clients.
-/

namespace ModelContext

open Json Http

namespace WebClient

/-- All that went over a wire: every request, with its response if one came. -/
abbrev Record : Type :=
  List (Request × Option Response)

abbrev recordedTo (client : WebClient) (router : Router) : Transport (WebLink (Record × SessionStore)) :=
  client.transport (Wire.toRouter router).recording

def handedOver (record : Record) : List String :=
  record.filterMap fun exchange => exchange.2.bind handedOut?

/-- Every request carries the id that was handed out last, or none before there is one. From then on all requests are
answered, and none is told that its session is missing or unknown, which are the statuses 400 and 404. -/
def CarriesNewest (record : Record) : Prop :=
  ∀ earlier exchange later, record = earlier ++ exchange :: later →
    values exchange.1.headers "mcp-session-id" = (handedOver earlier).getLast?.toList.map Bytes.ofText ∧
      (handedOver earlier ≠ [] →
        ∃ response, exchange.2 = some response ∧ response.status ≠ 400 ∧ response.status ≠ 404)

theorem handedOver_concat (record : Record) (request : Request) (response : Response) :
    handedOver (record ++ [(request, some response)]) = handedOver record ++ (handedOut? response).toList := by
  rw [handedOver, List.filterMap_append, ← handedOver, List.filterMap_cons, Option.bind_some]
  cases handedOut? response <;> rfl

theorem CarriesNewest.concat {record : Record} (h : CarriesNewest record) {request : Request}
    {response : Response}
    (hsession : values request.headers sessionHeader = (handedOver record).getLast?.toList.map Bytes.ofText)
    (hstatus : handedOver record ≠ [] → response.status ≠ 400 ∧ response.status ≠ 404) :
    CarriesNewest (record ++ [(request, some response)]) := by
  intro earlier exchange later hrecord
  cases later using List.reverseRecOn with
  | nil =>
    obtain ⟨rfl, rfl⟩ := List.append_singleton_inj.1 hrecord
    exact ⟨hsession, fun hne => ⟨response, rfl, hstatus hne⟩⟩
  | append_singleton later last =>
    rw [← List.cons_append, ← List.append_assoc] at hrecord
    obtain ⟨rfl, -⟩ := List.append_singleton_inj.1 hrecord
    exact h earlier exchange later rfl

/-! ## What holds between two uses of a link -/

/-- A link to a router whose sessions were those of `store` at first: each id that was handed out since has opened a
session beside them, and the last of them is held. -/
structure Tracks (router : Router) (client : WebClient) (store : SessionStore)
    (link : WebLink (Record × SessionStore)) : Prop where
  handed : handedOver link.wire.1 =
    (List.range' store.issued (handedOver link.wire.1).length).map router.ids.text
  sessions : link.wire.2 =
    { issued := store.issued + (handedOver link.wire.1).length, live := (handedOver link.wire.1).reverse ++ store.live }
  held : link.session = (handedOver link.wire.1).getLast?
  admits : handedOver link.wire.1 ≠ [] → Admits router.server client
  carried : CarriesNewest link.wire.1

theorem tracks_start (router : Router) (client : WebClient) (store : SessionStore) :
    Tracks router client store { session := none, wire := ([], store) } where
  handed := rfl
  sessions := rfl
  held := rfl
  admits h := absurd rfl h
  carried earlier exchange later h := absurd h (by simp)

section Tracks

variable {router : Router} {client : WebClient} {store : SessionStore}
  {link : WebLink (Record × SessionStore)} {request : Request} {response : Response}
  {method : String} {body : Bytes} {id : String} {message : Json}

/-- The id that is held can stand in a header, and its session is open. -/
theorem Tracks.of_held (h : Tracks router client store link) (hid : link.session = some id) :
    IsSessionId id ∧ id ∈ link.wire.2.live ∧ Admits router.server client := by
  rw [h.held] at hid
  have hmem : id ∈ handedOver link.wire.1 := List.mem_of_getLast? hid
  refine ⟨?_, ?_, h.admits (List.ne_nil_of_mem hmem)⟩
  · rw [h.handed] at hmem
    obtain ⟨n, -, rfl⟩ := List.mem_map.1 hmem
    exact ⟨router.ids.ne_empty n, router.ids.visible n⟩
  · rw [h.sessions]
    exact List.mem_append_left _ (List.mem_reverse.2 hmem)

theorem Tracks.arrives (h : Tracks router client store link) : Arrives link.session := by
  intro id hid
  exact congrArg Header.value (@received_ofText sessionHeader id (h.of_held hid).1.visible)

theorem Tracks.carried_concat (h : Tracks router client store link)
    (hrequest : client.IsRequest link.session method body request)
    (hstatus : link.session ≠ none → response.status ≠ 400 ∧ response.status ≠ 404) :
    CarriesNewest (link.wire.1 ++ [(request, some response)]) := by
  have hheld : handedOver link.wire.1 ≠ [] → link.session ≠ none := by
    rw [h.held]
    exact mt List.getLast?_eq_none_iff.1
  refine h.carried.concat ?_ fun hne => hstatus (hheld hne)
  rw [hrequest.session, h.held]

/-- A request that opens no session is noted. -/
theorem Tracks.kept (h : Tracks router client store link)
    (hrequest : client.IsRequest link.session method body request) (hnone : handedOut? response = none)
    (hstatus : link.session ≠ none → response.status ≠ 400 ∧ response.status ≠ 404) :
    Tracks router client store
      { link with wire := (link.wire.1 ++ [(request, some response)], link.wire.2) } := by
  have hsame : handedOver (link.wire.1 ++ [(request, some response)]) = handedOver link.wire.1 := by
    rw [handedOver_concat, hnone, Option.toList_none, List.append_nil]
  constructor
  case handed => exact hsame.symm ▸ h.handed
  case sessions => exact hsame.symm ▸ h.sessions
  case held => exact hsame.symm ▸ h.held
  case admits => exact hsame.symm ▸ h.admits
  case carried => exact h.carried_concat hrequest hstatus

/-- A request that opens a session is noted with it. -/
theorem Tracks.opened (h : Tracks router client store link)
    (hrequest : client.IsRequest link.session method body request)
    (hid : handedOut? response = some (router.ids.text link.wire.2.issued)) (hadmits : Admits router.server client)
    (hstatus : link.session ≠ none → response.status ≠ 400 ∧ response.status ≠ 404) :
    Tracks router client store
      { session := some (router.ids.text link.wire.2.issued)
        wire := (link.wire.1 ++ [(request, some response)], (link.wire.2.create router.ids).2) } := by
  have hissued : link.wire.2.issued = store.issued + (handedOver link.wire.1).length := by
    rw [h.sessions]
  have hmore : handedOver (link.wire.1 ++ [(request, some response)]) =
      handedOver link.wire.1 ++ [router.ids.text link.wire.2.issued] := by
    rw [handedOver_concat, hid, Option.toList_some]
  constructor
  case handed =>
    dsimp only
    rw [hmore, List.length_append, List.length_singleton, List.range'_1_concat, List.map_append, ← h.handed, hissued]
    rfl
  case sessions =>
    dsimp only
    rw [hmore, List.length_append, List.length_singleton, List.reverse_append, List.reverse_singleton,
      List.append_assoc, SessionStore.create, hissued, h.sessions]
    rfl
  case held =>
    dsimp only
    rw [hmore, List.getLast?_concat]
  case admits => exact fun _ => hadmits
  case carried => exact h.carried_concat hrequest hstatus

/-! ## Messages that are sent -/

theorem send_recording (hpost : client.post link.session message = .ok request) :
    client.send (Wire.toRouter router).recording message link =
      (answerOf (router.handle link.wire.2 request).1.value.received,
        { session := (handedOut? (router.handle link.wire.2 request).1.value).or link.session
          wire := (link.wire.1 ++ [(request, some (router.handle link.wire.2 request).1.value)],
            (router.handle link.wire.2 request).2) }) := by
  unfold send
  rw [hpost]
  dsimp only [Wire.recording, Wire.toRouter]
  rw [sessionAfter_received]

/-- A message whose text is read as a handshake that succeeds. -/
def Opens (server : Server) (message : Json) : Prop :=
  ∃ read, parse? message.text = some read ∧ opensAnswered server read = true

/-- What is posted in the session that is held is not refused for it. -/
theorem Tracks.status_posted (h : Tracks router client store link)
    (hrequest : client.IsRequest link.session "POST" body request) (hheld : link.session ≠ none) :
    (router.handle link.wire.2 request).1.value.status = 200 ∨
      (router.handle link.wire.2 request).1.value.status = 202 ∨
      (router.handle link.wire.2 request).1.value.status = 413 := by
  obtain ⟨id, hid⟩ := Option.ne_none_iff_exists'.1 hheld
  obtain ⟨hsession, hlive, hadmits⟩ := h.of_held hid
  obtain ⟨hpath, hadmitted⟩ := hadmits.takes hrequest
  rw [hid] at hrequest
  exact status_posted_cases hpath hadmitted hrequest.method (hrequest.names hsession) hlive

/-- A message opens a session, or it leaves the sessions as they are. -/
theorem Tracks.send (h : Tracks router client store link) (message : Json) {after : WebLink (Record × SessionStore)}
    (hafter : (client.send (Wire.toRouter router).recording message link).2 = after) :
    Tracks router client store after ∧
      (handedOver after.wire.1 = handedOver link.wire.1 ∨
        Opens router.server message ∧ ∃ id, handedOver after.wire.1 = handedOver link.wire.1 ++ [id]) := by
  subst hafter
  by_cases hask : client.CanAsk
  · obtain ⟨request, hpost, hrequest⟩ := isRequest_post hask h.arrives message
    have hstatus : link.session ≠ none → (router.handle link.wire.2 request).1.value.status ≠ 400 ∧
        (router.handle link.wire.2 request).1.value.status ≠ 404 := by
      intro hheld
      have := h.status_posted hrequest hheld
      omega
    rw [send_recording hpost]
    dsimp only
    obtain ⟨hnone, hstore⟩ | ⟨hpath, hadmitted, ⟨read, hbody, hopens⟩, hid, hstore⟩ :=
      @handle_posted_cases router link.wire.2 request hrequest.method
    · rw [hstore, handedOver_concat, hnone, Option.none_or, Option.toList_none, List.append_nil]
      exact ⟨h.kept hrequest hnone hstatus, .inl rfl⟩
    · rw [hstore, handedOver_concat, hid, Option.some_or, Option.toList_some]
      rw [hrequest.body, parseBytes?_ofText] at hbody
      exact ⟨h.opened hrequest hid (hrequest.admits hask hpath hadmitted) hstatus, .inr ⟨⟨read, hbody, hopens⟩, _, rfl⟩⟩
  · have hsend : client.send (Wire.toRouter router).recording message link = (.error .http, link) := by
      rw [WebClient.send, post_of_not_canAsk hask]
    rw [hsend]
    exact ⟨h, .inl rfl⟩

/-- A message that a server takes in the session that is held, or as a handshake, is answered as it is read. -/
theorem Tracks.answered (h : Tracks router client store link) (hadmits : Admits router.server client) {message : Json}
    (hfits : FitsBody message) (hsession : message.get? "method" = some (.str "initialize") ∨ link.session ≠ none)
    {read : Json}
    (hread : parse? message.text = some read) (hmethod : read.get? "method" = message.get? "method") :
    (client.send (Wire.toRouter router).recording message link).1 = .ok (router.server.answer read).value ∧
      (opensAnswered router.server read = true → ∃ id,
        handedOver (client.send (Wire.toRouter router).recording message link).2.wire.1 =
          handedOver link.wire.1 ++ [id]) := by
  obtain ⟨request, hpost, hrequest⟩ := isRequest_post hadmits.canAsk h.arrives message
  obtain ⟨hpath, hadmitted⟩ := hadmits.takes hrequest
  have hposts : Posts router.server link.wire.2 message request := by
    refine ⟨hrequest.method, hpath, hadmitted, hrequest.body, hfits, hsession.imp_right fun hheld => ?_⟩
    obtain ⟨id, hid⟩ := Option.ne_none_iff_exists'.1 hheld
    obtain ⟨hid', hlive, -⟩ := h.of_held hid
    rw [hid] at hrequest
    exact ⟨id, hrequest.names hid', List.contains_iff_mem.2 hlive⟩
  obtain ⟨hvalue, -⟩ := @handle_posted router.server router.ids link.wire.2 message request hposts read hread hmethod
  have hsame : Router.mk router.server router.ids = router := rfl
  rw [hsame] at hvalue
  rw [send_recording hpost]
  dsimp only
  rw [handedOver_concat, hvalue, received_posted, answerOf_posted]
  refine ⟨rfl, fun hopens => ⟨router.ids.text link.wire.2.issued, ?_⟩⟩
  obtain ⟨reply, hreply, -⟩ := (Option.any_eq_true _ _).1 (Bool.and_eq_true_iff.1 hopens).2
  rw [posted, if_pos hopens, dispatched, hreply]
  dsimp only
  rw [handedOut?_opened reply _ (router.ids.visible _), Option.toList_some]

/-- A message that a server does not take comes to an error. -/
theorem Tracks.turned_away (h : Tracks router client store link) (hadmits : ¬Admits router.server client)
    (message : Json) : ∃ e, (client.send (Wire.toRouter router).recording message link).1 = .error e := by
  by_cases hask : client.CanAsk
  · obtain ⟨request, hpost, hrequest⟩ := isRequest_post hask h.arrives message
    have hfail := @isSuccess_of_not_admitted router link.wire.2 request (.inl hrequest.method)
      fun hadmitted => hadmits (hrequest.admits hask hadmitted.1 hadmitted.2)
    rw [send_recording hpost]
    exact ⟨_, if_pos hfail⟩
  · refine ⟨.http, ?_⟩
    rw [WebClient.send, post_of_not_canAsk hask]

end Tracks

/-! ## Requests of a session -/

open Session

section Sessions

variable {router : Router} {client : WebClient} {store : SessionStore}
  {s s' : Session (WebLink (Record × SessionStore))}

/-- Only a handshake opens a session, whatever the parameters of a request. -/
theorem not_opens_request (server : Server) (id : Int) {method : String} (hmethod : method ≠ "initialize")
    (params : Option Json) : ¬Opens server (requestJson (.int id) method params) := by
  rintro ⟨read, hread, hopens⟩
  rw [opensAnswered, Bool.and_eq_true, opensSession_eq_true_iff, (parse?_requestJson_keeps hread).1] at hopens
  exact hmethod (Json.str.inj (Option.some.inj hopens.1))

theorem Tracks.asks (h : Tracks router client store s.link) (hasks : Asks (client.recordedTo router) s s') :
    Tracks router client store s'.link ∧ handedOver s'.link.wire.1 = handedOver s.link.wire.1 := by
  induction hasks with
  | refl => exact ⟨h, rfl⟩
  | @ask s s' hknown method hmethod params _ ih =>
    obtain ⟨htracks, hsame | ⟨hopens, -⟩⟩ := h.send (requestJson (.int s.nextId.toInt) method params) rfl
    · obtain ⟨hlast, hkept⟩ := ih htracks
      exact ⟨hlast, hkept.trans hsame⟩
    · exact absurd hopens (not_opens_request _ _ hmethod params)

/-! ## Handshakes -/

/-- A greeting is answered by a server that takes it. -/
theorem Tracks.greeted (h : Tracks router client store s.link) (hadmits : Admits router.server client) :
    (askWelcome (client.recordedTo router) s).1 = .ok (router.server.answer (greeting s)).value ∧
      ∃ id, handedOver (askWelcome (client.recordedTo router) s).2.wire.1 = handedOver s.link.wire.1 ++ [id] := by
  have hid := fitsInt64_toInt s.nextId
  obtain ⟨read, hread, hmethod, hanswer⟩ := (portable_handshake router.server hid).read
  obtain ⟨hreply, hopened⟩ :=
    h.answered hadmits (fitsBody_handshake hid) (.inl (get?_method_requestJson _ _ _)) hread hmethod
  rw [hanswer] at hreply
  refine ⟨hreply, hopened ?_⟩
  rw [opensAnswered_congr hmethod hanswer]
  exact opensAnswered_handshake router.server hid

/-- The answer to a greeting welcomes the client. -/
theorem isWelcome_greeting (server : Server) (s : Session (WebLink (Record × SessionStore))) :
    IsWelcome s.nextId.toInt (.ok (server.answer (greeting s)).value) (server.welcome Server.protocolVersion) :=
  ⟨readAnswer_eq_ok_iff.1 (outcomeOf_handshake server (fitsInt64_toInt s.nextId)),
    (by decide : Server.protocolVersion ∈ _)⟩

/-- A handshake is welcomed exactly if it opens a session. -/
theorem Tracks.welcomed_iff (h : Tracks router client store s.link) {answer : Except ClientError (Option Json)}
    {link : WebLink (Record × SessionStore)} (hask : askWelcome (client.recordedTo router) s = (answer, link)) :
    (∃ result, IsWelcome s.nextId.toInt answer result) ↔
      ∃ id, handedOver link.wire.1 = handedOver s.link.wire.1 ++ [id] := by
  have hanswer : (client.send (Wire.toRouter router).recording (greeting s) s.link).1 = answer := congrArg Prod.fst hask
  have hlink : (client.send (Wire.toRouter router).recording (greeting s) s.link).2 = link := congrArg Prod.snd hask
  by_cases hadmits : Admits router.server client
  · obtain ⟨hreply, hopened⟩ := h.greeted hadmits
    rw [hask] at hreply hopened
    dsimp only at hreply
    rw [hreply]
    exact iff_of_true ⟨_, isWelcome_greeting router.server s⟩ hopened
  · obtain ⟨e, he⟩ := h.turned_away hadmits (greeting s)
    refine iff_of_false ?_ ?_
    · rintro ⟨result, ⟨message, -, hmessage, -⟩, -⟩
      cases (he.symm.trans hanswer).trans hmessage
    · rintro ⟨id, hid⟩
      exact hadmits ((h.send (greeting s) hlink).1.admits (by rw [hid]; simp))

/-- In an open session the server can be told that it was accepted, which opens no other one. -/
theorem Tracks.told {link : WebLink (Record × SessionStore)} (h : Tracks router client store link)
    (hheld : link.session ≠ none) :
    (∃ reply, (client.send (Wire.toRouter router).recording ready link).1 = .ok reply) ∧
      Tracks router client store (client.send (Wire.toRouter router).recording ready link).2 ∧
      handedOver (client.send (Wire.toRouter router).recording ready link).2.wire.1 = handedOver link.wire.1 := by
  obtain ⟨id, hid⟩ := Option.ne_none_iff_exists'.1 hheld
  obtain ⟨read, hread, hmethod, -⟩ := (portable_ready router.server).read
  obtain ⟨htracks, hcases⟩ := h.send ready rfl
  refine ⟨⟨_, (h.answered (h.of_held hid).2.2 fitsBody_ready (.inr hheld) hread hmethod).1⟩, htracks,
    hcases.resolve_right ?_⟩
  rintro ⟨⟨other, hother, hopens⟩, -⟩
  cases Option.some.inj (hread.symm.trans hother)
  rw [opensAnswered, Bool.and_eq_true, opensSession_eq_true_iff, hmethod] at hopens
  exact absurd hopens.1 (by decide)

/-- Who is welcomed holds a session, in which the server can be told so. -/
theorem Tracks.told_of_welcome (h : Tracks router client store s.link)
    (hwelcome : ∃ result, IsWelcome s.nextId.toInt (askWelcome (client.recordedTo router) s).1 result) :
    (∃ reply, (tellReady (client.recordedTo router) s).1 = .ok reply) ∧
      Tracks router client store (tellReady (client.recordedTo router) s).2 ∧
      (handedOver (tellReady (client.recordedTo router) s).2.wire.1).length =
        (handedOver s.link.wire.1).length + 1 := by
  have htell : tellReady (client.recordedTo router) s =
      client.send (Wire.toRouter router).recording ready (askWelcome (client.recordedTo router) s).2 := rfl
  cases hask : askWelcome (client.recordedTo router) s with
  | mk answer link =>
    rw [hask] at hwelcome htell
    obtain ⟨htracks, -⟩ := h.send (greeting s) (congrArg Prod.snd hask)
    obtain ⟨id, hid⟩ := (h.welcomed_iff hask).1 hwelcome
    have hheld : link.session ≠ none := by
      rw [htracks.held, hid, List.getLast?_concat]
      exact nofun
    obtain ⟨hreply, hlast, hsame⟩ := htracks.told hheld
    rw [htell]
    refine ⟨hreply, hlast, ?_⟩
    rw [hsame, hid, List.length_append, List.length_singleton]

/-- A handshake succeeds exactly if it opens a session. -/
theorem Tracks.handshake (h : Tracks router client store s.link) {outcome : Except ClientError InitializeResult}
    (hrun : s.handshake (client.recordedTo router) = (outcome, s')) :
    Tracks router client store s'.link ∧ (handedOver s'.link.wire.1).length =
      (handedOver s.link.wire.1).length + outcome.toOption.toList.length := by
  have hshaken := handshaken (client.recordedTo router) s
  rw [hrun] at hshaken
  cases hshaken with
  | refused hrefused =>
    cases hask : askWelcome (client.recordedTo router) s with
    | mk answer link =>
      rw [hask] at hrefused
      obtain ⟨htracks, hcases⟩ := h.send (greeting s) (congrArg Prod.snd hask)
      refine ⟨htracks, congrArg List.length (hcases.resolve_right ?_)⟩
      rintro ⟨-, hopened⟩
      obtain ⟨result, hresult⟩ := (h.welcomed_iff hask).2 hopened
      exact hrefused result hresult
  | untold hwelcome hfailed =>
    obtain ⟨⟨reply, hreply⟩, -⟩ := h.told_of_welcome ⟨_, hwelcome⟩
    cases hfailed.symm.trans hreply
  | done hwelcome _ => exact (h.told_of_welcome ⟨_, hwelcome⟩).2

/-- A client that is admitted is welcomed. -/
theorem Tracks.succeeds (h : Tracks router client store s.link) (hadmits : Admits router.server client)
    {outcome : Except ClientError InitializeResult} (hrun : s.handshake (client.recordedTo router) = (outcome, s')) :
    ∃ result, outcome = .ok result := by
  have hwelcome : IsWelcome s.nextId.toInt (askWelcome (client.recordedTo router) s).1
      (router.server.welcome Server.protocolVersion) := by
    rw [(h.greeted hadmits).1]
    exact isWelcome_greeting router.server s
  have hshaken := handshaken (client.recordedTo router) s
  rw [hrun] at hshaken
  cases hshaken with
  | refused hrefused => exact absurd hwelcome (hrefused _)
  | untold _ hfailed =>
    obtain ⟨⟨reply, hreply⟩, -⟩ := h.told_of_welcome ⟨_, hwelcome⟩
    cases hfailed.symm.trans hreply
  | done => exact ⟨_, rfl⟩

/-! ## Runs -/

/-- A call that leaves the session open opens another one on the server exactly if it is a handshake that succeeds. -/
theorem Tracks.perform (h : Tracks router client store s.link) {budget : Nat} {call : Call} (hclose : call ≠ .close)
    {outcome : Except ClientError Answer}
    (hrun : s.perform (client.recordedTo router) budget call = some (outcome, s')) :
    Tracks router client store s'.link ∧ (handedOver s'.link.wire.1).length =
      (handedOver s.link.wire.1).length + (welcome? outcome).toList.length := by
  by_cases hhandshake : call = .handshake
  · subst hhandshake
    cases hshake : s.handshake (client.recordedTo router) with
    | mk result after =>
      rw [Session.perform, hshake] at hrun
      cases hrun
      obtain ⟨htracks, hopened⟩ := h.handshake hshake
      refine ⟨htracks, hopened.trans ?_⟩
      cases result <;> rfl
  · obtain ⟨hasks, hnone⟩ := asks_perform hhandshake hclose hrun
    obtain ⟨htracks, hsame⟩ := h.asks hasks
    exact ⟨htracks, by rw [hsame, hnone]; rfl⟩

theorem Tracks.performAll (h : Tracks router client store s.link) {budget : Nat} {calls : List Call}
    (hclose : .close ∉ calls) {outcomes : List (Except ClientError Answer)}
    (hrun : s.performAll (client.recordedTo router) budget calls = some (outcomes, s')) :
    Tracks router client store s'.link ∧ (handedOver s'.link.wire.1).length =
      (handedOver s.link.wire.1).length + (outcomes.filterMap welcome?).length := by
  induction calls generalizing s outcomes with
  | nil =>
    cases hrun
    exact ⟨h, rfl⟩
  | cons call later ih =>
    obtain ⟨⟨outcome, now⟩, hcall, hrun⟩ := Option.bind_eq_some_iff.1 hrun
    obtain ⟨⟨rest, last⟩, hlater, hrun⟩ := Option.bind_eq_some_iff.1 hrun
    cases hrun
    rw [List.mem_cons, not_or] at hclose
    obtain ⟨hnow, hopened⟩ := h.perform (Ne.symm hclose.1) hcall
    obtain ⟨hlast, hmore⟩ := ih hnow hclose.2 hlater
    refine ⟨hlast, ?_⟩
    rw [hmore, hopened, Nat.add_assoc]
    cases hwelcome : welcome? outcome with
    | none => rw [List.filterMap_cons_none hwelcome, Option.toList_none, List.length_nil, Nat.zero_add]
    | some result =>
      rw [List.filterMap_cons_some hwelcome, Option.toList_some, List.length_singleton, List.length_cons,
        Nat.add_comm 1]

/-- Closing deletes the session that is held. -/
theorem Tracks.close {link after : WebLink (Record × SessionStore)} (h : Tracks router client store link)
    {outcome : Except ClientError Unit}
    (hrun : client.close (Wire.toRouter router).recording link = (outcome, after)) :
    outcome = .ok () ∧ handedOver after.wire.1 = handedOver link.wire.1 ∧ CarriesNewest after.wire.1 ∧
      after.wire.2 = { issued := store.issued + (handedOver link.wire.1).length
                       live := (handedOver link.wire.1).dropLast.reverse ++ store.live } := by
  cases hheld : link.session with
  | none =>
    have hnone : handedOver link.wire.1 = [] := by
      rw [h.held] at hheld
      exact List.getLast?_eq_none_iff.1 hheld
    rw [WebClient.close, hheld] at hrun
    cases hrun
    refine ⟨rfl, rfl, h.carried, ?_⟩
    rw [h.sessions, hnone]
    rfl
  | some id =>
    obtain ⟨hid, hlive, hadmits⟩ := h.of_held hheld
    obtain ⟨request, hdelete, hrequest⟩ := isRequest_delete hadmits.canAsk (hheld ▸ h.arrives)
    obtain ⟨hpath, hadmitted⟩ := hadmits.takes hrequest
    obtain ⟨hvalue, hstore⟩ := handle_deleted_live hpath hadmitted hrequest.method (hrequest.names hid) hlive
    rw [WebClient.close, hheld] at hrun
    dsimp only at hrun
    rw [hdelete] at hrun
    dsimp only [Wire.recording, Wire.toRouter] at hrun
    rw [hvalue, hstore] at hrun
    cases hrun
    have hnothing : handedOut? (.bare 204) = none := rfl
    refine ⟨rfl, ?_, ?_, ?_⟩
    · dsimp only
      rw [handedOver_concat, hnothing, Option.toList_none, List.append_nil]
    · exact h.carried_concat (hheld.symm ▸ hrequest) fun _ => (by decide : 204 ≠ 400 ∧ 204 ≠ 404)
    · obtain ⟨earlier, hearlier⟩ : ∃ earlier, handedOver link.wire.1 = earlier ++ [id] :=
        List.getLast?_eq_some_iff.1 (h.held.symm.trans hheld)
      dsimp only [SessionStore.remove]
      rw [h.sessions, hearlier, List.reverse_concat, List.cons_append, List.erase_cons_head, List.dropLast_concat]

/-- A client that is admitted can do its handshake again and again. -/
theorem Tracks.succeed_again (h : Tracks router client store s.link) (hadmits : Admits router.server client)
    (budget count : Nat) :
    ∃ outcomes s', s.performAll (client.recordedTo router) budget
        (List.replicate count .handshake ++ [.close]) = some (outcomes, s') ∧
      (outcomes.filterMap welcome?).length = count := by
  induction count generalizing s with
  | zero =>
    refine ⟨_, _, rfl, ?_⟩
    cases (s.close (client.recordedTo router)).1 <;> rfl
  | succ count ih =>
    cases hshake : s.handshake (client.recordedTo router) with
    | mk outcome now =>
      obtain ⟨result, rfl⟩ := h.succeeds hadmits hshake
      obtain ⟨later, last, hrun, hcount⟩ := ih (h.handshake hshake).1
      have hcall : s.perform (client.recordedTo router) budget .handshake =
          some (.ok (.welcome result), now) := by
        rw [Session.perform, hshake]
        rfl
      exact ⟨.ok (.welcome result) :: later, last, performAll_cons hcall hrun, congrArg (· + 1) hcount⟩

/-- A server that asks for no token takes the requests to its endpoint. -/
theorem admits_endpoint (server : Server) (hopen : server.apiToken = none) :
    Admits server { endpoint := some endpointPath, token := none } where
  canAsk := ⟨nofun, nofun⟩
  path request htarget := by
    rw [Request.path, ← Option.some.inj htarget]
    decide
  authorized request hvalues := by
    have hnone : values request.headers "authorization" = [] := hvalues
    rw [judge, firstValue?, hnone, hopen]
    rfl

end Sessions

/-! ## A session and the ones before it -/

/-- What a client leaves that makes calls with the given outcomes and then closes. The router had the sessions in
`store` before, has those in `after` afterwards, and `record` is all that went over the wire. -/
structure LeavesSuperseded (store : SessionStore) (outcomes : List (Except ClientError Answer))
    (record : Record) (after : SessionStore) : Prop where
  /-- An id is handed out for each handshake that succeeds, and for nothing else. -/
  opened : (handedOver record).length = (outcomes.filterMap welcome?).length
  /-- The ids are new. -/
  nodup : (handedOver record).Nodup
  fresh : ∀ id ∈ handedOver record, store.contains id = false
  carried : CarriesNewest record
  closed : outcomes.getLast? = some (.ok .done)
  /-- Of the ids that were handed out only the last is deleted, and no other id. -/
  sessions : after.live = (handedOver record).dropLast.reverse ++ store.live

/-- The ids of live sessions were issued. -/
theorem issued_of_live {ids : SessionIds} {past : List Exchange} {store : SessionStore} (h : Consistent ids store past)
    {id : String} (hid : id ∈ store.live) : ∃ n < store.issued, id = ids.text n := by
  obtain ⟨⟨exchange, hexchange, hhanded⟩, -⟩ := (h.live_iff id).1 hid
  exact h.handed exchange hexchange id hhanded

/-- Whatever the router was asked before, and whichever calls a client makes before it closes. -/
theorem leaves_superseded (router : Router) (client : WebClient) (history : List Request) (budget : Nat)
    {calls : List Call} (hclose : .close ∉ calls) {outcomes : List (Except ClientError Answer)}
    {s : Session (WebLink (Record × SessionStore))}
    (hrun : performAll (client.recordedTo router) budget
      (start { session := none, wire := ([], (router.handleAll .empty history).2) }) (calls ++ [.close]) =
        some (outcomes, s)) :
    LeavesSuperseded (router.handleAll .empty history).2 outcomes s.link.wire.1 s.link.wire.2 := by
  have hcons : Consistent router.ids (router.handleAll .empty history).2 _ :=
    consistent_handleAll router (consistent_empty router.ids) history
  generalize (router.handleAll .empty history).2 = store at hcons hrun ⊢
  obtain ⟨earlier, now, last, hcalls, hlast, rfl⟩ := performAll_concat hrun
  obtain ⟨htracks, hopened⟩ := (tracks_start router client store).performAll hclose hcalls
  cases hshut : client.close (Wire.toRouter router).recording now.link with
  | mk outcome after =>
    obtain ⟨rfl, hsame, hcarried, hafter⟩ := htracks.close hshut
    have hfinal : answering (fun _ => .done) (now.close (client.recordedTo router)) =
        (.ok .done, { now with server := none, link := after }) := by
      have hunder : (client.recordedTo router).close now.link = (.ok (), after) := hshut
      rw [Session.close, hunder]
      rfl
    rw [Session.perform, hfinal] at hlast
    cases hlast
    have hnone : welcome? (.ok .done) = none := rfl
    have hids := htracks.handed
    rw [← hsame] at hopened hids hafter
    constructor
    case opened =>
      rw [List.filterMap_append, List.filterMap_cons_none hnone, List.filterMap_nil, List.append_nil, hopened]
      exact Nat.zero_add _
    case nodup =>
      rw [hids]
      exact (List.nodup_range').map fun m n h => router.ids.injective h
    case fresh =>
      intro id hid
      rw [hids] at hid
      obtain ⟨n, hn, rfl⟩ := List.mem_map.1 hid
      rw [SessionStore.contains, Bool.eq_false_iff]
      intro hlive
      obtain ⟨m, hm, hsame⟩ := issued_of_live hcons (List.contains_iff_mem.1 hlive)
      have := (List.mem_range'_1.1 hn).1
      rw [router.ids.injective hsame] at this
      omega
    case carried => exact hcarried
    case closed => exact List.getLast?_concat
    case sessions => exact congrArg SessionStore.live hafter

theorem leaves_superseded_twice :
    ∃ outcomes s,
      performAll (recordedTo { endpoint := some "/mcp", token := none } ⟨⟨"demo", none⟩, .numbered⟩) 1
          (start { session := none, wire := ([], (Router.handleAll ⟨⟨"demo", none⟩, .numbered⟩ .empty []).2) })
          ([.handshake, .handshake] ++ [.close]) = some (outcomes, s) ∧
        (outcomes.filterMap welcome?).length = 2 ∧
        LeavesSuperseded (Router.handleAll ⟨⟨"demo", none⟩, .numbered⟩ .empty []).2 outcomes s.link.wire.1
          s.link.wire.2 := by
  have hstart := tracks_start ⟨⟨"demo", none⟩, .numbered⟩ { endpoint := some "/mcp", token := none } .empty
  obtain ⟨outcomes, s, hrun, hwelcomes⟩ :=
    @Tracks.succeed_again _ _ _ (start _) hstart (admits_endpoint ⟨"demo", none⟩ rfl) 1 2
  exact ⟨outcomes, s, hrun, hwelcomes, leaves_superseded _ _ [] 1 (by decide) hrun⟩

end WebClient

end ModelContext
