import ModelContext.Proofs.Admission
import ModelContext.Proofs.AuditLog
import ModelContext.Proofs.Batches

/-!
# The log of a request

Whatever is requested, the log tells it once: after all that the handlers have noted stands one summary with the method,
the path and the status of the answer, and behind it a warning if the request was not authorized. Nothing that is
requested makes the server fail.
-/

namespace ModelContext

/-! ## What handlers note -/

/-- Is an event one of those that handlers note while all goes well? -/
def Event.isWork : Event → Bool
  | rpcFailed _ | httpFailed _ | requestAnswered .. | authenticationFailed .. => false
  | clientReady | requestCancelled | notificationIgnored _ | versionDiffers .. | actionAudited .. | sessionOpened _
  | sessionClosed _ | frameDiscarded | inputEnded => true

theorem Event.isWork_iff {event : Event} :
    event.isWork = true ↔ event.message ≠ "request summary" ∧ event.level ≠ .warn ∧ event.level ≠ .error := by
  cases event <;> simp [isWork, message, level]

namespace Logged

variable {α β : Type} {x : Logged α} {f : α → Logged β}

def Works (x : Logged α) : Prop :=
  ∀ event ∈ x.events, event.isWork = true

theorem works_of_events (h : x.events = []) : x.Works := by
  rw [Works, h]
  nofun

theorem works_pure (a : α) : (pure a : Logged α).Works :=
  works_of_events rfl

theorem works_emit {event : Event} (h : event.isWork = true) : (emit event).Works :=
  List.forall_mem_singleton.2 h

theorem Works.bind (h : x.Works) (hf : (f x.value).Works) : (x >>= f).Works :=
  List.forall_mem_append.2 ⟨h, hf⟩

theorem Works.map (h : x.Works) (g : α → β) : (g <$> x).Works := by
  rwa [Works, events_map]

end Logged

namespace Server

open Logged

theorem works_negotiate (params : Option Json) : (negotiate params).Works := by
  unfold negotiate
  cases offeredVersion? params with
  | none => exact works_pure _
  | some offered =>
    dsimp only
    split_ifs
    · exact (works_emit rfl).bind (works_pure _)
    · exact (works_pure _).bind (works_pure _)

theorem works_audited (method : String) (params : Option Json) {answer : Logged Json} (h : answer.Works) :
    (audited method params answer).Works :=
  h.bind ((works_emit rfl).bind (works_pure _))

section Answers

variable (server : Server)

theorem works_respond (id : Option Json) (method : String) (params : Option Json) :
    (server.respond id method params).Works := by
  by_cases hmethod : method = "initialize"
  · subst hmethod
    by_cases hoffers : OffersVersion params
    · rw [respond_of_version server id hoffers]
      exact (works_negotiate params).bind (works_audited _ _ (works_pure _))
    · rw [respond_of_no_version server id hoffers]
      exact works_pure _
  · obtain ⟨answer, hevents, hanswer⟩ := @respond_of_ne server id method params hmethod
    rw [hanswer]
    exact works_audited method params (works_of_events hevents)

theorem works_answerRequest (id : Id) (method : String) (params : Option Fields) :
    (server.answerRequest id method params).Works := by
  unfold answerRequest
  dsimp only
  split_ifs
  · exact works_pure _
  · exact works_pure _
  · exact server.works_respond _ method _

theorem works_notification (method : String) : (notificationEvent method).isWork = true := by
  unfold notificationEvent
  split_ifs <;> rfl

theorem works_answerMessage (message : Json) : (server.answerMessage message).Works := by
  cases message with
  | obj fields =>
    have hhandling := answerMessage_handling server fields
    generalize server.answerMessage (.obj fields) = answer at hhandling ⊢
    cases hhandling with
    | null | invalid => exact works_pure _
    | request => exact (server.works_answerRequest _ _ _).map _
    | notification => exact works_emit (works_notification _)
  | _ => exact works_pure _

theorem works_answer (message : Json) : (server.answer message).Works := by
  by_cases hbatch : ∃ items, message = .arr items
  · obtain ⟨items, rfl⟩ := hbatch
    by_cases hne : items = []
    · subst hne
      exact works_pure _
    · rw [Works, events_answer_batch server hne]
      intro event hevent
      obtain ⟨item, -, hitem⟩ := List.mem_flatMap.1 hevent
      exact server.works_answerMessage item event hitem
  · rw [answer_of_not_batch server (not_exists.1 hbatch)]
    exact server.works_answerMessage message

end Answers

end Server

namespace Http

open Logged

/-- An answer of the handlers: nothing failed on the way to it, and its status does not say so either. -/
structure IsHandled (answer : Logged Response) : Prop where
  works : answer.Works
  status : answer.value.status < 500

theorem isHandled_pure {response : Response} (h : response.status < 500) : IsHandled (pure response) :=
  ⟨works_pure _, h⟩

theorem isHandled_response {refusal : Refusal} (h : ∀ code reason, refusal ≠ .internal code reason) :
    IsHandled refusal.response := by
  cases refusal with
  | badRequest => exact isHandled_pure (by decide : 400 < 500)
  | unauthorized => exact isHandled_pure (by decide : 401 < 500)
  | notFound => exact isHandled_pure (by decide : 404 < 500)
  | internal code reason => exact absurd rfl (h code reason)

theorem isHandled_missingSession : IsHandled missingSession.response :=
  isHandled_response nofun

theorem isHandled_unknownSession (id : String) : IsHandled (unknownSession id).response :=
  isHandled_response nofun

theorem isHandled_replyResponse (reply : Json) (streaming : Bool) : IsHandled (pure (replyResponse reply streaming)) :=
  isHandled_pure (by rw [status_replyResponse]; decide)

theorem isHandled_pageResponse (method text : String) : IsHandled (pure (pageResponse method text)) := by
  refine isHandled_pure ?_
  unfold pageResponse
  split_ifs
  · exact (by decide : 200 < 500)
  · exact (by decide : 200 < 500)
  · exact (by decide : 405 < 500)

section Plans

variable (server : Server) (ids : SessionIds) (store : SessionStore) (request : Request)

theorem isHandled_dispatch (message : Json) (streaming : Bool) : IsHandled (dispatch server message streaming) where
  works := by
    refine (server.works_answer message).bind ?_
    split <;> exact works_pure _
  status := by
    rw [value_dispatch]
    rcases status_dispatched server message streaming with h | h
    · rw [h]; decide
    · rw [h]; decide

/-- The id of a new session can always be sent. -/
theorem isHandled_planHandshake (message : Json) (streaming : Bool) :
    IsHandled ((planHandshake server message streaming).run ids store).1 := by
  unfold planHandshake
  dsimp only
  split
  · rename_i reply _
    split_ifs
    · exact isHandled_dispatch server message streaming
    · dsimp only [Plan.run, SessionStore.perform, SessionStore.create]
      rw [openedResponse_of_visible reply streaming (ids.visible store.issued)]
      exact ⟨(server.works_answer message).bind ((works_emit rfl).bind (works_pure _)),
        (isHandled_replyResponse reply streaming).status⟩
  · exact isHandled_dispatch server message streaming

theorem isHandled_planBody : IsHandled ((planBody server request).run ids store).1 := by
  unfold planBody
  dsimp only
  split
  · exact isHandled_replyResponse _ _
  · rename_i message _
    split_ifs
    · exact isHandled_planHandshake server ids store message _
    · split
      · exact isHandled_missingSession
      · rename_i id _
        dsimp only [Plan.run]
        split_ifs
        · exact isHandled_dispatch server message _
        · exact isHandled_unknownSession id

theorem isHandled_planPost : IsHandled ((planPost server request).run ids store).1 := by
  unfold planPost
  split_ifs
  · exact isHandled_planBody server ids store request
  · exact isHandled_pure (by decide : 413 < 500)

theorem isHandled_planDelete : IsHandled ((planDelete request).run ids store).1 := by
  unfold planDelete
  split
  · exact isHandled_missingSession
  · rename_i id _
    dsimp only [Plan.run]
    split_ifs
    · exact ⟨(works_emit rfl).bind (works_pure _), (by decide : 204 < 500)⟩
    · exact isHandled_unknownSession id

theorem isHandled_planAdmitted : IsHandled ((planAdmitted server request).run ids store).1 := by
  unfold planAdmitted
  split_ifs
  · exact isHandled_planPost server ids store request
  · exact isHandled_planDelete ids store request
  · exact isHandled_pure (by decide)

/-- What is said to methods that are not served leaves the status as it is. -/
theorem isHandled_otherMethod {plan : Plan} (h : IsHandled (plan.run ids store).1) (method : String) :
    IsHandled ((plan.map fun answer => otherMethod method <$> answer).run ids store).1 := by
  rw [run_map]
  refine ⟨h.works.map _, ?_⟩
  rw [value_map, status_otherMethod]
  exact h.status

theorem isHandled_planEndpoint : IsHandled ((planEndpoint server request).run ids store).1 := by
  have hverdict {plan : Plan} (h : IsHandled (plan.run ids store).1) :
      IsHandled ((if request.method = "POST" ∨ request.method = "DELETE" then plan
        else plan.map fun answer => otherMethod request.method <$> answer).run ids store).1 := by
    split_ifs
    · exact h
    · exact isHandled_otherMethod ids store h request.method
  unfold planEndpoint
  refine hverdict ?_
  cases hjudge : judge server.apiToken request with
  | admitted => exact isHandled_planAdmitted server ids store request
  | unreadable => exact isHandled_pure (by decide)
  | refused refusal =>
    have hrefusal : IsHandled refusal.response := by
      rcases refused_cases hjudge with rfl | rfl
      · exact isHandled_response nofun
      · exact isHandled_response nofun
    exact hrefusal

theorem isHandled_plan : IsHandled ((plan server request).run ids store).1 := by
  unfold plan
  split_ifs
  · exact isHandled_planEndpoint server ids store request
  · split
    · exact isHandled_pageResponse _ _
    · exact isHandled_pure (by decide)

end Plans

/-! ## Paths -/

/-- Neither a query nor a fragment begins in a part of a target. -/
def IsPlain (cs : List Char) : Prop :=
  ∀ c ∈ cs, c ≠ '?' ∧ c ≠ '#'

/-- What may stand behind the path: nothing, or a query or fragment. -/
def EndsPath (rest : List Char) : Prop :=
  ∀ c ∈ rest.head?, c = '?' ∨ c = '#'

/-- The path of a target, as a server or a proxy is asked for it. -/
inductive HasPath : List Char → List Char → Prop where
  | origin {path rest : List Char} (hpath : IsPlain ('/' :: path)) (hrest : EndsPath rest) :
      HasPath ('/' :: path ++ rest) ('/' :: path)
  | absolute {scheme host path rest : List Char} (hscheme : ∀ c ∈ scheme, c ≠ ':' ∧ c ≠ '/')
      (hhost : IsPlain host ∧ '/' ∉ host) (hpath : IsPlain path) (hslash : ∀ c ∈ path.head?, c = '/')
      (hrest : EndsPath rest) :
      HasPath (scheme ++ "://".toList ++ host ++ path ++ rest) (if path.isEmpty then ['/'] else path)
  | all : HasPath ['*'] ['*']

def isPathChar (c : Char) : Bool :=
  !(c == '?' || c == '#')

theorem isPlain_iff {cs : List Char} : IsPlain cs ↔ ∀ c ∈ cs, isPathChar c = true := by
  simp [IsPlain, isPathChar]

theorem takeWhile_isPathChar {path rest : List Char} (hpath : IsPlain path) (hrest : EndsPath rest) :
    (path ++ rest).takeWhile isPathChar = path := by
  rw [List.takeWhile_append_of_pos (isPlain_iff.1 hpath)]
  cases rest with
  | nil => rw [List.takeWhile_nil, List.append_nil]
  | cons c rest =>
    rw [List.takeWhile_cons_of_neg (by rcases hrest c rfl with rfl | rfl <;> decide), List.append_nil]

/-- Behind a scheme and a host comes the path, if there is one. -/
theorem pathOf_absolute {scheme host path rest : List Char} (hscheme : ∀ c ∈ scheme, c ≠ ':' ∧ c ≠ '/')
    (hhost : IsPlain host ∧ '/' ∉ host) (hpath : IsPlain path) (hslash : ∀ c ∈ path.head?, c = '/')
    (hrest : EndsPath rest) :
    pathOf (scheme ++ "://".toList ++ host ++ path ++ rest) = if path.isEmpty then ['/'] else path := by
  -- A scheme has no colon, so the first one is that of the separator.
  have hcolon : (scheme ++ "://".toList ++ host ++ path ++ rest).dropWhile (· ≠ ':') =
      "://".toList ++ (host ++ (path ++ rest)) := by
    simp only [List.append_assoc]
    rw [List.dropWhile_append_of_pos fun c hc => decide_eq_true (hscheme c hc).1]
    rfl
  have hhead : ∀ c ∈ (path ++ rest).head?, (c ≠ '/' && isPathChar c) = false := by
    cases path with
    | nil => exact fun c hc => by rcases hrest c hc with rfl | rfl <;> decide
    | cons c path =>
      intro d hd
      rw [Option.mem_def, List.cons_append, List.head?_cons, Option.some.injEq] at hd
      rw [← hd, hslash c rfl]
      decide
  have hhost : ∀ c ∈ host, (c ≠ '/' && isPathChar c) = true := by
    intro c hc
    rw [Bool.and_eq_true, decide_eq_true_eq]
    exact ⟨ne_of_mem_of_not_mem hc hhost.2, isPlain_iff.1 hhost.1 c hc⟩
  have hpart : ((host ++ (path ++ rest)).dropWhile (fun c => c ≠ '/' && isPathChar c)).takeWhile isPathChar = path := by
    rw [List.dropWhile_append_of_pos hhost, Text.dropWhile_eq_self hhead, takeWhile_isPathChar hpath hrest]
  unfold pathOf
  split
  · rename_i tail htarget
    cases scheme with
    | nil => cases htarget
    | cons c scheme => exact absurd (List.cons.inj htarget).1 (hscheme c List.mem_cons_self).2
  · rename_i htarget
    have hlength := congrArg List.length htarget
    simp at hlength
    omega
  · rw [hcolon, Text.after?_eq_some_iff.2 rfl]
    exact congrArg (fun part : List Char => if part.isEmpty then ['/'] else part) hpart

theorem pathOf_eq {target path : List Char} (h : HasPath target path) : pathOf target = path := by
  cases h with
  | origin hpath hrest => exact takeWhile_isPathChar hpath hrest
  | absolute hscheme hhost hpath hslash hrest => exact pathOf_absolute hscheme hhost hpath hslash hrest
  | all => rfl

/-! ## What is logged -/

structure IsLogged (request : Request) (handled : List Event) (answer : Logged Response) : Prop where
  /-- After the events of the handlers comes the summary, and then a warning if the request is not authorized. -/
  events : answer.events = handled ++ .requestAnswered request.method request.path answer.value.status ::
    if answer.value.status = 401 then [.authenticationFailed request.method request.path] else []
  /-- There is no other summary. -/
  summary : answer.events.filter (·.message == "request summary") =
    [.requestAnswered request.method request.path answer.value.status]
  /-- There is no other warning. -/
  warning : answer.events.filter (·.level == .warn) =
    if answer.value.status = 401 then [.authenticationFailed request.method request.path] else []
  /-- The path is that of the target, without its query. -/
  path : ∀ path, HasPath request.target.toList path → request.path = String.ofList path
  /-- The server does not fail, and does not say so. -/
  status : answer.value.status < 500
  no_error : ∀ event ∈ answer.events, event.level ≠ .error

/-- However a router got to the sessions that it has, each request is logged like this. -/
theorem requests_logged (router : Router) (store : SessionStore) (request : Request) :
    IsLogged request ((plan router.server request).run router.ids store).1.events
      (router.handle store request).1 := by
  have hhandled := isHandled_plan router.server router.ids store request
  rw [Router.handle, run_map]
  generalize ((plan router.server request).run router.ids store).1 = answer at hhandled
  have hwork (event : Event) (hmem : event ∈ answer.events) := Event.isWork_iff.1 (hhandled.works event hmem)
  have hfilter {p : Event → Bool} (h : ∀ event ∈ answer.events, p event = false) :
      (noted request answer).events.filter p =
        (.requestAnswered request.method request.path answer.value.status ::
          if answer.value.status = 401 then [.authenticationFailed request.method request.path] else []).filter p := by
    rw [events_noted, List.filter_append, List.filter_eq_nil_iff.2 (by simpa using h), List.nil_append]
  constructor
  case events => rw [value_noted]; exact events_noted request answer
  case summary =>
    rw [value_noted, hfilter fun event hmem => beq_false_of_ne (hwork event hmem).1]
    split_ifs <;> rfl
  case warning =>
    rw [value_noted, hfilter fun event hmem => beq_false_of_ne (hwork event hmem).2.1]
    split_ifs <;> rfl
  case path => exact fun path hpath => by rw [Request.path, pathOf_eq hpath]
  case status => rw [value_noted]; exact hhandled.status
  case no_error =>
    intro event hmem
    rw [events_noted, List.mem_append] at hmem
    rcases hmem with hmem | hmem
    · exact (hwork event hmem).2.2
    · split_ifs at hmem
      · rcases List.mem_pair.1 hmem with rfl | rfl <;> exact Level.noConfusion
      · rw [List.mem_singleton.1 hmem]
        exact Level.noConfusion

end Http

end ModelContext
