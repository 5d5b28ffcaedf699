import ModelContext.Proofs.HeldSession

/-!
# How a router takes the requests of a client

A server takes all requests of a client or none of them, since they go to one address with one token. A message that is
posted opens a session or leaves the sessions as they are. In a live session it is answered, if it is not too long, and
a session that is live can be deleted.
-/

namespace ModelContext

namespace Text

variable {α : Type} {p : α → Bool} {x : α} {xs : List α}

theorem mem_dropWhile_or (hx : x ∈ xs) : p x = true ∨ x ∈ xs.dropWhile p := by
  rw [← List.takeWhile_append_dropWhile (p := p) (l := xs), List.mem_append] at hx
  exact hx.imp_left List.mem_takeWhile_imp

/-- What is cut off at the ends of a list satisfies the test. -/
theorem mem_strip_or (hx : x ∈ xs) : p x = true ∨ x ∈ strip p xs := by
  refine (mem_dropWhile_or hx).elim .inl fun hrest => ?_
  refine (mem_dropWhile_or (List.mem_reverse.2 hrest)).imp_right fun hmem => ?_
  rw [strip, dropEndWhile]
  exact List.mem_reverse.2 hmem

end Text

open Http

/-! ## Ids in responses -/

namespace Http

theorem values_received (headers : List Header) (name : String) :
    values (headers.map Header.received) name = (values headers name).map (Text.strip isBlankByte) := by
  rw [values, values, List.filter_map, List.map_map, List.map_map]
  rfl

/-- A header that cannot be read is no text without the blanks at its ends either. -/
theorem headerText?_strip_eq_none {value : Bytes} (h : headerText? value = none) :
    headerText? (Text.strip isBlankByte value) = none := by
  have hnot : ¬value.all isTextByte = true := fun hall => by
    rw [headerText?, if_pos hall] at h
    cases h
  refine if_neg fun hall => hnot (List.all_eq_true.2 fun b hb => ?_)
  rcases Text.mem_strip_or (p := isBlankByte) hb with hblank | hb
  · rw [isBlankByte, Bool.or_eq_true, beq_iff_eq, beq_iff_eq] at hblank
    rw [isTextByte_iff]
    omega
  · exact List.all_eq_true.1 hall b hb

theorem judge_congr {expected : Option String} {request other : Request}
    (h : values request.headers "authorization" = values other.headers "authorization") :
    judge expected request = judge expected other := by
  rw [judge, judge, firstValue?, firstValue?, h]

end Http

namespace WebClient

/-- A response that hands out no session gives the client none. -/
theorem handedOut?_of_isOrdinary {response : Response} (h : IsOrdinary response) : handedOut? response = none := by
  have hread := h.no_session
  rw [handedOut?, ite_eq_right_iff]
  intro _
  rw [firstText?, firstValue?] at hread ⊢
  rw [Response.received, values_received, List.head?_map]
  cases hvalue : (values response.headers sessionHeader).head? with
  | none => rfl
  | some value =>
    rw [hvalue, Option.bind_some] at hread
    exact headerText?_strip_eq_none hread

/-- A new id is given to the client as it is. -/
theorem handedOut?_opened (reply : Json) (streaming : Bool) {id : String} (hid : ∀ c ∈ id.toList, Text.IsVisible c) :
    handedOut? ((replyResponse reply streaming).withHeader sessionHeader id) = some id := by
  have hsuccess : ((replyResponse reply streaming).withHeader sessionHeader id).isSuccess = true := by
    cases streaming <;> rfl
  rw [handedOut?, if_pos hsuccess, received_withHeader (headers_replyResponse reply streaming) sessionHeader hid]
  exact firstText?_opened reply streaming hid

/-! ## Clients that are admitted -/

/-- A server takes the requests of a client: they go to its endpoint, with a token if it asks for one. -/
structure Admits (server : Server) (client : WebClient) : Prop where
  canAsk : client.CanAsk
  path : ∀ request : Request, client.endpoint = some request.target → request.path = endpointPath
  authorized : ∀ request : Request, values request.headers "authorization" = client.token.toList.map bearerValue →
    judge server.apiToken request = .admitted

section Admits

variable {server : Server} {client : WebClient} {held : Option String} {method : String} {body : Bytes}
  {request : Request} {id : String}

theorem Admits.takes (h : Admits server client) (hrequest : client.IsRequest held method body request) :
    request.path = endpointPath ∧ judge server.apiToken request = .admitted :=
  ⟨h.path request hrequest.target, h.authorized request hrequest.token⟩

/-- If one request is taken, all are. -/
theorem IsRequest.admits (hrequest : client.IsRequest held method body request) (hask : client.CanAsk)
    (hpath : request.path = endpointPath) (hjudge : judge server.apiToken request = .admitted) :
    Admits server client where
  canAsk := hask
  path other hother := by
    have htarget : request.target = other.target := Option.some.inj (hrequest.target.symm.trans hother)
    rw [Request.path, ← htarget]
    exact hpath
  authorized other hother := by
    rw [← hjudge]
    exact judge_congr (hother.trans hrequest.token.symm)

theorem IsRequest.names (hrequest : client.IsRequest (some id) method body request) (hid : IsSessionId id) :
    Names request id :=
  names_of_values hid hrequest.session

end Admits

end WebClient

/-! ## One request -/

namespace Http

variable {router : Router} {store : SessionStore} {request : Request}

/-- What is not taken does not succeed. -/
theorem isSuccess_of_not_admitted (hmethod : request.method = "POST" ∨ request.method = "DELETE")
    (h : ¬(request.path = endpointPath ∧ judge router.server.apiToken request = .admitted)) :
    (router.handle store request).1.value.isSuccess = false := by
  rw [value_handle, plan]
  split
  · rename_i hpath
    rw [planEndpoint, if_pos hmethod]
    cases hjudge : judge router.server.apiToken request with
    | admitted => exact absurd ⟨hpath, hjudge⟩ h
    | unreadable => rfl
    | refused refusal => rcases refused_cases hjudge with rfl | rfl <;> rfl
  · cases pageText? request.path with
    | none => rfl
    | some text =>
      have hresponse : pageResponse request.method text = (Response.bare 405).withHeader "allow" "GET,HEAD" := by
        rcases hmethod with hmethod | hmethod
        · rw [hmethod]
          rfl
        · rw [hmethod]
          rfl
      dsimp only
      rw [hresponse]
      rfl

/-- A message that is posted opens a session, or it hands out nothing and leaves the sessions as they are. -/
theorem handle_posted_cases (hmethod : request.method = "POST") :
    (WebClient.handedOut? (router.handle store request).1.value = none ∧ (router.handle store request).2 = store) ∨
      request.path = endpointPath ∧ judge router.server.apiToken request = .admitted ∧
        (∃ read, Json.parseBytes? request.body = some read ∧ opensAnswered router.server read = true) ∧
        WebClient.handedOut? (router.handle store request).1.value = some (router.ids.text store.issued) ∧
        (router.handle store request).2 = (store.create router.ids).2 := by
  by_cases h : request.path = endpointPath ∧ judge router.server.apiToken request = .admitted
  · rcases Nat.lt_or_ge bodyLimit request.body.length with hlong | hfits
    · obtain ⟨hvalue, hstore⟩ := @handle_too_long router store request h.1 h.2 hmethod hlong
      rw [hvalue, hstore]
      exact .inl ⟨WebClient.handedOut?_of_isOrdinary isOrdinary_bodyTooLong, rfl⟩
    obtain ⟨hvalue, hstore⟩ := @handle_body router store request h.1 h.2 hmethod hfits
    rw [hvalue, hstore]
    have hanswer := planBody_answer router.server router.ids store request
    generalize ((planBody router.server request).run router.ids store).1.value = response at *
    generalize ((planBody router.server request).run router.ids store).2 = after at *
    cases hanswer with
    | unparsed => exact .inl ⟨WebClient.handedOut?_of_isOrdinary (isOrdinary_replyResponse _ _), rfl⟩
    | opened hbody hopens hreply herror =>
      exact .inr ⟨h.1, h.2, ⟨_, hbody, opensAnswered_of_reply hopens hreply herror⟩,
        WebClient.handedOut?_opened _ _ (router.ids.visible _), rfl⟩
    | failed | answered => exact .inl ⟨WebClient.handedOut?_of_isOrdinary (isOrdinary_dispatched _ _ _), rfl⟩
    | missing | unknown => exact .inl ⟨WebClient.handedOut?_of_isOrdinary (isOrdinary_refusal _), rfl⟩
  · obtain ⟨answer, hplan, hordinary⟩ := plan_of_not_admitted h
    rw [value_handle, store_handle, hplan]
    exact .inl ⟨WebClient.handedOut?_of_isOrdinary hordinary, rfl⟩

section Live

variable {id : String}

/-- A message that is posted in a live session is answered, if it is not too long. -/
theorem status_posted_live (hpath : request.path = endpointPath)
    (hadmitted : judge router.server.apiToken request = .admitted) (hmethod : request.method = "POST")
    (hfits : request.body.length ≤ bodyLimit) (hnames : Names request id) (hlive : id ∈ store.live) :
    (router.handle store request).1.value.status = 200 ∨ (router.handle store request).1.value.status = 202 := by
  rw [(handle_body hpath hadmitted hmethod hfits).1]
  have hnamed := sessionOf?_eq_some_iff.2 hnames
  have hanswer := planBody_answer router.server router.ids store request
  generalize ((planBody router.server request).run router.ids store).1.value = response at *
  generalize ((planBody router.server request).run router.ids store).2 = after at *
  cases hanswer with
  | unparsed | opened => exact .inl (status_replyResponse _ _)
  | failed | answered => exact status_dispatched _ _ _
  | missing _ _ hid => cases hid.symm.trans hnamed
  | unknown _ _ hid hdead =>
    obtain rfl := Option.some.inj (hid.symm.trans hnamed)
    exact absurd hlive hdead

/-- In a live session nothing that is posted is refused for its session. -/
theorem status_posted_cases (hpath : request.path = endpointPath)
    (hadmitted : judge router.server.apiToken request = .admitted) (hmethod : request.method = "POST")
    (hnames : Names request id) (hlive : id ∈ store.live) :
    (router.handle store request).1.value.status = 200 ∨ (router.handle store request).1.value.status = 202 ∨
      (router.handle store request).1.value.status = 413 := by
  rcases Nat.lt_or_ge bodyLimit request.body.length with hlong | hfits
  · rw [(handle_too_long hpath hadmitted hmethod hlong).1]
    exact .inr (.inr rfl)
  · exact (status_posted_live hpath hadmitted hmethod hfits hnames hlive).imp_right .inl

end Live

end Http

end ModelContext
