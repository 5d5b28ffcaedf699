import ModelContext.Proofs.WebRequests

/-!
# The session that a web client holds

A web client holds the id that it was handed out last, until it closes. All that it asks carries this id, and closing it
deletes the id once. So no id is deleted a second time before it is handed out again. The requests are those that the
client gives to its wire; those by which an HTTP library follows a redirect are not among them.
-/

namespace ModelContext

open Http

/-- The wire that also keeps what went over it: every request, with its response if one came. -/
def Wire.recording {ω : Type} (wire : Wire ω) : Wire (List (Request × Option Response) × ω) where
  exchange request s :=
    let (response, w) := wire.exchange request s.2
    (response, s.1 ++ [(request, response)], w)

namespace WebClient

variable {ω : Type} {client : WebClient} {held : Option String} {id : String}

/-! ## Ids that are handed out -/

/-- The id that a response hands out: the first value of the session header of a success, if it can be read. -/
def handedOut? (response : Response) : Option String :=
  if response.isSuccess then firstText? response.received.headers sessionHeader else none

theorem sessionAfter_received (held : Option String) (response : Response) :
    sessionAfter held response.received = (handedOut? response).or held := by
  have hsuccess : response.received.isSuccess = response.isSuccess := rfl
  rw [sessionAfter, handedOut?, hsuccess]
  split
  · exact Option.orElse_eq_or
  · rfl

/-- The id of a session, if there is one, arrives as it is. -/
def Arrives (held : Option String) : Prop :=
  ∀ id, held = some id → sessionValue id = Bytes.ofText id

/-- An id is sent as it was handed out. -/
theorem sessionValue_of_handedOut {response : Response} (h : handedOut? response = some id) :
    sessionValue id = Bytes.ofText id := by
  obtain ⟨-, htext⟩ := Option.ite_none_right_eq_some.1 h
  obtain ⟨value, hvalue, hread⟩ := Option.bind_eq_some_iff.1 htext
  obtain ⟨hall, hid⟩ := Option.ite_none_right_eq_some.1 hread
  obtain ⟨header, hheader, rfl⟩ := List.mem_map.1 (List.mem_of_mem_head? hvalue)
  obtain ⟨sent, -, rfl⟩ := List.mem_map.1 (List.mem_of_mem_filter hheader)
  have hbytes : Bytes.ofText id = sent.received.value := by
    cases hid
    exact ofText_ofList_map_charOf (List.all_eq_true.1 hall)
  rw [sessionValue, hbytes]
  exact Text.strip_strip _ _

theorem sessionValue_of_mem {exchanges : List (Request × Option Response)}
    (h : id ∈ exchanges.filterMap fun exchange => exchange.2.bind handedOut?) : sessionValue id = Bytes.ofText id := by
  obtain ⟨exchange, -, hexchange⟩ := List.mem_filterMap.1 h
  obtain ⟨response, -, hresponse⟩ := Option.bind_eq_some_iff.1 hexchange
  exact sessionValue_of_handedOut hresponse

/-! ## One use of a link -/

inductive Use where
  | send (message : Json)
  | close

/-- A use of a link, as one sees it from outside. -/
structure Turn where
  use : Use
  /-- The requests that are made, each with its response if one came. -/
  exchanges : List (Request × Option Response)
  /-- What comes of it; a close that succeeds brings nothing. -/
  outcome : Except ClientError (Option Json)
  /-- The session that is held afterwards. -/
  session : Option String

def Turn.handedOut? (turn : Turn) : Option String :=
  match turn.use with
  | .send _ => (turn.exchanges.filterMap fun exchange => exchange.2.bind WebClient.handedOut?).getLast?
  | .close => none

def Turn.Deletes (turn : Turn) (id : String) : Prop :=
  ∃ exchange ∈ turn.exchanges,
    exchange.1.method = "DELETE" ∧ values exchange.1.headers sessionHeader = [Bytes.ofText id]

/-- A request of a client that holds a session: it goes to the endpoint and carries the token and the session, each of
them if there is one, and no others. -/
structure IsRequest (client : WebClient) (held : Option String) (method : String) (body : Bytes) (request : Request) :
    Prop where
  method : request.method = method
  target : client.endpoint = some request.target
  body : request.body = body
  token : values request.headers "authorization" = client.token.toList.map bearerValue
  session : values request.headers sessionHeader = held.toList.map Bytes.ofText

/-- All that a use of a link can come to while a session is held. An exchange is what the client asks of its wire, so
the one deletion of a close is the one from before any redirect. -/
inductive Step (client : WebClient) : Option String → Turn → Prop where
  | unsent {held : Option String} {message : Json} (hask : ¬client.CanAsk) :
      Step client held { use := .send message, exchanges := [], outcome := .error .http, session := held }
  | unanswered {held : Option String} {message : Json} {request : Request} (hask : client.CanAsk)
      (hrequest : client.IsRequest held "POST" (Bytes.ofText message.text) request) :
      Step client held
        { use := .send message, exchanges := [(request, none)], outcome := .error .http, session := held }
  | answered {held : Option String} {message : Json} {request : Request} {response : Response} (hask : client.CanAsk)
      (hrequest : client.IsRequest held "POST" (Bytes.ofText message.text) request) :
      Step client held
        { use := .send message, exchanges := [(request, some response)], outcome := answerOf response.received
          session := (handedOut? response).or held }
  | nothingHeld : Step client none { use := .close, exchanges := [], outcome := .ok none, session := none }
  | undeleted {id : String} (hask : ¬client.CanAsk) :
      Step client (some id) { use := .close, exchanges := [], outcome := .error .http, session := none }
  | lost {id : String} {request : Request} (hask : client.CanAsk)
      (hrequest : client.IsRequest (some id) "DELETE" [] request) :
      Step client (some id)
        { use := .close, exchanges := [(request, none)], outcome := .error .http, session := none }
  | deleted {id : String} {request : Request} {response : Response} (hask : client.CanAsk)
      (hrequest : client.IsRequest (some id) "DELETE" [] request)
      (hstatus : response.isSuccess = true ∨ response.status = 405) :
      Step client (some id)
        { use := .close, exchanges := [(request, some response)], outcome := .ok none, session := none }
  | refused {id : String} {request : Request} {response : Response} (hask : client.CanAsk)
      (hrequest : client.IsRequest (some id) "DELETE" [] request)
      (hstatus : ¬(response.isSuccess = true ∨ response.status = 405)) :
      Step client (some id)
        { use := .close, exchanges := [(request, some response)], outcome := .error (.status response.status)
          session := none }

section Steps

variable {turn : Turn}

/-- A use leaves the id that it is handed out, or else the one before, unless it is a close. -/
theorem Step.session_eq_some_iff (h : Step client held turn) : turn.session = some id ↔
    turn.handedOut? = some id ∨ turn.use ≠ .close ∧ turn.handedOut? = none ∧ held = some id := by
  cases h <;> simp [Turn.handedOut?, Option.or_eq_some_iff]

/-- All that is asked carries the session that is held, and only a close asks to delete it. -/
theorem Step.isRequest (h : Step client held turn) {exchange : Request × Option Response}
    (hexchange : exchange ∈ turn.exchanges) :
    ∃ method body, client.IsRequest held method body exchange.1 ∧ (method = "DELETE" → turn.use = .close) := by
  have hpost : "POST" = "DELETE" → turn.use = .close := fun h => absurd h (by decide)
  cases h with
  | unsent => cases hexchange
  | unanswered _ hrequest =>
    obtain rfl := List.mem_singleton.1 hexchange
    exact ⟨_, _, hrequest, hpost⟩
  | answered _ hrequest =>
    obtain rfl := List.mem_singleton.1 hexchange
    exact ⟨_, _, hrequest, hpost⟩
  | nothingHeld => cases hexchange
  | undeleted => cases hexchange
  | lost _ hrequest =>
    obtain rfl := List.mem_singleton.1 hexchange
    exact ⟨_, _, hrequest, fun _ => rfl⟩
  | deleted _ hrequest =>
    obtain rfl := List.mem_singleton.1 hexchange
    exact ⟨_, _, hrequest, fun _ => rfl⟩
  | refused _ hrequest =>
    obtain rfl := List.mem_singleton.1 hexchange
    exact ⟨_, _, hrequest, fun _ => rfl⟩

/-- What is deleted is the session that is held. -/
theorem Step.of_deletes (h : Step client held turn) (hdeletes : turn.Deletes id) : turn.use = .close ∧ held = some id := by
  obtain ⟨exchange, hexchange, hmethod, hsession⟩ := hdeletes
  obtain ⟨method, body, hrequest, hclose⟩ := h.isRequest hexchange
  refine ⟨hclose (hrequest.method.symm.trans hmethod), ?_⟩
  have hheld := hrequest.session.symm.trans hsession
  cases held with
  | none => cases hheld
  | some other => rw [ofText_injective (List.singleton_inj.1 hheld)]

end Steps

/-! ## Many uses -/

section Runs

variable {turns earlier : List Turn} {turn first : Turn}

/-- The id that was handed out last, if nothing was closed since. -/
def LastHandedOut (turns : List Turn) (id : String) : Prop :=
  ∃ earlier turn later, turns = earlier ++ turn :: later ∧ turn.handedOut? = some id ∧
    ∀ other ∈ later, other.use ≠ .close ∧ other.handedOut? = none

theorem lastHandedOut_concat_iff : LastHandedOut (turns ++ [turn]) id ↔
    turn.handedOut? = some id ∨ turn.use ≠ .close ∧ turn.handedOut? = none ∧ LastHandedOut turns id := by
  constructor
  · rintro ⟨earlier, other, later, hturns, hother, hlater⟩
    cases later using List.reverseRecOn with
    | nil =>
      obtain ⟨-, rfl⟩ := List.append_singleton_inj.1 hturns
      exact .inl hother
    | append_singleton later last =>
      rw [← List.cons_append, ← List.append_assoc] at hturns
      obtain ⟨rfl, rfl⟩ := List.append_singleton_inj.1 hturns
      obtain ⟨hbefore, hlast⟩ := List.forall_mem_append.1 hlater
      obtain ⟨huse, hnone⟩ := List.forall_mem_singleton.1 hlast
      exact .inr ⟨huse, hnone, earlier, other, later, rfl, hother, hbefore⟩
  · rintro (hturn | ⟨huse, hnone, earlier, other, later, rfl, hother, hlater⟩)
    · exact ⟨turns, turn, [], rfl, hturn, List.forall_mem_nil _⟩
    · refine ⟨earlier, other, later ++ [turn], by rw [List.append_assoc, List.cons_append], hother, ?_⟩
      exact List.forall_mem_append.2 ⟨hlater, List.forall_mem_singleton.2 ⟨huse, hnone⟩⟩

/-- What is held after a close was handed out after it. -/
theorem LastHandedOut.of_close (hclose : first.use = .close) (between : List Turn)
    (h : LastHandedOut (earlier ++ first :: between) id) : LastHandedOut between id := by
  induction between using List.reverseRecOn with
  | nil =>
    rcases lastHandedOut_concat_iff.1 h with hfirst | ⟨huse, -⟩
    · rw [Turn.handedOut?, hclose] at hfirst
      cases hfirst
    · exact absurd hclose huse
  | append_singleton between last ih =>
    rw [← List.cons_append, ← List.append_assoc] at h
    rw [lastHandedOut_concat_iff] at h ⊢
    exact h.imp_right fun ⟨huse, hnone, hbefore⟩ => ⟨huse, hnone, ih hbefore⟩

/-- A link that was used, with all its uses in order, and the session that it holds. -/
inductive Used (client : WebClient) : List Turn → Option String → Prop where
  | start : Used client [] none
  | step {turns : List Turn} {held : Option String} {turn : Turn} (h : Used client turns held)
      (hstep : Step client held turn) : Used client (turns ++ [turn]) turn.session

theorem Used.held_iff (h : Used client turns held) (id : String) : held = some id ↔ LastHandedOut turns id := by
  induction h with
  | start => exact ⟨nofun, fun ⟨_, _, _, hturns, _⟩ => absurd hturns (by simp)⟩
  | step h hstep ih => rw [hstep.session_eq_some_iff, lastHandedOut_concat_iff, ih]

theorem Used.exists_step (h : Used client turns held) {later : List Turn} (hturns : turns = earlier ++ turn :: later) :
    ∃ before, Used client earlier before ∧ Step client before turn := by
  induction h generalizing later with
  | start => exact absurd hturns (by simp)
  | step h hstep ih =>
    cases later using List.reverseRecOn with
    | nil =>
      obtain ⟨rfl, rfl⟩ := List.append_singleton_inj.1 hturns
      exact ⟨_, h, hstep⟩
    | append_singleton later last =>
      rw [← List.cons_append, ← List.append_assoc] at hturns
      exact ih (List.append_singleton_inj.1 hturns).1

/-- The id that is held is sent as it was handed out. -/
theorem Used.arrives (h : Used client turns held) : Arrives held := by
  intro id hheld
  obtain ⟨earlier, turn, later, -, hturn, -⟩ := (h.held_iff id).1 hheld
  rw [Turn.handedOut?] at hturn
  split at hturn
  · exact sessionValue_of_mem (List.mem_of_getLast? hturn)
  · cases hturn

end Runs

/-! ## The uses of a client -/

def exchanges (client : WebClient) (wire : Wire ω) (use : Use) (link : WebLink ω) : List (Request × Option Response) :=
  let noting : WebLink (List (Request × Option Response) × ω) := { session := link.session, wire := ([], link.wire) }
  match use with
  | .send message => (client.send wire.recording message noting).2.wire.1
  | .close => (client.close wire.recording noting).2.wire.1

def takeTurn (client : WebClient) (wire : Wire ω) (use : Use) (link : WebLink ω) : Turn × WebLink ω :=
  let exchanges := client.exchanges wire use link
  match use with
  | .send message =>
    let (outcome, after) := client.send wire message link
    ({ use, exchanges, outcome, session := after.session }, after)
  | .close =>
    let (outcome, after) := client.close wire link
    ({ use, exchanges, outcome := outcome.map fun _ => none, session := after.session }, after)

def takeTurns (client : WebClient) (wire : Wire ω) : List Use → WebLink ω → List Turn × WebLink ω
  | [], link => ([], link)
  | use :: later, link =>
    let (turn, link) := client.takeTurn wire use link
    let (turns, link) := client.takeTurns wire later link
    (turn :: turns, link)

section Uses

variable {wire : Wire ω} {link : WebLink ω} {turns : List Turn}

theorem isRequest_post (hask : client.CanAsk) (hheld : Arrives held) (message : Json) :
    ∃ request, client.post held message = .ok request ∧
      client.IsRequest held "POST" (Bytes.ofText message.text) request := by
  obtain ⟨request, hpost, hmethod, htarget, hbody, hcarries⟩ := hask.exists_post held message
  refine ⟨request, hpost, hmethod, htarget, hbody, hcarries.token, hcarries.session.trans ?_⟩
  exact List.map_congr_left fun id hid => hheld id (Option.mem_toList.1 hid)

theorem isRequest_delete (hask : client.CanAsk) (hheld : Arrives (some id)) :
    ∃ request, client.delete id = .ok request ∧ client.IsRequest (some id) "DELETE" [] request := by
  obtain ⟨request, hdelete, hmethod, htarget, hbody, hcarries⟩ := hask.exists_delete id
  refine ⟨request, hdelete, hmethod, htarget, hbody, hcarries.token, hcarries.session.trans ?_⟩
  exact congrArg ([·]) (hheld id rfl)

theorem step_send (message : Json) (hheld : Arrives link.session) {turn : Turn} {after : WebLink ω}
    (hturn : client.takeTurn wire (.send message) link = (turn, after)) :
    turn.use = .send message ∧ turn.session = after.session ∧ Step client link.session turn := by
  by_cases hask : client.CanAsk
  · obtain ⟨request, hpost, hrequest⟩ := isRequest_post hask hheld message
    obtain ⟨⟨response, w⟩, hexchange⟩ : ∃ exchanged, wire.exchange request link.wire = exchanged := ⟨_, rfl⟩
    simp only [takeTurn, exchanges, send, hpost, Wire.recording, hexchange] at hturn
    cases response with
    | none =>
      cases hturn
      exact ⟨rfl, rfl, .unanswered hask hrequest⟩
    | some response =>
      cases hturn
      refine ⟨rfl, rfl, ?_⟩
      dsimp only
      rw [sessionAfter_received]
      exact .answered hask hrequest
  · simp only [takeTurn, exchanges, send, post_of_not_canAsk hask] at hturn
    cases hturn
    exact ⟨rfl, rfl, .unsent hask⟩

theorem step_close (hheld : Arrives link.session) {turn : Turn} {after : WebLink ω}
    (hturn : client.takeTurn wire .close link = (turn, after)) :
    turn.use = .close ∧ turn.session = after.session ∧ Step client link.session turn := by
  cases hsession : link.session with
  | none =>
    simp only [takeTurn, exchanges, close, hsession] at hturn
    cases hturn
    exact ⟨rfl, hsession.symm, .nothingHeld⟩
  | some id =>
    by_cases hask : client.CanAsk
    · obtain ⟨request, hdelete, hrequest⟩ := isRequest_delete hask (hsession ▸ hheld)
      obtain ⟨⟨response, w⟩, hexchange⟩ : ∃ exchanged, wire.exchange request link.wire = exchanged := ⟨_, rfl⟩
      simp only [takeTurn, exchanges, close, hsession, hdelete, Wire.recording, hexchange] at hturn
      cases response with
      | none =>
        cases hturn
        exact ⟨rfl, rfl, .lost hask hrequest⟩
      | some response =>
        cases hturn
        refine ⟨rfl, rfl, ?_⟩
        dsimp only
        rw [closeOutcome]
        split
        · exact .deleted hask hrequest ‹_›
        · exact .refused hask hrequest ‹_›
    · simp only [takeTurn, exchanges, close, hsession, delete_of_not_canAsk hask] at hturn
      cases hturn
      exact ⟨rfl, rfl, .undeleted hask⟩

theorem step_takeTurn (use : Use) (hheld : Arrives link.session) {turn : Turn} {after : WebLink ω}
    (hturn : client.takeTurn wire use link = (turn, after)) :
    turn.use = use ∧ turn.session = after.session ∧ Step client link.session turn := by
  cases use with
  | send message => exact step_send message hheld hturn
  | close => exact step_close hheld hturn

theorem used_takeTurns (wire : Wire ω) (uses : List Use) (h : Used client turns link.session) :
    Used client (turns ++ (client.takeTurns wire uses link).1) (client.takeTurns wire uses link).2.session ∧
      (client.takeTurns wire uses link).1.map (·.use) = uses := by
  induction uses generalizing link turns with
  | nil => exact ⟨(List.append_nil turns).symm ▸ h, rfl⟩
  | cons use later ih =>
    cases hturn : client.takeTurn wire use link with
    | mk turn after =>
      obtain ⟨huse, hsession, hstep⟩ := step_takeTurn use h.arrives hturn
      obtain ⟨hused, huses⟩ := ih (hsession ▸ h.step hstep)
      rw [List.append_assoc, List.singleton_append] at hused
      rw [takeTurns, hturn]
      exact ⟨hused, by rw [List.map_cons, huse, huses]⟩

end Uses

/-- A client keeps to the session that it is handed out: `turns` are the turns of the uses of a link, and `held` is the
session that it holds after them. -/
structure KeepsSession (client : WebClient) (uses : List Use) (turns : List Turn) (held : Option String) : Prop where
  uses : turns.map (·.use) = uses
  /-- The session is the one that was handed out last, if nothing was closed since. -/
  held : ∀ id, held = some id ↔ LastHandedOut turns id
  /-- Every use is one of the steps that are possible with the session that is held before it. -/
  steps : ∀ earlier turn later, turns = earlier ++ turn :: later →
    ∃ before, (∀ id, before = some id ↔ LastHandedOut earlier id) ∧ Step client before turn
  token : ∀ turn ∈ turns, ∀ exchange ∈ turn.exchanges,
    values exchange.1.headers "authorization" = client.token.toList.map bearerValue
  /-- Between two deletions of one id it is handed out again. -/
  deletions : ∀ earlier first between second later, turns = earlier ++ first :: (between ++ second :: later) →
    ∀ id, first.Deletes id → second.Deletes id → ∃ turn ∈ between, turn.handedOut? = some id

theorem keeps_session (client : WebClient) (wire : Wire ω) (state : ω) (uses : List Use) :
    KeepsSession client uses (client.takeTurns wire uses { session := none, wire := state }).1
      (client.takeTurns wire uses { session := none, wire := state }).2.session := by
  have hstart : Used client [] ({ session := none, wire := state } : WebLink ω).session := .start
  obtain ⟨hused, huses⟩ := used_takeTurns wire uses hstart
  rw [List.nil_append] at hused
  refine ⟨huses, hused.held_iff, ?_, ?_, ?_⟩
  · intro earlier turn later hturns
    obtain ⟨before, hbefore, hstep⟩ := hused.exists_step hturns
    exact ⟨before, hbefore.held_iff, hstep⟩
  · intro turn hturn exchange hexchange
    obtain ⟨earlier, later, hturns⟩ := List.append_of_mem hturn
    obtain ⟨before, -, hstep⟩ := hused.exists_step hturns
    obtain ⟨method, body, hrequest, -⟩ := hstep.isRequest hexchange
    exact hrequest.token
  · intro earlier first between second later hturns id hfirst hsecond
    obtain ⟨before, -, hstep⟩ := hused.exists_step hturns
    rw [← List.cons_append, ← List.append_assoc] at hturns
    obtain ⟨held, hheld, hnext⟩ := hused.exists_step hturns
    have hlast := (hheld.held_iff id).1 (hnext.of_deletes hsecond).2
    obtain ⟨front, turn, back, rfl, hturn, -⟩ := LastHandedOut.of_close (hstep.of_deletes hfirst).1 between hlast
    exact ⟨turn, List.mem_append_right _ List.mem_cons_self, hturn⟩

end WebClient

end ModelContext
