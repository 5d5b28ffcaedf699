import ModelContext.Proofs.Transports

/-!
# The discipline of a client's session

Whatever a transport does, a session numbers its requests without a gap, makes no request before a handshake has
succeeded, and knows of the server what the last handshake that succeeded has told it. Only the word that holds the
numbers sets them an end, after which they go on with the least.
-/

namespace ModelContext

open Json

namespace Session

variable {σ α β : Type}

def greeting (s : Session σ) : Json :=
  requestJson (.int s.nextId.toInt) "initialize" (some handshakeParams)

def ready : Json :=
  notificationJson "notifications/initialized"

def askWelcome (t : Transport σ) (s : Session σ) : Except ClientError (Option Json) × σ :=
  t.send (greeting s) s.link

def tellReady (t : Transport σ) (s : Session σ) : Except ClientError (Option Json) × σ :=
  t.send ready (askWelcome t s).2

/-- The answer to a request that a session takes as a result: it has the id of the request, no error, and a result that
can be read. -/
def IsResult (id : Int) (read : Json → Option α) (answer : Except ClientError (Option Json)) (value : α) : Prop :=
  ∃ message result, answer = .ok (some message) ∧ message.get? "id" = some (.int id) ∧ message.get? "error" = none ∧
    message.get? "result" = some result ∧ read result = some value

def IsWelcome (id : Int) (answer : Except ClientError (Option Json)) (result : InitializeResult) : Prop :=
  IsResult id InitializeResult.ofJson? answer result ∧
    result.protocolVersion ∈ ["2024-11-05", "2025-03-26", "2025-06-18"]

theorem resultOf_eq_ok_iff {id : Int} {method : String} {answer : Option Json} {result : Json} :
    resultOf id method answer = .ok result ↔
      ∃ message, answer = some message ∧ message.get? "id" = some (.int id) ∧ message.get? "error" = none ∧
        message.get? "result" = some result := by
  cases answer with
  | none => simp [resultOf]
  | some message =>
    simp only [resultOf, Option.some.injEq, exists_eq_left']
    by_cases hid : message.get? "id" = some (.int id)
    · rw [if_neg (not_not.2 hid)]
      cases herror : message.get? "error" with
      | some member => simp
      | none =>
        cases hresult : message.get? "result" with
        | none => simp
        | some found => simp [hid]
    · rw [if_pos hid]
      simp [hid]

theorem readAnswer_eq_ok_iff {id : Int} {method : String} {read : Json → Option α}
    {answer : Except ClientError (Option Json)} {value : α} :
    readAnswer id method read answer = .ok value ↔ IsResult id read answer value := by
  constructor
  · intro h
    cases answer with
    | error e => cases h
    | ok answer =>
      cases hresult : resultOf id method answer with
      | error e =>
        rw [readAnswer, hresult] at h
        cases h
      | ok result =>
        obtain ⟨message, rfl, hid, herror, hmember⟩ := resultOf_eq_ok_iff.1 hresult
        rw [readAnswer, hresult] at h
        dsimp only at h
        cases hread : read result with
        | none =>
          rw [hread] at h
          cases h
        | some found =>
          rw [hread] at h
          cases h
          exact ⟨message, result, rfl, hid, herror, hmember, hread⟩
  · rintro ⟨message, result, rfl, hid, herror, hmember, hread⟩
    rw [readAnswer, resultOf_eq_ok_iff.2 ⟨message, rfl, hid, herror, hmember⟩]
    dsimp only
    rw [hread]

/-! ## Handshakes -/

/-- All that a handshake can come to: it is not welcomed, the server cannot be told so, or it succeeds. -/
inductive Handshaken (t : Transport σ) (s : Session σ) : Except ClientError InitializeResult × Session σ → Prop where
  | refused {e : ClientError} (h : ∀ result, ¬IsWelcome s.nextId.toInt (askWelcome t s).1 result) :
      Handshaken t s (.error e, { s with nextId := s.nextId + 1, link := (askWelcome t s).2 })
  | untold {result : InitializeResult} {e : ClientError} (h : IsWelcome s.nextId.toInt (askWelcome t s).1 result)
      (htold : (tellReady t s).1 = .error e) :
      Handshaken t s (.error e, { s with nextId := s.nextId + 1, link := (tellReady t s).2 })
  | done {result : InitializeResult} {reply : Option Json} (h : IsWelcome s.nextId.toInt (askWelcome t s).1 result)
      (htold : (tellReady t s).1 = .ok reply) :
      Handshaken t s (.ok result, { nextId := s.nextId + 1, server := some result, link := (tellReady t s).2 })

theorem handshaken (t : Transport σ) (s : Session σ) : Handshaken t s (s.handshake t) := by
  have hsend : s.send t Method.handshake.name (some handshakeParams) InitializeResult.ofJson? =
      (readAnswer s.nextId.toInt "initialize" InitializeResult.ofJson? (askWelcome t s).1,
        { s with nextId := s.nextId + 1, link := (askWelcome t s).2 }) := rfl
  rw [handshake, hsend]
  cases hread : readAnswer s.nextId.toInt "initialize" InitializeResult.ofJson? (askWelcome t s).1 with
  | error e =>
    refine .refused fun result h => ?_
    rw [readAnswer_eq_ok_iff.2 h.1] at hread
    cases hread
  | ok result =>
    have hresult := readAnswer_eq_ok_iff.1 hread
    dsimp only
    by_cases haccepted : result.protocolVersion ∈ acceptedVersions
    · rw [if_pos haccepted]
      cases htold : tellReady t s with
      | mk outcome link =>
        have htell : t.send (notificationJson "notifications/initialized") (askWelcome t s).2 = (outcome, link) := htold
        rw [htell]
        cases outcome with
        | error e =>
          have h := Handshaken.untold ⟨hresult, haccepted⟩ (congrArg Prod.fst htold)
          rwa [htold] at h
        | ok reply =>
          have h := Handshaken.done ⟨hresult, haccepted⟩ (congrArg Prod.fst htold)
          rwa [htold] at h
    · rw [if_neg haccepted]
      refine .refused fun other h => haccepted ?_
      rw [readAnswer_eq_ok_iff.2 h.1] at hread
      cases hread
      exact h.2

/-! ## Requests -/

/-- A session goes on by requests that it makes after the handshake, none of which is a handshake itself. -/
inductive Asks (t : Transport σ) : Session σ → Session σ → Prop where
  | refl (s : Session σ) : Asks t s s
  | ask {s s' : Session σ} (hknown : s.server.isSome = true) (method : String) (hmethod : method ≠ "initialize")
      (params : Option Json) (h : Asks t { s with
        nextId := s.nextId + 1, link := (t.send (requestJson (.int s.nextId.toInt) method params) s.link).2 } s') :
      Asks t s s'

section Asks

variable {t : Transport σ} {s s' s'' : Session σ}

theorem Asks.trans (h : Asks t s s') (h' : Asks t s' s'') : Asks t s s'' := by
  induction h with
  | refl => exact h'
  | ask hknown method hmethod params _ ih => exact .ask hknown method hmethod params (ih h')

theorem Asks.server_eq (h : Asks t s s') : s'.server = s.server := by
  induction h with
  | refl => rfl
  | ask _ _ _ _ _ ih => exact ih

theorem asks_request (t : Transport σ) (s : Session σ) {method : String} (hmethod : method ≠ "initialize")
    (params : Option Json) (read : Json → Option α) : Asks t s (s.request t method params read).2 := by
  cases hknown : s.server with
  | none =>
    rw [request, hknown]
    exact .refl s
  | some result =>
    have hsome : s.server.isSome = true := by rw [hknown]; rfl
    rw [request_eq hsome, send_eq]
    exact .ask hsome method hmethod params (.refl _)

theorem methodName_ne (listing : Listing) : listing.methodName ≠ "initialize" := by
  cases listing <;> decide

theorem asks_walk {listing : Listing} {seen : List String} {cursor : Option String} {budget : Nat}
    {outcome : Except ClientError (List listing.Item)} (h : s.walk t listing seen cursor budget = some (outcome, s')) :
    Asks t s s' := by
  induction budget generalizing s seen cursor outcome with
  | zero => cases h
  | succ budget ih =>
    have hpage : Asks t s (s.page t listing cursor).2 := asks_request t s (methodName_ne listing) _ _
    rw [walk] at h
    generalize s.page t listing cursor = step at h hpage
    obtain ⟨answer, now⟩ := step
    cases answer with
    | error e =>
      cases h
      exact hpage
    | ok page =>
      dsimp only at h
      cases hnext : page.nextCursor with
      | none =>
        rw [hnext] at h
        cases h
        exact hpage
      | some next =>
        rw [hnext] at h
        dsimp only at h
        split at h
        · cases h
          exact hpage
        · obtain ⟨⟨rest, last⟩, hwalk, heq⟩ := Option.map_eq_some_iff.1 h
          cases heq
          exact hpage.trans (ih hwalk)

theorem asks_andThen {first : Option (Except ClientError α × Session σ)}
    {next : α → Session σ → Option (Except ClientError β × Session σ)} {outcome : Except ClientError β}
    (hfirst : ∀ outcome s', first = some (outcome, s') → Asks t s s')
    (hnext : ∀ a now outcome s', next a now = some (outcome, s') → Asks t now s')
    (h : andThen first next = some (outcome, s')) : Asks t s s' := by
  obtain ⟨⟨result, now⟩, hnow, h⟩ := Option.bind_eq_some_iff.1 h
  cases result with
  | error e =>
    cases h
    exact hfirst _ _ hnow
  | ok a => exact (hfirst _ _ hnow).trans (hnext a now _ _ h)

theorem asks_listCapabilities {budget : Nat} {outcome : Except ClientError Capabilities}
    (h : s.listCapabilities t budget = some (outcome, s')) : Asks t s s' := by
  refine asks_andThen (fun _ _ => asks_walk) (fun _ now _ _ h => ?_) h
  refine asks_andThen (fun _ _ => asks_walk) (fun _ now _ _ h => ?_) h
  refine asks_andThen (fun _ _ => asks_walk) (fun _ now _ _ h => ?_) h
  refine asks_andThen (fun _ _ => asks_walk) (fun _ now _ _ h => ?_) h
  cases h
  exact .refl now

def welcome? : Except ClientError Answer → Option InitializeResult
  | .ok (.welcome result) => some result
  | _ => none

/-- A call that brings no answer to the handshake only makes requests if its procedure does. -/
theorem asks_answering {answer : α → Answer} {run : Except ClientError α × Session σ} (hrun : Asks t s run.2)
    {outcome : Except ClientError Answer} (h : answering answer run = (outcome, s'))
    (hanswer : ∀ a, welcome? (.ok (answer a)) = none) : Asks t s s' ∧ welcome? outcome = none := by
  obtain ⟨result, last⟩ := run
  cases h
  cases result with
  | error e => exact ⟨hrun, rfl⟩
  | ok a => exact ⟨hrun, hanswer a⟩

/-- Between handshakes and the close a session only makes requests. -/
theorem asks_perform {call : Call} {budget : Nat} (hhandshake : call ≠ .handshake) (hclose : call ≠ .close)
    {outcome : Except ClientError Answer} (h : s.perform t budget call = some (outcome, s')) :
    Asks t s s' ∧ welcome? outcome = none := by
  cases call with
  | handshake => exact absurd rfl hhandshake
  | close => exact absurd rfl hclose
  | server =>
    cases h
    exact ⟨.refl s, rfl⟩
  | ping => exact asks_answering (asks_request t s (by decide) _ _) (Option.some.inj h) fun _ => rfl
  | page listing cursor =>
    exact asks_answering (asks_request t s (methodName_ne listing) _ _) (Option.some.inj h) fun _ => rfl
  | callTool name arguments => exact asks_answering (asks_request t s (by decide) _ _) (Option.some.inj h) fun _ => rfl
  | readResource uri => exact asks_answering (asks_request t s (by decide) _ _) (Option.some.inj h) fun _ => rfl
  | listAll listing =>
    obtain ⟨run, hwalk, heq⟩ := Option.map_eq_some_iff.1 h
    exact asks_answering (asks_walk hwalk) heq fun _ => rfl
  | listCapabilities =>
    obtain ⟨run, hlist, heq⟩ := Option.map_eq_some_iff.1 h
    exact asks_answering (asks_listCapabilities hlist) heq fun _ => rfl

end Asks

/-! ## Before the first handshake -/

section Early

variable {t : Transport σ} {s : Session σ}

theorem request_early (hnone : s.server = none) (method : String) (params : Option Json) (read : Json → Option α) :
    s.request t method params read = (.error .notInitialized, s) := by
  rw [request, hnone]
  rfl

theorem listAll_early (hnone : s.server = none) (listing : Listing) {budget : Nat} (hbudget : 0 < budget) :
    s.listAll t listing budget = some (.error .notInitialized, s) := by
  obtain ⟨pages, rfl⟩ := Nat.exists_eq_succ_of_ne_zero hbudget.ne'
  rw [listAll, walk, page, request_early hnone]

theorem perform_early (hnone : s.server = none) {budget : Nat} (hbudget : 0 < budget) {call : Call}
    (hhandshake : call ≠ .handshake) (hserver : call ≠ .server) (hclose : call ≠ .close) :
    s.perform t budget call = some (.error .notInitialized, s) := by
  cases call with
  | handshake => exact absurd rfl hhandshake
  | server => exact absurd rfl hserver
  | close => exact absurd rfl hclose
  | ping => rw [perform, ping, request_early hnone, answering, Except.map]
  | page listing cursor => rw [perform, page, request_early hnone, answering, Except.map]
  | callTool name arguments => rw [perform, callTool, request_early hnone, answering, Except.map]
  | readResource uri => rw [perform, readResource, request_early hnone, answering, Except.map]
  | listAll listing => rw [perform, listAll_early hnone listing hbudget, Option.map_some, answering, Except.map]
  | listCapabilities =>
    rw [perform, listCapabilities, listAll_early hnone _ hbudget]
    rfl

end Early

/-! ## What is sent -/

/-- Between two states a session sends messages: the requests are numbered on, and nothing else but the notification is
without an id. -/
structure Speaks (s : Session (List Json × σ)) (messages : List Json) (s' : Session (List Json × σ)) : Prop where
  sent : s'.link.1 = s.link.1 ++ messages
  numbered : ∀ first, s.nextId = Int64.ofNat first → ∃ count, s'.nextId = Int64.ofNat (first + count) ∧
    messages.filterMap (·.get? "id") = (List.range' first count).map fun n => Json.int (Int64.ofNat n).toInt
  notifications : ∀ message ∈ messages, message.get? "id" = none ↔ message = ready

section Speaks

variable {s s' s'' : Session (List Json × σ)} {t : Transport σ}

theorem speaks_nothing (hnext : s'.nextId = s.nextId) (hlink : s'.link.1 = s.link.1) : Speaks s [] s' :=
  ⟨by rw [hlink, List.append_nil], fun _ hfirst => ⟨0, hnext.trans hfirst, rfl⟩, nofun⟩

theorem get?_id_ready : ready.get? "id" = none := rfl

theorem requestJson_ne_ready (id : Int) (method : String) (params : Option Json) :
    requestJson (.int id) method params ≠ ready := by
  intro h
  have hid := get?_id_requestJson (.int id) method params
  rw [h, get?_id_ready] at hid
  cases hid

theorem speaks_request {method : String} {params : Option Json} (hnext : s'.nextId = s.nextId + 1)
    (hlink : s'.link.1 = s.link.1 ++ [requestJson (.int s.nextId.toInt) method params]) :
    Speaks s [requestJson (.int s.nextId.toInt) method params] s' where
  sent := hlink
  numbered := by
    intro first hfirst
    refine ⟨1, by rw [hnext, hfirst, Int64.ofNat_add]; rfl, ?_⟩
    rw [List.filterMap_cons, get?_id_requestJson, hfirst]
    rfl
  notifications := by
    intro message hmem
    rw [List.mem_singleton.1 hmem, get?_id_requestJson]
    exact iff_of_false nofun (requestJson_ne_ready _ _ _)

theorem speaks_ready (hnext : s'.nextId = s.nextId) (hlink : s'.link.1 = s.link.1 ++ [ready]) :
    Speaks s [ready] s' where
  sent := hlink
  numbered _ hfirst := ⟨0, hnext.trans hfirst, rfl⟩
  notifications := by
    intro message hmem
    rw [List.mem_singleton.1 hmem]
    exact iff_of_true get?_id_ready rfl

theorem Speaks.trans {messages more : List Json} (h : Speaks s messages s') (h' : Speaks s' more s'') :
    Speaks s (messages ++ more) s'' where
  sent := by rw [h'.sent, h.sent, List.append_assoc]
  numbered := by
    intro first hfirst
    obtain ⟨count, hcount, hids⟩ := h.numbered first hfirst
    obtain ⟨further, hfurther, hmore⟩ := h'.numbered (first + count) hcount
    refine ⟨count + further, by rw [hfurther, Nat.add_assoc], ?_⟩
    rw [List.filterMap_append, hids, hmore, ← List.map_append, List.range'_append_1]
  notifications := by
    intro message hmem
    cases List.mem_append.1 hmem with
    | inl hmem => exact h.notifications message hmem
    | inr hmem => exact h'.notifications message hmem

/-- Requests are all that a session says after the handshake. -/
theorem speaks_of_asks (h : Asks t.recording s s') : ∃ messages, Speaks s messages s' ∧ ready ∉ messages := by
  induction h with
  | refl s => exact ⟨[], speaks_nothing rfl rfl, nofun⟩
  | @ask s s' hknown method _ params _ ih =>
    -- The rest of the messages follows from the state after this one, with the next id.
    obtain ⟨more, hmore, hready⟩ := ih
    refine ⟨_, Speaks.trans (@speaks_request _ s _ method params rfl rfl) hmore, ?_⟩
    rw [List.singleton_append, List.mem_cons, not_or]
    exact ⟨(requestJson_ne_ready _ _ _).symm, hready⟩

/-- The notification follows a greeting that was answered well. -/
theorem speaks_handshake (t : Transport σ) (s : Session (List Json × σ)) :
    ((∃ result, IsWelcome s.nextId.toInt (askWelcome t.recording s).1 result) ∧
        Speaks s [greeting s, ready] (s.handshake t.recording).2) ∨
      ((∀ result, ¬IsWelcome s.nextId.toInt (askWelcome t.recording s).1 result) ∧
        Speaks s [greeting s] (s.handshake t.recording).2) := by
  have hasked : Speaks s [greeting s] { s with nextId := s.nextId + 1, link := (askWelcome t.recording s).2 } :=
    speaks_request rfl rfl
  have htold : ∀ known, Speaks s [greeting s, ready]
      { nextId := s.nextId + 1, server := known, link := (tellReady t.recording s).2 } :=
    fun known => hasked.trans (speaks_ready rfl rfl)
  have hall := handshaken t.recording s
  generalize s.handshake t.recording = after at hall ⊢
  cases hall with
  | refused h => exact .inr ⟨h, hasked⟩
  | untold h _ => exact .inl ⟨⟨_, h⟩, htold _⟩
  | done h _ => exact .inl ⟨⟨_, h⟩, htold _⟩

end Speaks

/-! ## Runs -/

section Runs

variable {t : Transport σ} {s s' : Session (List Json × σ)} {budget : Nat}

/-- A call that leaves the session open changes what is known of the server only if it is a handshake that succeeds. -/
theorem speaks_perform {call : Call} (hclose : call ≠ .close) {outcome : Except ClientError Answer}
    (h : s.perform t.recording budget call = some (outcome, s')) :
    (∃ messages, Speaks s messages s') ∧ s'.server = (welcome? outcome).or s.server := by
  by_cases hhandshake : call = .handshake
  · subst hhandshake
    have hspeaks : ∃ messages, Speaks s messages (s.handshake t.recording).2 := by
      cases speaks_handshake t s with
      | inl h => exact ⟨_, h.2⟩
      | inr h => exact ⟨_, h.2⟩
    cases h
    refine ⟨hspeaks, ?_⟩
    have hall := handshaken t.recording s
    generalize s.handshake t.recording = after at hall ⊢
    cases hall <;> rfl
  · obtain ⟨hasks, hnone⟩ := asks_perform hhandshake hclose h
    obtain ⟨messages, hspeaks, -⟩ := speaks_of_asks hasks
    rw [hnone, hasks.server_eq]
    exact ⟨⟨messages, hspeaks⟩, rfl⟩

theorem speaks_performAll {calls : List Call} (hclose : .close ∉ calls)
    {outcomes : List (Except ClientError Answer)} (h : s.performAll t.recording budget calls = some (outcomes, s')) :
    (∃ messages, Speaks s messages s') ∧ s'.server = ((outcomes.filterMap welcome?).getLast?).or s.server := by
  induction calls generalizing s outcomes with
  | nil =>
    cases h
    exact ⟨⟨[], speaks_nothing rfl rfl⟩, rfl⟩
  | cons call later ih =>
    obtain ⟨⟨outcome, now⟩, hcall, h⟩ := Option.bind_eq_some_iff.1 h
    obtain ⟨⟨rest, last⟩, hlater, h⟩ := Option.bind_eq_some_iff.1 h
    cases h
    rw [List.mem_cons, not_or] at hclose
    obtain ⟨⟨messages, hmessages⟩, hnow⟩ := speaks_perform (Ne.symm hclose.1) hcall
    obtain ⟨⟨more, hmore⟩, hlast⟩ := ih hclose.2 hlater
    refine ⟨⟨_, hmessages.trans hmore⟩, ?_⟩
    rw [hlast, hnow]
    -- What this call has brought is known only as long as no later call brings more.
    cases hwelcome : welcome? outcome with
    | none => rw [List.filterMap_cons_none hwelcome, Option.none_or]
    | some result =>
      rw [List.filterMap_cons_some hwelcome, List.getLast?_cons]
      cases (rest.filterMap welcome?).getLast? <;> rfl

theorem performAll_cons {t : Transport σ} {s now s' : Session σ} {call : Call} {later : List Call}
    {outcome : Except ClientError Answer} {outcomes : List (Except ClientError Answer)}
    (hcall : s.perform t budget call = some (outcome, now))
    (hlater : now.performAll t budget later = some (outcomes, s')) :
    s.performAll t budget (call :: later) = some (outcome :: outcomes, s') :=
  Option.bind_eq_some_iff.2 ⟨_, hcall, Option.bind_eq_some_iff.2 ⟨_, hlater, rfl⟩⟩

/-- The last of several calls is made after the others. -/
theorem performAll_concat {t : Transport σ} {s s' : Session σ} {calls : List Call} {call : Call}
    {outcomes : List (Except ClientError Answer)} (h : s.performAll t budget (calls ++ [call]) = some (outcomes, s')) :
    ∃ earlier now outcome, s.performAll t budget calls = some (earlier, now) ∧
      now.perform t budget call = some (outcome, s') ∧ outcomes = earlier ++ [outcome] := by
  induction calls generalizing s outcomes with
  | nil =>
    obtain ⟨⟨outcome, last⟩, hcall, h⟩ := Option.bind_eq_some_iff.1 h
    cases h
    exact ⟨[], s, outcome, rfl, hcall, rfl⟩
  | cons first later ih =>
    obtain ⟨⟨outcome, now⟩, hfirst, h⟩ := Option.bind_eq_some_iff.1 h
    obtain ⟨⟨rest, last⟩, hrest, h⟩ := Option.bind_eq_some_iff.1 h
    cases h
    obtain ⟨earlier, before, final, hearlier, hcall, rfl⟩ := ih hrest
    exact ⟨outcome :: earlier, before, final, performAll_cons hfirst hearlier, hcall, rfl⟩

end Runs

/-- How a session does its handshakes. A handshake succeeds if the answer to its request is accepted and the server can
be told so. The server is told no earlier, and the session learns of the server no earlier than that. -/
structure Greets (t : Transport σ) (s : Session (List Json × σ)) : Prop where
  succeeds_iff : ∀ result, (s.handshake t.recording).1 = .ok result ↔
    IsWelcome s.nextId.toInt (askWelcome t.recording s).1 result ∧ ∃ reply, (tellReady t.recording s).1 = .ok reply
  accepted : (∃ result, IsWelcome s.nextId.toInt (askWelcome t.recording s).1 result) →
    (s.handshake t.recording).2.link.1 = s.link.1 ++ [greeting s, ready]
  refused : (∀ result, ¬IsWelcome s.nextId.toInt (askWelcome t.recording s).1 result) →
    (s.handshake t.recording).2.link.1 = s.link.1 ++ [greeting s]
  learns : ∀ result, (s.handshake t.recording).1 = .ok result → (s.handshake t.recording).2.server = some result
  keeps : ∀ e, (s.handshake t.recording).1 = .error e → (s.handshake t.recording).2.server = s.server

theorem greets (t : Transport σ) (s : Session (List Json × σ)) : Greets t s where
  succeeds_iff := by
    intro result
    have hall := handshaken t.recording s
    generalize s.handshake t.recording = after at hall ⊢
    cases hall with
    | refused h => exact iff_of_false nofun fun h' => h result h'.1
    | untold h htold =>
      refine iff_of_false nofun ?_
      rintro ⟨-, reply, hreply⟩
      rw [htold] at hreply
      cases hreply
    | @done known reply h htold =>
      constructor
      · intro heq
        cases heq
        exact ⟨h, reply, htold⟩
      · rintro ⟨h', -⟩
        have hread : readAnswer s.nextId.toInt "initialize" InitializeResult.ofJson? _ = .ok known :=
          readAnswer_eq_ok_iff.2 h.1
        rw [readAnswer_eq_ok_iff.2 h'.1] at hread
        cases hread
        rfl
  accepted := by
    rintro ⟨result, h⟩
    cases speaks_handshake t s with
    | inl h' => exact h'.2.sent
    | inr h' => exact absurd h (h'.1 result)
  refused := by
    intro h
    cases speaks_handshake t s with
    | inl h' =>
      obtain ⟨result, hresult⟩ := h'.1
      exact absurd hresult (h result)
    | inr h' => exact h'.2.sent
  learns := by
    intro result
    have hall := handshaken t.recording s
    generalize s.handshake t.recording = after at hall ⊢
    cases hall with
    | refused => exact nofun
    | untold => exact nofun
    | done =>
      intro heq
      cases heq
      rfl
  keeps := by
    intro e
    have hall := handshaken t.recording s
    generalize s.handshake t.recording = after at hall ⊢
    cases hall with
    | refused => exact fun _ => rfl
    | untold => exact fun _ => rfl
    | done => exact nofun

/-- Numbers that fit into a word are not changed by it. -/
theorem toInt_range' {count : Nat} (hfew : count < 2 ^ 63) :
    (List.range' 1 count).map (fun n => Json.int (Int64.ofNat n).toInt) =
      (List.range' 1 count).map fun n : Nat => Json.int n := by
  refine List.map_congr_left fun n hn => ?_
  obtain ⟨-, hle⟩ := List.mem_range'_1.1 hn
  rw [Int64.toInt_ofNat_of_lt (by omega)]

/-- What holds of a session that is not closed, after calls with the given outcomes, and of its next call. -/
structure Disciplined (t : Transport σ) (budget : Nat) (outcomes : List (Except ClientError Answer))
    (s : Session (List Json × σ)) : Prop where
  /-- The ids that were sent are 1, 2, 3, … as far as a word goes, and the next one follows them. -/
  numbered : ∃ count, s.nextId = Int64.ofNat (count + 1) ∧
    s.link.1.filterMap (·.get? "id") = (List.range' 1 count).map (fun n => Json.int (Int64.ofNat n).toInt) ∧
    (count < 2 ^ 63 → s.link.1.filterMap (·.get? "id") = (List.range' 1 count).map fun n : Nat => Json.int n)
  notifications : ∀ message ∈ s.link.1, message.get? "id" = none ↔ message = ready
  known : s.server = (outcomes.filterMap welcome?).getLast?
  reads : s.perform t.recording budget .server = some (.ok (.server s.server), s)
  /-- Without a handshake that has succeeded, calls that need one leave the session and its transport as they are. -/
  early : outcomes.filterMap welcome? = [] → ∀ call, call ≠ .handshake → call ≠ .server → call ≠ .close →
    s.perform t.recording budget call = some (.error .notInitialized, s)
  greets : Greets t s
  /-- The notification is left to handshakes. -/
  reticent : ∀ call outcome s', call ≠ .handshake → s.perform t.recording budget call = some (outcome, s') →
    ∃ messages, s'.link.1 = s.link.1 ++ messages ∧ ready ∉ messages
  /-- A close only closes the transport, handshake or no handshake. -/
  closes : s.perform t.recording budget .close =
    some ((t.close s.link.2).1.map fun _ => .done,
      { nextId := s.nextId, server := none, link := (s.link.1, (t.close s.link.2).2) })

/-- Whatever a transport does and whichever calls are made on a session before it is closed. A walk that never ends has
no outcome, but the states that it goes through are those after calls for its pages, one by one. -/
theorem session_disciplined (t : Transport σ) (link : σ) {budget : Nat} (hbudget : 0 < budget) {calls : List Call}
    (hclose : .close ∉ calls) {outcomes : List (Except ClientError Answer)} {s : Session (List Json × σ)}
    (h : performAll t.recording budget (start ([], link)) calls = some (outcomes, s)) :
    Disciplined t budget outcomes s := by
  obtain ⟨⟨messages, hspeaks⟩, hserver⟩ := speaks_performAll hclose h
  have hsent : s.link.1 = messages := hspeaks.sent
  have hknown : s.server = (outcomes.filterMap welcome?).getLast? := by rw [hserver, start, Option.or_none]
  obtain ⟨count, hcount, hids⟩ := hspeaks.numbered 1 rfl
  exact {
    numbered := by
      rw [Nat.add_comm] at hcount
      refine ⟨count, hcount, by rw [hsent, hids], fun hfew => ?_⟩
      rw [hsent, hids, toInt_range' hfew]
    notifications := by
      rw [hsent]
      exact hspeaks.notifications
    known := hknown
    reads := rfl
    early := by
      intro hnone call
      rw [hnone] at hknown
      exact perform_early hknown hbudget
    greets := Session.greets t s
    reticent := by
      intro call outcome s' hhandshake hcall
      by_cases hlast : call = .close
      · subst hlast
        cases hcall
        exact ⟨[], (List.append_nil _).symm, nofun⟩
      · obtain ⟨more, hmore, hready⟩ := speaks_of_asks (asks_perform hhandshake hlast hcall).1
        exact ⟨more, hmore.sent, hready⟩
    closes := rfl }

theorem session_disciplined_ping :
    ∃ outcomes s,
      performAll (Transport.direct ⟨"demo", none⟩).recording 1 (start ([], ())) [.ping, .handshake, .ping] =
          some (outcomes, s) ∧
        outcomes.map failure? = [some .notInitialized, none, none] ∧
        Disciplined (Transport.direct ⟨"demo", none⟩) 1 outcomes s := by
  have hrun : (performAll (Transport.direct ⟨"demo", none⟩).recording 1 (start ([], ()))
      [.ping, .handshake, .ping]).map (fun run => run.1.map failure?) = some [some .notInitialized, none, none] := by
    decide +kernel
  obtain ⟨⟨outcomes, s⟩, h, hfailures⟩ := Option.map_eq_some_iff.1 hrun
  exact ⟨outcomes, s, h, hfailures, session_disciplined _ () Nat.one_pos (by decide) h⟩

/-- A session can be closed without a handshake. -/
theorem not_close_early :
    ¬∀ call, call ≠ .handshake → call ≠ .server →
      perform (Transport.direct ⟨"demo", none⟩).recording 1 (start ([], ())) call =
        some (.error .notInitialized, start ([], ())) := by
  intro h
  cases h .close nofun nofun

end Session
end ModelContext
