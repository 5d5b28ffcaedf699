import ModelContext.Client.Call
import ModelContext.Proofs.Delivery
import ModelContext.Proofs.TypedReplies

/-!
# One course over every transport

Over every transport that delivers to a server, the calls of a session take the same course: they come to
the same outcomes, keep the same answer to the handshake and send the same messages. A transport takes part in
it as far as it carries those messages.
-/

namespace ModelContext

open Json

namespace Session

variable {α β : Type}

/-- What a call comes to, the next id and what is known of the server after it, and the messages that it sends. -/
structure Course (α : Type) where
  outcome : Except ClientError α
  nextId : Int64
  known : Option InitializeResult
  sent : List Json

/-- Calls on sessions, whatever their transport. -/
abbrev Procedure (α : Type) : Type 1 :=
  (σ : Type) → Transport σ → Session σ → Option (Except ClientError α × Session σ)

section Courses

variable (server : Server)

/-- A call takes a course over every transport that delivers to a server and carries what the call sends. The transport
is linked if the handshake is done. -/
def Takes (nextId : Int64) (known : Option InitializeResult) (call : Procedure α) (course : Course α) : Prop :=
  ∀ (σ : Type) (t : Transport σ) (carries : Json → Prop) (isOpen isLinked : σ → Prop),
    Delivers server t carries isOpen isLinked → (∀ message ∈ course.sent, carries message) →
    ∀ sent link, isOpen link → (known.isSome = true → isLinked link) →
      ∃ link', call _ t.recording { nextId, server := known, link := (sent, link) } =
          some (course.outcome,
            { nextId := course.nextId, server := course.known, link := (sent ++ course.sent, link') }) ∧
        isOpen link' ∧ (course.known.isSome = true → isLinked link')

def Settles (nextId : Int64) (known : Option InitializeResult) (call : Procedure α) : Prop :=
  ∃ course, Takes server nextId known call course ∧ Settled course.outcome

variable {server} {nextId : Int64} {known : Option InitializeResult}

/-- A message that is delivered is recorded. -/
theorem send_recording {σ : Type} {t : Transport σ} {carries : Json → Prop} {isOpen isLinked : σ → Prop}
    (h : Delivers server t carries isOpen isLinked) {message : Json} (hportable : Portable server message)
    (hcarries : carries message) (sent : List Json) {link : σ}
    (hlink : isLinked link ∨ isOpen link ∧ opensAnswered server message = true) :
    ∃ link', t.recording.send message (sent, link) = (.ok (server.answer message).value, sent ++ [message], link') ∧
      isLinked link' := by
  obtain ⟨houtcome, hlinked⟩ := h.send message link hportable hcarries hlink
  refine ⟨(t.send message link).2, ?_, hlinked⟩
  rw [← houtcome]
  rfl

theorem send_eq {σ : Type} (t : Transport σ) (method : String) (params : Option Json) (read : Json → Option α)
    (s : Session σ) :
    s.send t method params read =
      (readAnswer s.nextId.toInt method read (t.send (requestJson (.int s.nextId.toInt) method params) s.link).1,
        { s with
          nextId := s.nextId + 1, link := (t.send (requestJson (.int s.nextId.toInt) method params) s.link).2 }) := rfl

/-- After the handshake a request is sent. -/
theorem request_eq {σ : Type} {t : Transport σ} {s : Session σ} (hknown : s.server.isSome = true) (method : String)
    (params : Option Json) (read : Json → Option α) : s.request t method params read = s.send t method params read := by
  apply if_neg
  rw [Option.isNone_eq_false_iff.2 hknown]
  decide

theorem takes_request {method : String} {params : Option Json} {read : Json → Option α} (hknown : known.isSome = true)
    (hportable : Portable server (requestJson (.int nextId.toInt) method params)) :
    Takes server nextId known (fun _ t s => some (s.request t method params read))
      { outcome := outcomeOf server nextId.toInt method params read, nextId := nextId + 1, known,
        sent := [requestJson (.int nextId.toInt) method params] } := by
  intro σ t carries isOpen isLinked hdelivers hcarries sent link hopen hlinked
  obtain ⟨link', hsend, hlink'⟩ :=
    send_recording hdelivers hportable (hcarries _ List.mem_cons_self) sent (Or.inl (hlinked hknown))
  refine ⟨link', ?_, hdelivers.isOpen_of_isLinked link' hlink', fun _ => hlink'⟩
  beta_reduce
  rw [request_eq hknown, send_eq, hsend]
  rfl

theorem takes_early {method : String} {params : Option Json} {read : Json → Option α} :
    Takes server nextId none (fun _ t s => some (s.request t method params read))
      { outcome := .error .notInitialized, nextId, known := none, sent := [] } := by
  intro σ t carries isOpen isLinked _ _ sent link hopen hlinked
  refine ⟨link, ?_, hopen, hlinked⟩
  rw [List.append_nil]
  rfl

/-- A request settles if its answer does. -/
theorem settles_request {method : String} {params : Option Json} {read : Json → Option α}
    (hportable : Portable server (requestJson (.int nextId.toInt) method params))
    (hsettled : Settled (outcomeOf server nextId.toInt method params read)) :
    Settles server nextId known fun _ t s => some (s.request t method params read) := by
  cases known with
  | none => exact ⟨_, takes_early, .early⟩
  | some result => exact ⟨_, takes_request rfl hportable, hsettled⟩

theorem handshake_eq {σ : Type} {t : Transport σ} {s : Session σ} {answer : Except ClientError (Option Json)}
    {result : InitializeResult} {reply : Option Json} {link₁ link₂ : σ}
    (hrequest : t.send (requestJson (.int s.nextId.toInt) Method.handshake.name (some handshakeParams)) s.link =
      (answer, link₁))
    (hread : readAnswer s.nextId.toInt Method.handshake.name InitializeResult.ofJson? answer = .ok result)
    (haccepted : result.protocolVersion ∈ acceptedVersions)
    (hready : t.send (notificationJson "notifications/initialized") link₁ = (.ok reply, link₂)) :
    s.handshake t = (.ok result, { nextId := s.nextId + 1, server := some result, link := link₂ }) := by
  rw [handshake, send_eq, hrequest]
  dsimp only
  rw [hread]
  dsimp only
  rw [if_pos haccepted, hready]

/-- A handshake succeeds, also when it is not the first. -/
theorem takes_handshake :
    Takes server nextId known (fun _ t s => some (s.handshake t))
      { outcome := .ok (server.welcome Server.protocolVersion), nextId := nextId + 1,
        known := some (server.welcome Server.protocolVersion),
        sent := [requestJson (.int nextId.toInt) Method.handshake.name (some handshakeParams),
          notificationJson "notifications/initialized"] } := by
  have hid := fitsInt64_toInt nextId
  intro σ t carries isOpen isLinked hdelivers hcarries sent link hopen _
  obtain ⟨hgreets, htells⟩ := List.forall_mem_cons.1 hcarries
  obtain ⟨link₁, hrequest, hlink₁⟩ := send_recording hdelivers (portable_handshake server hid) hgreets sent
    (Or.inr ⟨hopen, opensAnswered_handshake server hid⟩)
  obtain ⟨link₂, hready, hlink₂⟩ := send_recording hdelivers (portable_ready server)
    (List.forall_mem_singleton.1 htells)
    (sent ++ [requestJson (.int nextId.toInt) Method.handshake.name (some handshakeParams)]) (Or.inl hlink₁)
  have haccepted : (server.welcome Server.protocolVersion).protocolVersion ∈ acceptedVersions :=
    (by decide : Server.protocolVersion ∈ acceptedVersions)
  refine ⟨link₂, ?_, hdelivers.isOpen_of_isLinked link₂ hlink₂, fun _ => hlink₂⟩
  rw [List.append_assoc] at hready
  beta_reduce
  rw [@handshake_eq _ t.recording _ _ _ _ _ _ hrequest (outcomeOf_handshake server hid) haccepted hready]
  rfl

/-- A walk over a listing that comes as one page takes the course of its page. -/
theorem takes_walk {listing : Listing} {cursor : Option String} {course : Course (Page listing.Item)}
    (h : Takes server nextId known (fun _ t s => some (s.page t listing cursor)) course)
    (hlast : ∀ page, course.outcome = .ok page → page.nextCursor = none) (seen : List String) {budget : Nat}
    (hbudget : 0 < budget) :
    Takes server nextId known (fun _ t s => s.walk t listing seen cursor budget)
      { course with outcome := course.outcome.map Page.items } := by
  obtain ⟨budget, rfl⟩ : ∃ k, budget = k + 1 := ⟨budget - 1, by omega⟩
  intro σ t carries isOpen isLinked hdelivers hcarries sent link hopen hlinked
  obtain ⟨link', hpage, hafter⟩ := h σ t carries isOpen isLinked hdelivers hcarries sent link hopen hlinked
  refine ⟨link', ?_, hafter⟩
  beta_reduce
  rw [walk, Option.some.inj hpage]
  cases houtcome : course.outcome with
  | error e => rfl
  | ok page =>
    dsimp only
    rw [hlast page houtcome]
    rfl

/-- Two calls after each other settle, the second with the answer of the first. -/
theorem Settles.andThen {first : Procedure α} {next : α → Procedure β} (hfirst : Settles server nextId known first)
    (hnext : ∀ a after found, Settles server after found (next a)) :
    Settles server nextId known fun _ t s => Session.andThen (first _ t s) fun a s => next a _ t s := by
  obtain ⟨course, htakes, hsettled⟩ := hfirst
  cases houtcome : course.outcome with
  | error e =>
    rw [houtcome] at hsettled
    refine ⟨{ course with outcome := .error e }, ?_, hsettled.error⟩
    intro σ t carries isOpen isLinked hdelivers hcarries sent link hopen hlinked
    obtain ⟨link', hcall, hafter⟩ := htakes σ t carries isOpen isLinked hdelivers hcarries sent link hopen hlinked
    refine ⟨link', ?_, hafter⟩
    beta_reduce
    rw [hcall, houtcome]
    rfl
  | ok a =>
    obtain ⟨later, hlater, hsettled⟩ := hnext a course.nextId course.known
    refine ⟨{ later with sent := course.sent ++ later.sent }, ?_, hsettled⟩
    intro σ t carries isOpen isLinked hdelivers hcarries sent link hopen hlinked
    obtain ⟨hcarried, hrest⟩ := List.forall_mem_append.1 hcarries
    obtain ⟨link₁, hcall, hopen₁, hlinked₁⟩ :=
      htakes σ t carries isOpen isLinked hdelivers hcarried sent link hopen hlinked
    obtain ⟨link₂, hrun, hafter⟩ :=
      hlater σ t carries isOpen isLinked hdelivers hrest (sent ++ course.sent) link₁ hopen₁ hlinked₁
    refine ⟨link₂, ?_, hafter⟩
    beta_reduce
    rw [hcall, houtcome, ← List.append_assoc]
    exact hrun

theorem settles_listAll (listing : Listing) {budget : Nat} (hbudget : 0 < budget) :
    Settles server nextId known fun _ t s => s.listAll t listing budget := by
  cases known with
  | none =>
    have hpage : Takes server nextId none (fun _ t s => some (s.page t listing none)) _ := takes_early
    exact ⟨_, takes_walk hpage (by rintro _ ⟨⟩) [] hbudget, .early⟩
  | some result =>
    have hid := fitsInt64_toInt nextId
    have hpage : Takes server nextId (some result) (fun _ t s => some (s.page t listing none)) _ :=
      takes_request rfl (portable_page server hid listing none)
    rw [outcomeOf_page server hid listing none] at hpage
    exact ⟨_, takes_walk hpage (by rintro _ ⟨⟩; rfl) [] hbudget, .done _⟩

theorem settles_listCapabilities {budget : Nat} (hbudget : 0 < budget) :
    Settles server nextId known fun _ t s => s.listCapabilities t budget := by
  have hdone : ∀ prompts resources templates tools after found, Settles server after found
      fun _ _ s => some (.ok ({ prompts, resources, templates, tools } : Capabilities), s) := by
    intro prompts resources templates tools after found
    refine ⟨{ outcome := .ok { prompts, resources, templates, tools }, nextId := after, known := found, sent := [] },
      ?_, .done _⟩
    intro σ t carries isOpen isLinked _ _ sent link hopen hlinked
    refine ⟨link, ?_, hopen, hlinked⟩
    rw [List.append_nil]
  refine Settles.andThen (settles_listAll .prompts hbudget) fun prompts _ _ => ?_
  refine Settles.andThen (settles_listAll .resources hbudget) fun resources _ _ => ?_
  refine Settles.andThen (settles_listAll .templates hbudget) fun templates _ _ => ?_
  refine Settles.andThen (settles_listAll .tools hbudget) fun tools _ _ => ?_
  exact hdone prompts resources templates tools _ _

end Courses

/-! ## Runs -/

section Runs

variable {server : Server}

/-- An outcome as one of an answer. -/
theorem Takes.answering {nextId : Int64} {known : Option InitializeResult} {call : Procedure α} {course : Course α}
    (h : Takes server nextId known call course) (answer : α → Answer) :
    Takes server nextId known (fun _ t s => (call _ t s).map (Session.answering answer))
      { course with outcome := course.outcome.map answer } := by
  intro σ t carries isOpen isLinked hdelivers hcarries sent link hopen hlinked
  obtain ⟨link', hcall, hafter⟩ := h σ t carries isOpen isLinked hdelivers hcarries sent link hopen hlinked
  refine ⟨link', ?_, hafter⟩
  beta_reduce
  rw [hcall]
  rfl

structure Ends (server : Server) (call : Call) (outcome : Except ClientError Answer) : Prop where
  settled : Settled outcome
  welcomed : call = .handshake → outcome = .ok (.welcome (server.welcome Server.protocolVersion))

theorem Settles.answering {nextId : Int64} {known : Option InitializeResult} {procedure : Procedure α}
    (h : Settles server nextId known procedure) (answer : α → Answer) {call : Call} (hcall : call ≠ .handshake) :
    ∃ course, Takes server nextId known (fun _ t s => (procedure _ t s).map (Session.answering answer)) course ∧
      Ends server call course.outcome := by
  obtain ⟨course, htakes, hsettled⟩ := h
  exact ⟨_, htakes.answering answer, hsettled.map answer, fun h => absurd h hcall⟩

/-- Every call but a close takes a course, and the handshake is done after it if it was before. -/
theorem takes_perform {nextId : Int64} {known : Option InitializeResult} {budget : Nat} (hbudget : 0 < budget)
    {call : Call} (hclose : call ≠ .close)
    (hsendable : ∀ name arguments, call = .callTool name arguments → IsSendable arguments) :
    ∃ course, Takes server nextId known (fun _ t s => s.perform t budget call) course ∧
      Ends server call course.outcome := by
  have hid := fitsInt64_toInt nextId
  cases call with
  | handshake => exact ⟨_, takes_handshake.answering .welcome, .done _, fun _ => rfl⟩
  | server =>
    refine ⟨{ outcome := .ok (.server known), nextId, known, sent := [] }, ?_, .done _, nofun⟩
    intro σ t carries isOpen isLinked _ _ sent link hopen hlinked
    refine ⟨link, ?_, hopen, hlinked⟩
    rw [List.append_nil]
    rfl
  | ping =>
    exact (settles_request (portable_bare server hid Method.ping.name) (sees_ping server hid).settled).answering _ nofun
  | page listing cursor =>
    exact (settles_request (portable_page server hid listing cursor)
      (sees_page server hid listing cursor).settled).answering _ nofun
  | listAll listing => exact (settles_listAll listing hbudget).answering _ nofun
  | listCapabilities => exact (settles_listCapabilities hbudget).answering _ nofun
  | callTool name arguments =>
    have hargs := hsendable name arguments rfl
    exact (settles_request (portable_callTool server hid name hargs)
      (sees_callTool server hid name arguments).settled).answering _ nofun
  | readResource uri =>
    exact (settles_request (portable_text server hid Method.readResource.name "uri" uri (by decide))
      (sees_readResource server hid uri).settled).answering _ nofun
  | close => exact absurd rfl hclose

/-- A run comes to the same over every transport that delivers to a server and carries what is said. -/
def TakesAll (server : Server) (budget : Nat) (nextId : Int64) (known : Option InitializeResult) (calls : List Call)
    (outcomes : List (Except ClientError Answer)) (last : Int64) (found : Option InitializeResult) (said : List Json) :
    Prop :=
  ∀ (σ : Type) (t : Transport σ) (carries : Json → Prop) (isOpen isLinked : σ → Prop),
    Delivers server t carries isOpen isLinked → (∀ message ∈ said, carries message) →
    ∀ sent link, isOpen link → (known.isSome = true → isLinked link) →
      ∃ link', performAll t.recording budget { nextId, server := known, link := (sent, link) } calls =
        some (outcomes, { nextId := last, server := found, link := (sent ++ said, link') })

theorem takesAll_performAll {budget : Nat} (hbudget : 0 < budget) (calls : List Call) (nextId : Int64)
    (known : Option InitializeResult) (hclose : .close ∉ calls.dropLast)
    (hsendable : ∀ name arguments, .callTool name arguments ∈ calls → IsSendable arguments) :
    ∃ outcomes last found said, List.Forall₂ (Ends server) calls outcomes ∧
      TakesAll server budget nextId known calls outcomes last found said := by
  induction calls generalizing nextId known with
  | nil =>
    refine ⟨[], nextId, known, [], .nil, ?_⟩
    intro σ t carries isOpen isLinked _ _ sent link _ _
    refine ⟨link, ?_⟩
    rw [List.append_nil]
    rfl
  | cons call later ih =>
    by_cases hlast : call = .close
    · subst hlast
      have hnil : later = [] := by
        by_contra hne
        rw [List.dropLast_cons_of_ne_nil hne] at hclose
        exact hclose List.mem_cons_self
      subst hnil
      refine ⟨[.ok .done], nextId, none, [], .cons ⟨.done _, nofun⟩ .nil, ?_⟩
      intro σ t carries isOpen isLinked hdelivers _ sent link hopen _
      refine ⟨(t.close link).2, ?_⟩
      have hperform : perform t.recording budget { nextId, server := known, link := (sent, link) } .close =
          some ((t.close link).1.map fun _ => .done,
            { nextId, server := none, link := (sent, (t.close link).2) }) := rfl
      rw [performAll, hperform, hdelivers.close link hopen, List.append_nil]
      rfl
    · obtain ⟨course, htakes, hends⟩ := @takes_perform server nextId known budget hbudget call hlast
        fun name arguments heq => hsendable name arguments (by rw [heq]; exact List.mem_cons_self)
      obtain ⟨outcomes, last, found, said, hall, hrun⟩ := ih course.nextId course.known
        (fun hmem => hclose (by
          cases later with
          | nil => cases hmem
          | cons next later => exact List.mem_cons_of_mem call hmem))
        fun name arguments hmem => hsendable name arguments (List.mem_cons_of_mem call hmem)
      refine ⟨course.outcome :: outcomes, last, found, course.sent ++ said, .cons hends hall, ?_⟩
      intro σ t carries isOpen isLinked hdelivers hcarries sent link hopen hlinked
      obtain ⟨hcarried, hrest⟩ := List.forall_mem_append.1 hcarries
      obtain ⟨link₁, hperform, hopen₁, hlinked₁⟩ :=
        htakes σ t carries isOpen isLinked hdelivers hcarried sent link hopen hlinked
      obtain ⟨link₂, hlater⟩ :=
        hrun σ t carries isOpen isLinked hdelivers hrest (sent ++ course.sent) link₁ hopen₁ hlinked₁
      refine ⟨link₂, ?_⟩
      beta_reduce at hperform
      rw [performAll, hperform, ← List.append_assoc]
      dsimp only [Option.bind_eq_bind, Option.bind_some]
      rw [hlater]
      rfl

end Runs

end Session

/-! ## Three transports -/

open Session

/-- In process, over HTTP and in a child process, calls on a new session with a server come to the same outcomes,
leave the same answer to the handshake behind and send the same messages. Handshakes are welcomed, and a call
that fails is refused by the server or was made before the handshake. -/
def TransportsAgree (server : Server) (client : WebClient) (ids : Http.SessionIds) (store : Http.SessionStore)
    (budget : Nat) (calls : List Call) : Prop :=
  ∃ outcomes nextId known sent web child, List.Forall₂ (Ends server) calls outcomes ∧
    performAll (Transport.direct server).recording budget (start ([], ())) calls =
      some (outcomes, { nextId, server := known, link := (sent, ()) }) ∧
    performAll (client.transport (.toRouter ⟨server, ids⟩)).recording budget
        (start ([], { session := none, wire := store })) calls =
      some (outcomes, { nextId, server := known, link := (sent, web) }) ∧
    performAll (ChildLink.transport (Peer.serving server)).recording budget (start ([], .start () [])) calls =
      some (outcomes, { nextId, server := known, link := (sent, child) })

/-- The messages that calls on a new session send to a server in the same process all fit into the body of a request. -/
def FitBodies (server : Server) (budget : Nat) (calls : List Call) : Prop :=
  ∀ outcomes s, performAll (Transport.direct server).recording budget (start ([], ())) calls = some (outcomes, s) →
    ∀ message ∈ s.link.1, FitsBody message

/-- The transports agree on every run that closes last, if the arguments of tools can be carried and no message is too
long. -/
theorem transports_agree {server : Server} {client : WebClient} (hclient : client.Fits server) (ids : Http.SessionIds)
    (store : Http.SessionStore) {budget : Nat} (hbudget : 0 < budget) {calls : List Call}
    (hclose : .close ∉ calls.dropLast)
    (hsendable : ∀ name arguments, .callTool name arguments ∈ calls → IsSendable arguments)
    (hfits : FitBodies server budget calls) : TransportsAgree server client ids store budget calls := by
  obtain ⟨outcomes, last, found, said, hends, hrun⟩ :=
    @takesAll_performAll server budget hbudget calls 1 none hclose hsendable
  obtain ⟨_, hdirect⟩ := hrun Unit _ _ _ _ (delivers_direct server) (fun _ _ => trivial) [] () trivial nofun
  obtain ⟨web, hweb⟩ := hrun _ _ _ _ _ (WebClient.delivers hclient ids) (hfits _ _ hdirect) []
    { session := none, wire := store } (by rintro _ ⟨⟩) nofun
  obtain ⟨child, hchild⟩ := hrun _ _ _ _ _ (ChildLink.delivers server) (fun _ _ => trivial) [] (.start () [])
    ⟨rfl, rfl⟩ nofun
  exact ⟨outcomes, last, found, said, web, child, hends, hdirect, hweb, hchild⟩

/-- Whether all messages of a run fit can be computed. -/
theorem fitBodies_of_run {server : Server} {budget : Nat} {calls : List Call}
    (h : (performAll (Transport.direct server).recording budget (start ([], ())) calls).all
      (fun run => run.2.link.1.all fun message => FitsBody message) = true) : FitBodies server budget calls := by
  intro outcomes s hrun message hmem
  rw [hrun, Option.all_some, List.all_eq_true] at h
  exact of_decide_eq_true (h message hmem)

/-- A client with a token calls a tool between two handshakes. -/
theorem transports_agree_token :
    let server : Server := ⟨"demo", some "sesame"⟩
    let client : WebClient := ⟨some "/mcp", some "sesame"⟩
    let arguments := Json.obj [("a", .int 2), ("b", .float (.zero true))]
    let calls : List Call := [.ping, .handshake, .callTool "add" arguments, .listCapabilities, .handshake, .close]
    client.Fits server ∧ .close ∉ calls.dropLast ∧ IsSendable arguments ∧ FitBodies server 1 calls ∧
      TransportsAgree server client .numbered .empty 1 calls := by
  intro server client arguments calls
  have hvisible : "sesame".toList.all (fun c => Text.IsVisible c) = true := by decide
  have hclient : client.Fits server := by
    refine ⟨rfl, Or.inr rfl, ?_⟩
    rintro _ ⟨⟩
    exact ⟨by decide, List.all_iff_forall_prop.1 hvisible⟩
  have hsendable : IsSendable arguments := ⟨by decide, by decide, by decide⟩
  have hall : ∀ name given, .callTool name given ∈ calls → IsSendable given := by
    intro name given hmem
    simp only [calls, List.mem_cons, Call.callTool.injEq, reduceCtorEq, List.not_mem_nil, or_false, false_or] at hmem
    rw [hmem.2]
    exact hsendable
  have hfits : FitBodies server 1 calls := fitBodies_of_run (by decide +kernel)
  exact ⟨hclient, by decide, hsendable, hfits,
    transports_agree hclient .numbered .empty Nat.one_pos (by decide) hall hfits⟩

theorem request_error {σ α : Type} {t : Transport σ} {s : Session σ} (hknown : s.server.isSome = true) {method : String}
    {params : Option Json} (read : Json → Option α) {e : ClientError}
    (hsend : (t.send (requestJson (.int s.nextId.toInt) method params) s.link).1 = .error e) :
    (s.request t method params read).1 = .error e := by
  rw [request_eq hknown, send_eq, hsend]
  rfl

def failure? : Except ClientError Answer → Option ClientError
  | .error e => some e
  | .ok _ => none

/-- The errors of a handshake and a call of a tool whose message is not delivered. -/
theorem performAll_undelivered {σ : Type} {t : Transport σ} (budget : Nat) {s after : Session σ}
    {result : InitializeResult} (hfirst : s.handshake t = (.ok result, after)) (hknown : after.server.isSome = true)
    {name : String} {arguments : Json} {e : ClientError}
    (hsend : (t.send (requestJson (.int after.nextId.toInt) Method.callTool.name
      (some (.obj (toolParams name arguments)))) after.link).1 = .error e) :
    (performAll t budget s [.handshake, .callTool name arguments]).map (fun run => run.1.map failure?) =
      some [none, some e] := by
  have hcall : (after.callTool t name arguments).1 = .error e := request_error hknown _ hsend
  have hrun : performAll t budget s [.handshake, .callTool name arguments] =
      some ([(s.handshake t).1.map .welcome, ((s.handshake t).2.callTool t name arguments).1.map .toolResult],
        ((s.handshake t).2.callTool t name arguments).2) := rfl
  rw [hrun, hfirst, Option.map_some, hcall]
  rfl

theorem send_recording_fst {σ : Type} (t : Transport σ) (message : Json) (link : List Json × σ) :
    (t.recording.send message link).1 = (t.send message link.2).1 := rfl

/-- After a handshake with a child process, a call whose text cannot be read again comes to nothing. -/
theorem performAll_unreadable (server : Server) (budget : Nat) {name : String} {arguments : Json}
    (hread : parse? (requestJson (.int (1 + 1 : Int64).toInt) Method.callTool.name
      (some (.obj (toolParams name arguments)))).text = none) :
    (performAll (ChildLink.transport (Peer.serving server)).recording budget (start ([], .start () []))
        [.handshake, .callTool name arguments]).map (fun run => run.1.map failure?) = some [none, some .closed] := by
  have hhandshake : Takes server 1 none (fun _ t s => some (s.handshake t)) _ := takes_handshake
  obtain ⟨link, hcall, hidle, -⟩ := hhandshake _ _ _ _ _ (ChildLink.delivers server) (fun _ _ => trivial) []
    (.start () []) ⟨rfl, rfl⟩ nofun
  have hsend := ChildLink.send_unreadable server hread (get?_id_requestJson _ _ _) rfl hidle
  refine performAll_undelivered budget (Option.some.inj hcall) rfl ?_
  rw [send_recording_fst]
  exact hsend

/-- Over the text of a call, an object that begins with the key for embedded values is not read again: the server
refuses the call in process, and the answer of a child process is not found. -/
theorem not_transportsAgree_embedded :
    let server : Server := ⟨"demo", none⟩
    let client : WebClient := ⟨some "/mcp", none⟩
    let arguments := Json.obj [("$serde_json::private::RawValue", .str "9"), ("z", .int 1)]
    let calls : List Call := [.handshake, .callTool "add" arguments]
    client.Fits server ∧ .close ∉ calls.dropLast ∧ arguments.all isCanonical = true ∧
      arguments.depth + 2 ≤ maxNesting ∧ FitBodies server 1 calls ∧
        ¬TransportsAgree server client .numbered .empty 1 calls := by
  intro server client arguments calls
  have hfits : FitBodies server 1 calls := fitBodies_of_run (by decide +kernel)
  refine ⟨⟨rfl, Or.inl rfl, nofun⟩, by decide, by decide, by decide, hfits, ?_⟩
  rintro ⟨outcomes, nextId, known, sent, web, child, -, hdirect, -, hchild⟩
  have hrefused : (performAll (Transport.direct server).recording 1 (start ([], ())) calls).map
      (fun run => run.1.map failure?) = some [none, some (.rpc (-32600) "Invalid Request" none)] := by decide +kernel
  have hclosed : (performAll (ChildLink.transport (Peer.serving server)).recording 1
      (start ([], .start () [])) calls).map (fun run => run.1.map failure?) = some [none, some .closed] := by
    have hunread : parse? (requestJson (.int (1 + 1 : Int64).toInt) Method.callTool.name
        (some (.obj (toolParams "add" arguments)))).text = none := by
      rw [parse?, text, String.toList_ofList]
      decide +kernel
    exact performAll_unreadable server 1 hunread
  rw [hdirect, Option.map_some] at hrefused
  rw [hchild, Option.map_some, hrefused] at hclosed
  cases hclosed

end ModelContext
