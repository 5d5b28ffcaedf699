import ModelContext.Proofs.SessionsLeft
import ModelContext.Report.Visit

/-!
# How visits end

A visit that comes to its end closes its transport, once and as the last thing that it does. A visit that is cut short
does not: after a listing that fails, the session that the handshake has opened stays open, and a web server is never
asked to delete it.
-/

namespace ModelContext

open Http
open WebClient (Use)

/-- The transport that also keeps what it was used for, in order. -/
def Transport.tracing {σ : Type} (t : Transport σ) : Transport (List Use × σ) where
  send message s :=
    let (outcome, s') := t.send message s.2
    (outcome, s.1 ++ [.send message], s')
  close s :=
    let (outcome, s') := t.close s.2
    (outcome, s.1 ++ [.close], s')

namespace Session

variable {σ α : Type} {t : Transport σ} {s s' s'' : Session σ}

/-! ## All that a visit can come to -/

/-- The first pages of listings all come, one after the other; the lines are what is reported of them. -/
inductive Lists (t : Transport σ) : List Listing → Session σ → List String → Session σ → Prop where
  | done (s : Session σ) : Lists t [] s [] s
  | page {listing : Listing} {later : List Listing} {s s' s'' : Session σ} {page : Page listing.Item}
      {lines : List String} (hpage : s.page t listing none = (.ok page, s')) (h : Lists t later s' lines s'') :
      Lists t (listing :: later) s ((listing.outline page).lines ++ lines) s''

/-- A report is complete, or a listing cuts it short. -/
inductive Reports (t : Transport σ) (s : Session σ) (listings : List Listing) : Visit σ → Prop where
  | all {lines : List String} {s' : Session σ} (h : Lists t listings s lines s') :
      Reports t s listings ⟨lines, .ok (), s'⟩
  | cut {earlier later : List Listing} {listing : Listing} {lines : List String} {s' last : Session σ} {e : ClientError}
      (hlistings : listings = earlier ++ listing :: later) (h : Lists t earlier s lines s')
      (hfailed : s'.page t listing none = (.error e, last)) : Reports t s listings ⟨lines, .error e, last⟩

/-- The handshake fails, a listing fails, or everything succeeds and the session is closed. -/
inductive Visits (t : Transport σ) (s : Session σ) : Visit σ → Prop where
  | unwelcome {e : ClientError} {last : Session σ} (h : s.handshake t = (.error e, last)) :
      Visits t s ⟨[], .error e, last⟩
  | left {result : InitializeResult} {e : ClientError} {lines : List String} {s' s'' last : Session σ}
      {earlier later : List Listing} {listing : Listing} (h : s.handshake t = (.ok result, s'))
      (hvisited : visited = earlier ++ listing :: later) (hlists : Lists t earlier s' lines s'')
      (hfailed : s''.page t listing none = (.error e, last)) : Visits t s ⟨lines, .error e, last⟩
  | closed {result : InitializeResult} {lines : List String} {s' s'' : Session σ} (h : s.handshake t = (.ok result, s'))
      (hlists : Lists t visited s' lines s'') : Visits t s ⟨lines, (s''.close t).1, (s''.close t).2⟩

def Completes (t : Transport σ) (s : Session σ) : Prop :=
  ∃ result s' lines s'', s.handshake t = (.ok result, s') ∧ Lists t visited s' lines s''

theorem reports (t : Transport σ) (s : Session σ) (listings : List Listing) :
    Reports t s listings (s.report t listings) := by
  induction listings generalizing s with
  | nil => exact .all (.done s)
  | cons listing later ih =>
    rw [report]
    cases hpage : s.page t listing none with
    | mk outcome now =>
      cases outcome with
      | error e => exact .cut (List.nil_append _).symm (.done s) hpage
      | ok page =>
        have hrest := ih now
        dsimp only
        generalize now.report t later = rest at hrest ⊢
        cases hrest with
        | all h => exact .all (.page hpage h)
        | cut hlistings h hfailed => exact .cut (by rw [hlistings, List.cons_append]) (.page hpage h) hfailed

theorem Lists.report_eq {listings : List Listing} {lines : List String} (h : Lists t listings s lines s') :
    s.report t listings = ⟨lines, .ok (), s'⟩ := by
  induction h with
  | done => rfl
  | page hpage _ ih =>
    rw [report, hpage]
    dsimp only
    rw [ih]

theorem visit_of_lists {result : InitializeResult} {lines : List String} (h : s.handshake t = (.ok result, s'))
    (hlists : Lists t visited s' lines s'') : s.visit t = ⟨lines, (s''.close t).1, (s''.close t).2⟩ := by
  rw [visit, h]
  dsimp only
  rw [hlists.report_eq]

theorem visits (t : Transport σ) (s : Session σ) : Visits t s (s.visit t) := by
  cases hhandshake : s.handshake t with
  | mk outcome now =>
    cases outcome with
    | error e =>
      rw [visit, hhandshake]
      exact .unwelcome hhandshake
    | ok result =>
      have hreport := reports t now visited
      cases htour : now.report t visited with
      | mk lines outcome last =>
        rw [htour] at hreport
        cases hreport with
        | all h =>
          rw [visit_of_lists hhandshake h]
          exact .closed hhandshake h
        | cut hvisited h hfailed =>
          rw [visit, hhandshake]
          dsimp only
          rw [htour]
          exact .left hhandshake hvisited h hfailed

/-! ## What sending keeps -/

section Keeps

variable {P : σ → Prop} (hsend : ∀ message link, P link → P (t.send message link).2)

include hsend

theorem keeps_request (h : P s.link) (method : String) (params : Option Json) (read : Json → Option α) :
    P (s.request t method params read).2.link := by
  unfold request
  split_ifs
  · exact h
  · exact hsend _ _ h

theorem keeps_page (h : P s.link) (listing : Listing) (cursor : Option String) : P (s.page t listing cursor).2.link :=
  keeps_request hsend h _ _ _

theorem keeps_handshake (h : P s.link) : P (s.handshake t).2.link := by
  have hasked : P (askWelcome t s).2 := hsend _ _ h
  have htold : P (tellReady t s).2 := hsend _ _ hasked
  have hall := handshaken t s
  generalize s.handshake t = after at hall ⊢
  cases hall with
  | refused => exact hasked
  | untold => exact htold
  | done => exact htold

theorem Lists.keeps {listings : List Listing} {lines : List String} (h : Lists t listings s lines s') (hs : P s.link) :
    P s'.link := by
  induction h with
  | done => exact hs
  | @page listing _ _ _ _ _ _ hpage _ ih =>
    have hnow := keeps_page hsend hs listing none
    rw [hpage] at hnow
    exact ih hnow

/-- Unless a visit completes, it does nothing but send. -/
theorem visit_keeps (hs : P s.link) (hnot : ¬Completes t s) : P (s.visit t).session.link := by
  have hhello := keeps_handshake hsend hs
  -- The close is all that a visit does but send, and it comes only to the visits that complete.
  have hall := visits t s
  generalize s.visit t = visit at hall ⊢
  cases hall with
  | unwelcome h => rwa [h] at hhello
  | @left _ _ _ _ _ _ _ _ listing h _ hlists hfailed =>
    rw [h] at hhello
    have hlast := keeps_page hsend (hlists.keeps hsend hhello) listing none
    rwa [hfailed] at hlast
  | closed h hlists => exact absurd ⟨_, _, _, _, h, hlists⟩ hnot

/-- If it completes, the close comes after all that it sends. -/
theorem exists_before_close (hs : P s.link) (h : Completes t s) :
    ∃ before : Session σ, P before.link ∧ (s.visit t).session = (before.close t).2 := by
  obtain ⟨result, s', lines, s'', hhandshake, hlists⟩ := h
  have hhello := keeps_handshake hsend hs
  rw [hhandshake] at hhello
  exact ⟨s'', hlists.keeps hsend hhello, by rw [visit_of_lists hhandshake hlists]⟩

end Keeps

/-! ## What the transport is used for -/

def OnlySends (uses : List Use) : Prop :=
  ∃ messages : List Json, uses = messages.map .send

theorem onlySends_tracing (t : Transport σ) (message : Json) (link : List Use × σ) (h : OnlySends link.1) :
    OnlySends (t.tracing.send message link).2.1 := by
  obtain ⟨messages, hmessages⟩ := h
  refine ⟨messages ++ [message], ?_⟩
  rw [List.map_append, ← hmessages]
  rfl

end Session

namespace WebClient

variable {ω : Type} {client : WebClient} {wire : Wire ω}

def OnlyPosts (record : Record) : Prop :=
  ∀ exchange ∈ record, exchange.1.method = "POST"

/-- Until a link is closed it only posts, and it holds the id that was handed out last. -/
structure IsPosting (link : WebLink (Record × ω)) : Prop where
  posts : OnlyPosts link.wire.1
  held : link.session = (handedOver link.wire.1).getLast?

theorem method_of_post {held : Option String} {message : Json} {request : Request}
    (h : client.post held message = .ok request) : request.method = "POST" := by
  unfold post at h
  split at h
  · cases h
  · cases h
  · cases h
    rfl

theorem IsPosting.send (message : Json) (link : WebLink (Record × ω)) (h : IsPosting link) :
    IsPosting (client.send wire.recording message link).2 := by
  unfold WebClient.send
  cases hpost : client.post link.session message with
  | error e => exact h
  | ok request =>
    have hposts (response : Option Response) : OnlyPosts (link.wire.1 ++ [(request, response)]) :=
      List.forall_mem_append.2 ⟨h.posts, List.forall_mem_singleton.2 (method_of_post hpost)⟩
    obtain ⟨⟨response, w⟩, hexchange⟩ : ∃ exchanged, wire.exchange request link.wire.2 = exchanged := ⟨_, rfl⟩
    simp only [Wire.recording, hexchange]
    cases response with
    | none =>
      refine ⟨hposts none, h.held.trans ?_⟩
      rw [handedOver, handedOver, List.filterMap_append]
      exact congrArg List.getLast? (List.append_nil _).symm
    | some response =>
      refine ⟨hposts (some response), ?_⟩
      dsimp only
      rw [sessionAfter_received, h.held, handedOver_concat]
      cases handedOut? response with
      | none => rw [Option.none_or, Option.toList_none, List.append_nil]
      | some id => rw [Option.some_or, Option.toList_some, List.getLast?_concat]

theorem IsPosting.arrives {link : WebLink (Record × ω)} (h : IsPosting link) : Arrives link.session := by
  intro id hid
  rw [h.held] at hid
  exact sessionValue_of_mem (List.mem_of_getLast? hid)

inductive Deletion (client : WebClient) : Option String → Record → Prop where
  | nothing : Deletion client none []
  | delete {id : String} {request : Request} {response : Option Response}
      (hrequest : client.IsRequest (some id) "DELETE" [] request) : Deletion client (some id) [(request, response)]

theorem IsPosting.close {link : WebLink (Record × ω)} (h : IsPosting link) (wire : Wire ω) (hask : client.CanAsk) :
    ∃ deletion, Deletion client (handedOver link.wire.1).getLast? deletion ∧
      (client.close wire.recording link).2.wire.1 = link.wire.1 ++ deletion := by
  rw [← h.held]
  have harrives := h.arrives
  unfold WebClient.close
  cases hsession : link.session with
  | none => exact ⟨[], .nothing, (List.append_nil _).symm⟩
  | some id =>
    obtain ⟨request, hdelete, hrequest⟩ := isRequest_delete hask (hsession ▸ harrives)
    obtain ⟨⟨response, w⟩, hexchange⟩ : ∃ exchanged, wire.exchange request link.wire.2 = exchanged := ⟨_, rfl⟩
    refine ⟨[(request, response)], .delete hrequest, ?_⟩
    simp only [hdelete, Wire.recording, hexchange]
    cases response <;> rfl

/-- A client that cannot ask for anything does no handshake. -/
theorem canAsk_of_handshake {s s' : Session (WebLink ω)} {result : InitializeResult}
    (h : s.handshake (client.transport wire) = (.ok result, s')) : client.CanAsk := by
  by_contra hask
  have hunsent : (s.askWelcome (client.transport wire)).1 = .error .http := by
    change (client.send wire s.greeting s.link).1 = _
    rw [WebClient.send, post_of_not_canAsk hask]
  have hall := Session.handshaken (client.transport wire) s
  rw [h] at hall
  cases hall with
  | done hwelcome _ =>
    obtain ⟨⟨message, _, hanswer, -⟩, -⟩ := hwelcome
    rw [hunsent] at hanswer
    cases hanswer

end WebClient

/-! ## How visits end -/

namespace Session

def unused {ω : Type} (state : ω) : WebLink (WebClient.Record × ω) :=
  { session := none, wire := ([], state) }

structure VisitRules (t : Transport σ) (link : σ) : Prop where
  /-- The first of the calls that fails ends a visit, with its error. -/
  ends : Visits t (start link) ((start link).visit t)
  /-- If none fails, the transport is closed, once and after all else. -/
  closed : Completes t.tracing (start ([], link)) → ∃ messages : List Json,
    ((start ([], link)).visit t.tracing).session.link.1 = messages.map Use.send ++ [.close]
  /-- Otherwise it is never closed. -/
  left : ¬Completes t.tracing (start ([], link)) → ∃ messages : List Json,
    ((start ([], link)).visit t.tracing).session.link.1 = messages.map Use.send

structure WebVisitRules {ω : Type} (client : WebClient) (wire : Wire ω) (state : ω) : Prop where
  /-- If no call fails, the server is asked once to delete the session that it has handed out, after all else. -/
  deleted : Completes (client.transport wire.recording) (start (unused state)) →
    ∃ posts deletion,
      ((start (unused state)).visit (client.transport wire.recording)).session.link.wire.1 = posts ++ deletion ∧
        WebClient.OnlyPosts posts ∧ client.Deletion (WebClient.handedOver posts).getLast? deletion
  /-- Otherwise it is asked to delete nothing. -/
  undeleted : ¬Completes (client.transport wire.recording) (start (unused state)) →
    WebClient.OnlyPosts ((start (unused state)).visit (client.transport wire.recording)).session.link.wire.1

theorem visitRules (t : Transport σ) (link : σ) : VisitRules t link where
  ends := visits t (start link)
  closed h := by
    obtain ⟨before, ⟨messages, hmessages⟩, hclose⟩ := exists_before_close (onlySends_tracing t) ⟨[], rfl⟩ h
    refine ⟨messages, ?_⟩
    rw [hclose, ← hmessages]
    rfl
  left h := visit_keeps (onlySends_tracing t) ⟨[], rfl⟩ h

theorem webVisitRules {ω : Type} (client : WebClient) (wire : Wire ω) (state : ω) :
    WebVisitRules client wire state := by
  have hstart : WebClient.IsPosting (unused state) := ⟨nofun, rfl⟩
  constructor
  case deleted =>
    intro h
    obtain ⟨before, hposting, hclose⟩ := exists_before_close WebClient.IsPosting.send hstart h
    obtain ⟨result, now, -, -, hhandshake, -⟩ := h
    obtain ⟨deletion, hdeletion, hrecord⟩ := hposting.close wire (WebClient.canAsk_of_handshake hhandshake)
    refine ⟨before.link.wire.1, deletion, ?_, hposting.posts, hdeletion⟩
    rw [hclose]
    exact hrecord
  case undeleted => exact fun h => (visit_keeps WebClient.IsPosting.send hstart h).posts

/-- Over every transport a visit closes what it was given if all its calls succeed, and else leaves it open; a web
server is asked to delete its session in the first case alone. -/
theorem visits_close_if_complete {ω : Type} (t : Transport σ) (link : σ) (client : WebClient) (wire : Wire ω)
    (state : ω) : VisitRules t link ∧ WebVisitRules client wire state :=
  ⟨visitRules t link, webVisitRules client wire state⟩

/-- A server that answers the handshake and is gone after that. -/
def fleeting : Transport Nat where
  send _ n :=
    match n with
    | 0 => (.ok (some (resultReply (some (.int 1)) (Server.welcome ⟨"Demo", none⟩ Server.protocolVersion).toJson)), 1)
    | 1 => (.ok none, 2)
    | n => (.error .closed, n)
  close n := (.ok (), n)

/-- Not every visit whose handshake succeeds closes its transport. -/
theorem not_every_visit_closed :
    ¬∀ (t : Transport Nat) (link : Nat), (∃ result, ((start ([], link)).handshake t.tracing).1 = .ok result) →
      ∃ messages : List Json,
        ((start ([], link)).visit t.tracing).session.link.1 = messages.map Use.send ++ [.close] := by
  intro h
  obtain ⟨messages, hclosed⟩ := h fleeting 0 ⟨Server.welcome ⟨"Demo", none⟩ Server.protocolVersion, by rfl⟩
  have hlast : ((start ([], 0)).visit fleeting.tracing).session.link.1.getLast? =
      some (.send (requestJson (.int 2) "prompts/list" none)) := by rfl
  rw [hclosed, List.getLast?_concat] at hlast
  cases hlast

end Session

end ModelContext
