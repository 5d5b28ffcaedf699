import Mathlib.Data.List.Induction
import ModelContext.Http.Activity
import ModelContext.Proofs.Sessions

/-!
# Requests side by side

Requests that run side by side over one store, in whatever order their steps come, are answered as if they had been
carried out one after another in the order in which they used the store.
-/

namespace ModelContext.Http

/-! ## Tasks and plans -/

namespace Activity

/-- An activity does what a plan says, in at most so many steps. A plan uses the store once at most. -/
inductive Follows : Nat → Activity (Logged Response) → Plan → Prop where
  | done {k : Nat} {answer : Logged Response} : Follows k (.done answer) (.done answer)
  | work {k : Nat} {next : Activity (Logged Response)} {plan : Plan} (h : Follows k next plan) :
      Follows (k + 1) (.work next) plan
  | ask {k : Nat} {call : StoreCall} {next : call.Answer → Activity (Logged Response)} {after : call.Answer → Logged Response}
      (h : ∀ result, Follows k (next result) (.done (after result))) : Follows (k + 1) (.ask call next) (.ask call after)

variable {k : Nat} {activity : Activity (Logged Response)} {plan : Plan}

theorem Follows.of_done {answer : Logged Response} (h : Follows k (.done answer) plan) : plan = .done answer := by
  cases h
  rfl

theorem Follows.of_work {next : Activity (Logged Response)} (h : Follows k (.work next) plan) :
    Follows (k - 1) next plan := by
  cases h with
  | work h => exact h

theorem Follows.of_ask {call : StoreCall} {next : call.Answer → Activity (Logged Response)}
    (h : Follows k (.ask call next) plan) :
    ∃ after, plan = .ask call after ∧ ∀ result, Follows (k - 1) (next result) (.done (after result)) := by
  cases h with
  | ask h => exact ⟨_, rfl, h⟩

/-- When no steps are left, there is an answer. -/
theorem Follows.exists_done (h : Follows 0 activity plan) : ∃ answer, activity = .done answer := by
  cases h with
  | done => exact ⟨_, rfl⟩

theorem Follows.map (h : Follows k activity plan) (f : Logged Response → Logged Response) :
    Follows k (f <$> activity) (plan.map f) := by
  induction h with
  | done => exact .done
  | work _ ih => exact .work ih
  | ask _ ih => exact .ask ih

/-- An activity that is carried out alone does what its plan does. -/
theorem Follows.run_eq (h : Follows k activity plan) (ids : SessionIds) (store : SessionStore) :
    activity.run ids store = plan.run ids store := by
  induction h generalizing store with
  | done => rfl
  | work _ ih => exact ih store
  | ask _ ih => exact ih _ _

end Activity

section Requests

open Activity

variable (server : Server) (request : Request)

theorem dispatch_of_value {message : Json} {reply : Option Json} (streaming : Bool)
    (h : (server.answer message).value = reply) :
    dispatch server message streaming = (server.answer message >>= fun _ => match reply with
      | none => pure (.bare 202)
      | some reply => pure (replyResponse reply streaming)) := by
  subst h
  rfl

theorem replyActivity_eq (message : Json) (streaming : Bool) :
    replyActivity server message streaming = .work (match (server.answer message).value with
      | none => .done (server.answer message >>= fun _ => pure (.bare 202))
      | some reply =>
        if opensSession message ∧ isErrorReply reply = false then
          .ask .create fun id => .done (server.answer message >>= fun _ => openedResponse reply streaming id)
        else .done (server.answer message >>= fun _ => pure (replyResponse reply streaming))) := rfl

theorem follows_replyActivity_of_message {message : Json} (streaming : Bool) (hopens : opensSession message = false) :
    Follows 1 (replyActivity server message streaming) (.done (dispatch server message streaming)) := by
  rw [replyActivity_eq]
  refine .work ?_
  cases hanswer : (server.answer message).value with
  | none =>
    rw [dispatch_of_value server streaming hanswer]
    exact .done
  | some reply =>
    rw [dispatch_of_value server streaming hanswer]
    dsimp only
    rw [if_neg fun h => Bool.false_ne_true (hopens ▸ h.1)]
    exact .done

theorem follows_replyActivity_of_handshake {message : Json} (streaming : Bool) (hopens : opensSession message = true) :
    Follows 2 (replyActivity server message streaming) (planHandshake server message streaming) := by
  rw [replyActivity_eq]
  refine .work ?_
  unfold planHandshake
  dsimp only
  cases hanswer : (server.answer message).value with
  | none =>
    rw [dispatch_of_value server streaming hanswer]
    exact .done
  | some reply =>
    rw [dispatch_of_value server streaming hanswer]
    dsimp only
    cases herror : isErrorReply reply with
    | true =>
      rw [if_neg fun h => Bool.false_ne_true h.2.symm, if_pos rfl]
      exact .done
    | false =>
      rw [if_pos ⟨hopens, rfl⟩, if_neg Bool.false_ne_true]
      exact .ask fun _ => .done

theorem follows_bodyActivity : Follows 2 (bodyActivity server request) (planBody server request) := by
  unfold bodyActivity planBody
  dsimp only
  cases Json.parseBytes? request.body with
  | none => exact .done
  | some message =>
    dsimp only
    cases hopens : opensSession message with
    | true => exact follows_replyActivity_of_handshake server _ hopens
    | false =>
      rw [if_neg Bool.false_ne_true, if_neg Bool.false_ne_true, checkSession]
      cases sessionOf? request.headers with
      | none => exact .done
      | some id =>
        refine .ask fun there => ?_
        cases there with
        | true => exact follows_replyActivity_of_message server _ hopens
        | false => exact .done

theorem follows_postActivity : Follows 2 (postActivity server request) (planPost server request) := by
  unfold postActivity planPost
  split_ifs
  · exact follows_bodyActivity server request
  · exact .done

theorem follows_deleteActivity : Follows 2 (deleteActivity request) (planDelete request) := by
  unfold deleteActivity planDelete
  cases sessionOf? request.headers with
  | none => exact .done
  | some id =>
    refine .ask fun there => ?_
    cases there with
    | true => exact .done
    | false => exact .done

theorem follows_admittedActivity : Follows 2 (admittedActivity server request) (planAdmitted server request) := by
  unfold admittedActivity planAdmitted
  split_ifs
  · exact follows_postActivity server request
  · exact follows_deleteActivity request
  · exact .done

theorem follows_endpointActivity : Follows 2 (endpointActivity server request) (planEndpoint server request) := by
  unfold endpointActivity planEndpoint
  cases judge server.apiToken request with
  | admitted =>
    have h := follows_admittedActivity server request
    dsimp only
    split_ifs
    · exact h
    · exact h.map _
  | unreadable =>
    dsimp only
    split_ifs
    · exact .done
    · exact .done
  | refused refusal =>
    dsimp only
    split_ifs
    · exact .done
    · exact .done

/-- Step by step, a request does what it plans. -/
theorem follows_activity : Follows 2 (activity server request) ((plan server request).map (noted request)) := by
  refine Follows.map ?_ (noted request)
  unfold plan
  split_ifs
  · exact follows_endpointActivity server request
  · cases pageText? request.path with
    | some text => exact .done
    | none => exact .done

end Requests

/-- Carried out alone, step by step, a request is answered as by the router. -/
theorem run_activity (router : Router) (store : SessionStore) (request : Request) :
    (activity router.server request).run router.ids store = router.handle store request :=
  (follows_activity router.server request).run_eq router.ids store

/-! ## Interleavings -/

section Interleaving

open Activity

variable {n : Nat} (router : Router) (store : SessionStore) (requests : Fin n → Request)

/-- The state that a schedule leads to: a request that has not used the store has its plan before it, and the others
have their answers. In the order of these uses, the router gives the same answers and comes to the same store. -/
structure Serves (schedule : List (Fin n)) (s : SideBySide n) (rest : Fin n → Plan) (answers : Fin n → Logged Response) :
    Prop where
  nodup : s.uses.Nodup
  follows : ∀ i, Follows (2 - schedule.count i) (s.activities i) (rest i)
  unused : ∀ i, i ∉ s.uses → rest i = (plan router.server (requests i)).map (noted (requests i))
  used : ∀ i ∈ s.uses, rest i = .done (answers i) ∧
    (requests i).path = endpointPath ∧ judge router.server.apiToken (requests i) = .admitted
  serial : router.handleAll store (s.uses.map requests) = (s.uses.map answers, s.store)

theorem serves_start (answers : Fin n → Logged Response) :
    Serves router store requests [] (.start router.server store requests)
      (fun i => (plan router.server (requests i)).map (noted (requests i))) answers where
  nodup := List.nodup_nil
  follows i := follows_activity router.server (requests i)
  unused _ _ := rfl
  used _ hi := absurd hi List.not_mem_nil
  serial := rfl

variable {router store requests}

theorem handleAll_concat {earlier : List Request} {answers : List (Logged Response)} {now after : SessionStore}
    {request : Request} {answer : Logged Response} (hearlier : router.handleAll store earlier = (answers, now))
    (hlast : router.handle now request = (answer, after)) :
    router.handleAll store (earlier ++ [request]) = (answers ++ [answer], after) := by
  induction earlier generalizing store answers with
  | nil =>
    cases hearlier
    rw [List.nil_append, handleAll_cons, hlast]
    rfl
  | cons first earlier ih =>
    rw [handleAll_cons] at hearlier
    cases hearlier
    rw [List.cons_append, handleAll_cons, ih rfl]
    rfl

section Step

variable {schedule : List (Fin n)} {s : SideBySide n} {rest : Fin n → Plan} {answers : Fin n → Logged Response}

/-- The request that made a step has one step less before it, and the others have as many as before. -/
theorem Serves.follows_concat (h : Serves router store requests schedule s rest answers) {i : Fin n}
    {activities' : Fin n → Activity (Logged Response)} {rest' : Fin n → Plan}
    (hself : Follows (2 - schedule.count i - 1) (activities' i) (rest' i))
    (hother : ∀ j, j ≠ i → activities' j = s.activities j ∧ rest' j = rest j) (j : Fin n) :
    Follows (2 - (schedule ++ [i]).count j) (activities' j) (rest' j) := by
  by_cases hj : j = i
  · subst hj
    rw [List.count_append, List.count_singleton_self, Nat.sub_add_eq]
    exact hself
  · have hcount : (schedule ++ [i]).count j = schedule.count j := by
      have hzero : [i].count j = 0 := List.count_eq_zero_of_not_mem (by simpa using hj)
      rw [List.count_append, hzero, Nat.add_zero]
    rw [hcount, (hother j hj).1, (hother j hj).2]
    exact h.follows j

/-- Only requests that get to the handlers use the store. -/
theorem admitted_of_ask {server : Server} {request : Request} {call : StoreCall} {after : call.Answer → Logged Response}
    (h : (plan server request).map (noted request) = .ask call after) :
    request.path = endpointPath ∧ judge server.apiToken request = .admitted := by
  by_contra hnot
  obtain ⟨answer, hplan, -⟩ := plan_of_not_admitted hnot
  rw [hplan] at h
  cases h

/-- A request whose next step uses the store has not used it before. -/
theorem Serves.plan_of_ask (h : Serves router store requests schedule s rest answers) {i : Fin n} {call : StoreCall}
    {next : call.Answer → Activity (Logged Response)} (hnext : s.activities i = .ask call next) :
    i ∉ s.uses ∧ ∃ after, (plan router.server (requests i)).map (noted (requests i)) = .ask call after ∧
      ∀ result, Follows (2 - schedule.count i - 1) (next result) (.done (after result)) := by
  have hfollows := h.follows i
  rw [hnext] at hfollows
  obtain ⟨after, hrest, hafter⟩ := hfollows.of_ask
  have hunused : i ∉ s.uses := by
    intro hmem
    rw [(h.used i hmem).1] at hrest
    cases hrest
  exact ⟨hunused, after, by rw [← h.unused i hunused, hrest], hafter⟩

theorem Serves.step (h : Serves router store requests schedule s rest answers) (i : Fin n) :
    ∃ rest' answers', Serves router store requests (schedule ++ [i]) (s.step router.ids i) rest' answers' := by
  unfold SideBySide.step
  cases hnext : s.activities i with
  | done answer =>
    have hfollows := h.follows i
    rw [hnext] at hfollows
    have hself : Follows (2 - schedule.count i - 1) (s.activities i) (rest i) := by
      rw [hnext, hfollows.of_done]
      exact .done
    exact ⟨rest, answers, { h with follows := h.follows_concat hself fun _ _ => ⟨rfl, rfl⟩ }⟩
  | work next =>
    have hfollows := h.follows i
    rw [hnext] at hfollows
    have hself : Follows (2 - schedule.count i - 1) ((s.advance i next).activities i) (rest i) := by
      rw [s.advance_self]
      exact hfollows.of_work
    exact ⟨rest, answers, { h with follows := h.follows_concat hself fun j hj => ⟨s.advance_of_ne hj next, rfl⟩ }⟩
  | ask call next =>
    -- The one use of this request: here it takes its place in the serial order, as the last.
    obtain ⟨hunused, after, hplan, hafter⟩ := h.plan_of_ask hnext
    have hhandle : router.handle s.store (requests i) =
        (after (s.store.perform router.ids call).1, (s.store.perform router.ids call).2) := by
      rw [Router.handle, hplan]
      rfl
    have hne : ∀ j ∈ s.uses, j ≠ i := fun j hj heq => hunused (heq ▸ hj)
    have hkept : s.uses.map (Function.update answers i (after (s.store.perform router.ids call).1)) =
        s.uses.map answers :=
      List.map_congr_left fun j hj => Function.update_of_ne (hne j hj) _ _
    refine ⟨Function.update rest i (.done (after (s.store.perform router.ids call).1)),
      Function.update answers i (after (s.store.perform router.ids call).1), ?_⟩
    constructor
    case nodup => exact List.nodup_append.2 ⟨h.nodup, List.nodup_singleton i, by simpa using hne⟩
    case follows =>
      refine h.follows_concat ?_ fun j hj => ⟨s.advance_of_ne hj _, Function.update_of_ne hj _ _⟩
      dsimp only
      rw [s.advance_self, Function.update_self]
      exact hafter _
    case unused =>
      intro j hj
      simp only [List.mem_append, List.mem_singleton, not_or] at hj
      rw [Function.update_of_ne hj.2]
      exact h.unused j hj.1
    case used =>
      intro j hj
      by_cases heq : j = i
      · rw [heq, Function.update_self, Function.update_self]
        exact ⟨rfl, admitted_of_ask hplan⟩
      · have hmem : j ∈ s.uses := by simpa [heq] using hj
        rw [Function.update_of_ne heq, Function.update_of_ne heq]
        exact h.used j hmem
    case serial =>
      rw [List.map_append, List.map_append, hkept, List.map_singleton, List.map_singleton, Function.update_self]
      exact handleAll_concat h.serial hhandle

end Step

/-- Whatever the schedule, what was answered so far was answered in the order of the uses. -/
theorem serves_run (router : Router) (store : SessionStore) (requests : Fin n → Request) (schedule : List (Fin n)) :
    ∃ rest answers, Serves router store requests schedule
      ((SideBySide.start router.server store requests).run router.ids schedule) rest answers := by
  induction schedule using List.reverseRecOn with
  | nil => exact ⟨_, fun _ => pure (.bare 404), serves_start router store requests _⟩
  | append_singleton schedule i ih =>
    obtain ⟨rest, answers, h⟩ := ih
    rw [SideBySide.run, List.foldl_append]
    exact h.step i

/-! ## One after another -/

/-- Requests that do not use the store can be carried out at any time between the others. -/
theorem handleAll_of_sublist {answers : Fin n → Logged Response} {after : SessionStore} {uses sequence : List (Fin n)}
    (hsub : uses.Sublist sequence) (hnodup : sequence.Nodup)
    (hidle : ∀ i ∈ sequence, i ∉ uses → ∀ now, router.handle now (requests i) = (answers i, now))
    (huses : router.handleAll store (uses.map requests) = (uses.map answers, after)) :
    router.handleAll store (sequence.map requests) = (sequence.map answers, after) := by
  induction hsub generalizing store with
  | slnil => exact huses
  | @cons uses sequence i hsub ih =>
    obtain ⟨hi, hnodup⟩ := List.nodup_cons.1 hnodup
    have hlater := ih hnodup (fun j hj => hidle j (List.mem_cons_of_mem i hj)) huses
    rw [List.map_cons, handleAll_cons, hidle i List.mem_cons_self (fun hmem => hi (hsub.subset hmem)), hlater,
      List.map_cons]
  | @cons_cons uses sequence i hsub ih =>
    obtain ⟨hi, hnodup⟩ := List.nodup_cons.1 hnodup
    have hrest : ∀ j ∈ sequence, j ∉ uses → ∀ now, router.handle now (requests j) = (answers j, now) := by
      intro j hj hunused
      refine hidle j (List.mem_cons_of_mem i hj) ?_
      rintro (_ | ⟨_, hmem⟩)
      · exact hi hj
      · exact hunused hmem
    rw [List.map_cons, handleAll_cons, List.map_cons, Prod.mk.injEq, List.cons.injEq] at huses
    obtain ⟨⟨hfirst, hothers⟩, hafter⟩ := huses
    have hlater := ih hnodup hrest (Prod.ext hothers hafter)
    rw [List.map_cons, handleAll_cons, hlater, hfirst, List.map_cons]

variable {schedule : List (Fin n)} {s : SideBySide n} {rest : Fin n → Plan} {answers : Fin n → Logged Response}

/-- When all requests have answers, these are the answers of any sequence that has the requests that used the store in
the order of their uses. -/
theorem Serves.handleAll_eq (h : Serves router store requests schedule s rest answers) {final : Fin n → Logged Response}
    (hdone : ∀ i, s.activities i = .done (final i)) {sequence : List (Fin n)} (hnodup : sequence.Nodup)
    (hsub : s.uses.Sublist sequence) :
    router.handleAll store (sequence.map requests) = (sequence.map final, s.store) := by
  have hrest : ∀ i, rest i = .done (final i) := by
    intro i
    have hfollows := h.follows i
    rw [hdone i] at hfollows
    exact hfollows.of_done
  have hanswers : s.uses.map answers = s.uses.map final := by
    refine List.map_congr_left fun i hi => ?_
    have hused := (h.used i hi).1
    rw [hrest i] at hused
    exact (Plan.done.inj hused).symm
  refine handleAll_of_sublist hsub hnodup (fun i _ hunused now => ?_) (hanswers ▸ h.serial)
  rw [Router.handle, ← h.unused i hunused, hrest i]
  rfl

end Interleaving

/-! ## Earlier and later exchanges -/

/-- What an exchange means for a later one: the session that it handed out is not handed out again, and the one that
it deleted is neither deleted again nor accepted. -/
structure Precedes (server : Server) (earlier later : Exchange) : Prop where
  handedOut : ∀ id, earlier.handedOut = some id → later.handedOut ≠ some id
  closed : ∀ id, earlier.closed = some id → later.closed ≠ some id
  rejected : ∀ id, earlier.closed = some id → later.request.path = endpointPath →
    judge server.apiToken later.request = .admitted → NeedsSession later.request → Names later.request id →
      Refuses later.response 404 "session_not_found" (.obj [("session_id", .str id)])

section Exchanges

variable {router : Router} {store : SessionStore} {past : List Exchange}

theorem exchanges_cons (request : Request) (later : List Request) :
    router.exchanges store (request :: later) =
      ⟨request, (router.handle store request).1.value⟩ :: router.exchanges (router.handle store request).2 later := rfl

theorem precedes_handle (h : Consistent router.ids store past) {earlier : Exchange} (hmem : earlier ∈ past)
    (request : Request) : Precedes router.server earlier ⟨request, (router.handle store request).1.value⟩ := by
  have hdead : ∀ id, earlier.closed = some id → id ∉ store.live := fun id hclosed hlive =>
    ((h.live_iff id).1 hlive).2 earlier hmem hclosed
  have heffect := handle_effect router store request
  constructor
  case handedOut =>
    intro id hid hagain
    generalize (router.handle store request).1.value = response at *
    generalize (router.handle store request).2 = after at *
    cases heffect with
    | kept hordinary => exact hordinary.no_id ⟨id, hagain⟩
    | opened hmethod hnew =>
      obtain rfl : id = router.ids.text store.issued := Option.some.inj (hagain.symm.trans hnew)
      exact (h.fresh hmem).1 hid
    | closed hmethod hid hlive => cases hagain
  case closed =>
    intro id hid hagain
    generalize (router.handle store request).1.value = response at *
    generalize (router.handle store request).2 = after at *
    cases heffect with
    | kept hordinary =>
      rw [closed_of_ordinary hordinary] at hagain
      cases hagain
    | opened hmethod hnew =>
      rw [Exchange.closed, hmethod, if_neg (by simp)] at hagain
      cases hagain
    | closed hmethod hnamed hlive =>
      rw [Exchange.closed, if_pos ⟨hmethod, rfl⟩, hnamed] at hagain
      cases hagain
      exact hdead id hid hlive
  case rejected =>
    intro id hid hpath hadmitted hneeds hnamed
    have hrefused := (@handle_needsSession router store request hpath hadmitted hneeds).2 id
      (sessionOf?_eq_some_iff.2 hnamed) (hdead id hid)
    dsimp only
    rw [hrefused]
    exact refuses_unknownSession id

theorem precedes_exchanges (h : Consistent router.ids store past) {earlier : Exchange} (hmem : earlier ∈ past)
    (requests : List Request) : ∀ later ∈ router.exchanges store requests, Precedes router.server earlier later := by
  induction requests generalizing store past with
  | nil => exact fun later hlater => absurd hlater List.not_mem_nil
  | cons request requests ih =>
    rw [exchanges_cons]
    refine List.forall_mem_cons.2 ⟨precedes_handle h hmem request, ?_⟩
    exact ih (h.step (handle_effect router store request)) (List.mem_append_left _ hmem)

/-- Every exchange of a history precedes those after it. -/
theorem pairwise_exchanges (h : Consistent router.ids store past) (requests : List Request) :
    (router.exchanges store requests).Pairwise (Precedes router.server) := by
  induction requests generalizing store past with
  | nil => exact List.Pairwise.nil
  | cons request requests ih =>
    rw [exchanges_cons]
    have hstep := h.step (handle_effect router store request)
    exact List.pairwise_cons.2
      ⟨precedes_exchanges hstep (List.mem_append_right _ (List.mem_singleton_self _)) requests, ih hstep⟩

end Exchanges

/-! ## The rules of running side by side -/

/-- What holds of requests that ran side by side from where a history has led to. Some of them used the store, in the
order `uses`. -/
structure RanSerially {n : Nat} (router : Router) (history : List Request) (requests : Fin n → Request)
    (uses : List (Fin n)) (answers : Fin n → Logged Response) (after : SessionStore) : Prop where
  /-- The answers and the store are those of the requests one after another. Those that used the store come in the
  order of their uses, and the others anywhere. -/
  serial : ∀ sequence : List (Fin n), sequence.Nodup → (∀ i, i ∈ sequence) → uses.Sublist sequence →
    router.handleAll (router.handleAll .empty history).2 (sequence.map requests) = (sequence.map answers, after)
  /-- Of the deletions of one session, one at most succeeds. -/
  deleted_once : ∀ i j id, (requests i).method = "DELETE" → (requests j).method = "DELETE" → Names (requests i) id →
    Names (requests j) id → (answers i).value.status = 204 → (answers j).value.status = 204 → i = j
  /-- No session is handed out twice. -/
  issued_once : ∀ i j id, firstText? (answers i).value.headers "mcp-session-id" = some id →
    firstText? (answers j).value.headers "mcp-session-id" = some id → i = j
  /-- Nor is a session handed out that the history has handed out. -/
  issued_new : ∀ i id, firstText? (answers i).value.headers "mcp-session-id" = some id →
    ∀ exchange ∈ router.exchanges .empty history, exchange.handedOut ≠ some id
  /-- Who uses the store after a successful deletion, for the session that was deleted, is refused. -/
  rejected : ∀ i j id, [i, j].Sublist uses → (requests i).method = "DELETE" → Names (requests i) id →
    (answers i).value.status = 204 → NeedsSession (requests j) → Names (requests j) id →
      Refuses (answers j).value 404 "session_not_found" (.obj [("session_id", .str id)])

section Rules

variable {n : Nat}

/-- Some sequence of all requests has those that used the store in order. -/
theorem exists_sequence {uses : List (Fin n)} (hnodup : uses.Nodup) :
    ∃ sequence : List (Fin n), sequence.Nodup ∧ (∀ i, i ∈ sequence) ∧ uses.Sublist sequence := by
  refine ⟨uses ++ (List.finRange n).filter (· ∉ uses), ?_, fun i => ?_, List.sublist_append_left _ _⟩
  · refine List.nodup_append.2 ⟨hnodup, (List.nodup_finRange n).filter _, ?_⟩
    rintro i hi j hj rfl
    simp [hi] at hj
  · by_cases hi : i ∈ uses
    · exact List.mem_append_left _ hi
    · exact List.mem_append_right _ (by simp [hi])

theorem exchanges_map {router : Router} {store after : SessionStore} {requests : Fin n → Request}
    {answers : Fin n → Logged Response} {sequence : List (Fin n)}
    (h : router.handleAll store (sequence.map requests) = (sequence.map answers, after)) :
    router.exchanges store (sequence.map requests) = sequence.map fun i => ⟨requests i, (answers i).value⟩ := by
  rw [Router.exchanges, h, List.zip_map', List.map_map]
  rfl

theorem closed_of_deletion {request : Request} {response : Response} {id : String} (hmethod : request.method = "DELETE")
    (hnamed : Names request id) (hstatus : response.status = 204) : Exchange.closed ⟨request, response⟩ = some id := by
  rw [Exchange.closed, if_pos ⟨hmethod, hstatus⟩]
  exact sessionOf?_eq_some_iff.2 hnamed

/-- Where no two requests have the same id, one that has an id is the only one. -/
theorem eq_of_pairwise {sequence : List (Fin n)} (hall : ∀ i, i ∈ sequence) {idOf : Fin n → Option String}
    (h : sequence.Pairwise fun i j => ∀ id, idOf i = some id → idOf j ≠ some id) {i j : Fin n} {id : String}
    (hi : idOf i = some id) (hj : idOf j = some id) : i = j := by
  by_contra hne
  have : Std.Symm fun i j => ∀ id, idOf i = some id → idOf j ≠ some id := ⟨fun i j h id hj hi => h id hi hj⟩
  exact h.forall (hall i) (hall j) hne id hi hj

end Rules

/-- However the steps of requests that run side by side are interleaved, every request uses the store once at most and
has its answer after two steps. When all have theirs, they ran as if one after another. -/
theorem side_by_side_is_serial (router : Router) (history : List Request) {n : Nat} (requests : Fin n → Request)
    (schedule : List (Fin n)) :
    let store := (router.handleAll .empty history).2
    let final := (SideBySide.start router.server store requests).run router.ids schedule
    final.uses.Nodup ∧ (∀ i, 2 ≤ schedule.count i → ∃ answer, final.activities i = .done answer) ∧
      ∀ answers, (∀ i, final.activities i = .done (answers i)) →
        RanSerially router history requests final.uses answers final.store := by
  intro store final
  obtain ⟨rest, earlier, hserves⟩ := serves_run router store requests schedule
  refine ⟨hserves.nodup, fun i hcount => ?_, fun answers hdone => ?_⟩
  · have hfollows := hserves.follows i
    rw [Nat.sub_eq_zero_of_le hcount] at hfollows
    exact hfollows.exists_done
  · have hserial : ∀ sequence : List (Fin n), sequence.Nodup → final.uses.Sublist sequence →
        router.handleAll store (sequence.map requests) = (sequence.map answers, final.store) :=
      fun sequence hnodup hsub => hserves.handleAll_eq hdone hnodup hsub
    have hcons : Consistent router.ids store (router.exchanges .empty history) := by
      have h := consistent_handleAll router (consistent_empty router.ids) history
      rwa [List.nil_append] at h
    obtain ⟨sequence, hnodup, hall, hsub⟩ := exists_sequence hserves.nodup
    have hexchanges := exchanges_map (hserial sequence hnodup hsub)
    have hpairs := pairwise_exchanges hcons (sequence.map requests)
    have hpast := fun earlier hmem => @precedes_exchanges router store _ hcons earlier hmem (sequence.map requests)
    rw [hexchanges] at hpairs hpast
    rw [List.pairwise_map] at hpairs
    constructor
    case serial => exact fun sequence hnodup _ hsub => hserial sequence hnodup hsub
    case deleted_once =>
      intro i j id hi hj hnamedi hnamedj hstatusi hstatusj
      exact eq_of_pairwise hall (hpairs.imp fun h => h.closed) (closed_of_deletion hi hnamedi hstatusi)
        (closed_of_deletion hj hnamedj hstatusj)
    case issued_once => exact fun i j id hi hj => eq_of_pairwise hall (hpairs.imp fun h => h.handedOut) hi hj
    case issued_new =>
      intro i id hid exchange hmem hagain
      exact (hpast exchange hmem _ (List.mem_map_of_mem (hall i))).handedOut id hagain hid
    case rejected =>
      intro i j id hij hi hnamedi hstatusi hneeds hnamedj
      have hprecedes := List.pairwise_pair.1 (hpairs.sublist (hij.trans hsub))
      have hj : j ∈ final.uses := hij.subset (by simp)
      exact hprecedes.rejected id (closed_of_deletion hi hnamedi hstatusi) (hserves.used j hj).2.1 (hserves.used j hj).2.2
        hneeds hnamedj

/-- Two deletions of one session race, and do not both succeed. -/
theorem side_by_side_is_serial_deletions :
    let router : Router := { server := ⟨"demo", none⟩, ids := .numbered }
    let message := requestJson (.int 1) "initialize" (some Session.handshakeParams)
    let handshake : Request := { method := "POST", target := "/mcp", headers := [], body := Bytes.ofText message.text }
    let deletion : Request :=
      { method := "DELETE", target := "/mcp", body := []
        headers := [.ofText "mcp-session-id" "<session:0>"] }
    let final := (SideBySide.start router.server (router.handleAll .empty [handshake]).2 fun _ : Fin 2 => deletion).run
      router.ids [1, 0, 0, 1]
    ∃ answers, (∀ i, final.activities i = .done (answers i)) ∧
      RanSerially router [handshake] (fun _ => deletion) final.uses answers final.store ∧
        ¬((answers 0).value.status = 204 ∧ (answers 1).value.status = 204) := by
  intro router message handshake deletion final
  have hnamed : Names deletion "<session:0>" := ⟨"<session:0>", by decide, by decide, by decide⟩
  have hmethod : deletion.method = "DELETE" := rfl
  have hcount : ∀ i : Fin 2, 2 ≤ List.count i [1, 0, 0, 1] := by decide
  -- From here on it does not matter what the requests are.
  clear_value handshake deletion
  obtain ⟨-, hfinished, hserial⟩ := side_by_side_is_serial router [handshake] (fun _ : Fin 2 => deletion) [1, 0, 0, 1]
  choose answers hanswers using fun i => hfinished i (hcount i)
  have hrules := hserial answers hanswers
  refine ⟨answers, hanswers, hrules, fun ⟨hfirst, hsecond⟩ => ?_⟩
  have hsame := hrules.deleted_once 0 1 "<session:0>" hmethod hmethod hnamed hnamed hfirst hsecond
  exact absurd hsame (by decide)

end ModelContext.Http
