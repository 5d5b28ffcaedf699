import ModelContext.Proofs.Sessions

/-!
# Requests that leave no trace

A request whose answer neither hands out a session nor says that one was deleted can be taken out of a history: all
other requests are answered as before. Every request is of that kind, but for handshakes with a result and deletions
of live sessions.
-/

namespace ModelContext.Http

section Store

variable (router : Router) (store : SessionStore)

/-- An ordinary answer leaves the store as it was. -/
theorem store_of_isOrdinary {request : Request} (h : IsOrdinary (router.handle store request).1.value) :
    (router.handle store request).2 = store := by
  have heffect := handle_effect router store request
  generalize (router.handle store request).1.value = response at *
  generalize (router.handle store request).2 = after at *
  cases heffect with
  | kept => rfl
  | opened hmethod hnew => exact absurd ⟨_, hnew⟩ h.no_id
  | closed hmethod hid hlive => exact absurd rfl h.not_closed

/-- Without a request that was answered in an ordinary way, the others are answered as before. -/
theorem handleAll_eraseIdx (history : List Request) {i : Nat} {answer : Logged Response}
    (hanswer : (router.handleAll store history).1[i]? = some answer) (h : IsOrdinary answer.value) :
    router.handleAll store (history.eraseIdx i) =
      ((router.handleAll store history).1.eraseIdx i, (router.handleAll store history).2) := by
  induction history generalizing store i with
  | nil => cases hanswer
  | cons request later ih =>
    rw [handleAll_cons] at hanswer ⊢
    cases i with
    | zero =>
      -- The others start from the same store as before.
      obtain rfl : (router.handle store request).1 = answer := Option.some.inj hanswer
      rw [List.eraseIdx_cons_zero, List.eraseIdx_cons_zero, store_of_isOrdinary router store h]
    | succ i =>
      rw [List.eraseIdx_cons_succ, List.eraseIdx_cons_succ, handleAll_cons, ih _ hanswer]

end Store

/-! ## Which requests are not ordinary -/

/-- A request that is a single handshake, and is answered by a result. -/
def IsHandshake (server : Server) (request : Request) : Prop :=
  request.method = "POST" ∧ ∃ message reply, Json.parseBytes? request.body = some message ∧
    message.get? "method" = some (.str "initialize") ∧ (server.answer message).value = some reply ∧
    reply.has "result" = true

def IsDeletion (store : SessionStore) (request : Request) : Prop :=
  request.method = "DELETE" ∧ ∃ id, Names request id ∧ store.contains id = true

section Answers

variable {router : Router} {store : SessionStore} {request : Request}

theorem isOrdinary_of_no_effect (hhandshake : ¬IsHandshake router.server request)
    (hdeletion : ¬IsDeletion store request) :
    IsOrdinary (router.handle store request).1.value := by
  by_cases h : request.path = endpointPath ∧ judge router.server.apiToken request = .admitted
  · have hopening := @handle_opening router store request h.1 h.2
    have heffect := handle_effect router store request
    generalize (router.handle store request).1.value = response at *
    generalize (router.handle store request).2 = after at *
    cases heffect with
    | kept hordinary => exact hordinary
    | opened hmethod hnew =>
      obtain ⟨-, -, hresult⟩ := hopening.1 ⟨_, hnew⟩
      exact absurd ⟨hmethod, hresult⟩ hhandshake
    | closed hmethod hid hlive =>
      exact absurd ⟨hmethod, _, sessionOf?_eq_some_iff.1 hid, List.contains_iff_mem.2 hlive⟩ hdeletion
  · obtain ⟨answer, hplan, hordinary⟩ := plan_of_not_admitted h
    rw [value_handle, hplan]
    exact hordinary

end Answers

/-- Taking an ordinary request out of a history changes neither the answers to the other requests, with their events,
nor the sessions at its end. The requests that are not handshakes with a result and delete no live session are
ordinary. -/
theorem ordinary_requests_leave_no_trace (router : Router) (store : SessionStore) (history : List Request) {i : Nat}
    {answer : Logged Response} (hanswer : (router.handleAll store history).1[i]? = some answer)
    (hordinary : IsOrdinary answer.value) :
    router.handleAll store (history.eraseIdx i) =
        ((router.handleAll store history).1.eraseIdx i, (router.handleAll store history).2) ∧
      ∀ now request, ¬IsHandshake router.server request → ¬IsDeletion now request →
        IsOrdinary (router.handle now request).1.value :=
  ⟨handleAll_eraseIdx router store history hanswer hordinary, fun _ _ => isOrdinary_of_no_effect⟩

/-- Between a handshake and a deletion, a request with a wrong method leaves no trace. -/
theorem ordinary_requests_leave_no_trace_wrong_method :
    let router : Router := { server := ⟨"demo", none⟩, ids := .numbered }
    let message := requestJson (.int 1) "initialize" (some Session.handshakeParams)
    let handshake : Request := { method := "POST", target := "/mcp", headers := [], body := Bytes.ofText message.text }
    let stray : Request := { method := "GET", target := "/mcp", headers := [], body := [] }
    let deletion : Request :=
      { method := "DELETE", target := "/mcp", body := []
        headers := [.ofText "mcp-session-id" "<session:0>"] }
    let answers := (router.handleAll .empty [handshake, stray, deletion]).1
    (∃ answer, answers[1]? = some answer ∧ IsOrdinary answer.value) ∧
      (router.handleAll .empty [handshake, deletion]).1 = answers.eraseIdx 1 := by
  intro router message handshake stray deletion answers
  have hanswer : (router.handleAll .empty [handshake, stray, deletion]).1[1]? =
      some (router.handle (router.handle .empty handshake).2 stray).1 := by
    rw [handleAll_cons, handleAll_cons]
    rfl
  have hordinary : IsOrdinary (router.handle (router.handle .empty handshake).2 stray).1.value :=
    isOrdinary_of_no_effect (fun h => absurd h.1 (by decide)) fun h => absurd h.1 (by decide)
  have hwithout := (ordinary_requests_leave_no_trace router .empty [handshake, stray, deletion] hanswer hordinary).1
  exact ⟨⟨_, hanswer, hordinary⟩, congrArg Prod.fst hwithout⟩

end ModelContext.Http
