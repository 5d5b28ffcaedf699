import ModelContext.Proofs.Admission

/-!
# Servers without a token

A server without a token reads the authorization header all the same. A request that has none, or whose first one can
be read, gets to the handlers, and what the header says does not matter. A first header that cannot be read is refused.
-/

namespace ModelContext.Http

/-- A request without its authorization headers. -/
def Request.anonymous (request : Request) : Request :=
  { request with headers := request.headers.filter (·.name ≠ "authorization") }

def IsLegible (request : Request) : Prop :=
  ∀ value, firstValue? request.headers "authorization" = some value → ∃ rest, IsBearer value rest

/-! ## What does not depend on authorization headers -/

section Anonymous

variable (server : Server) (request : Request)

theorem values_anonymous {name : String} (h : name ≠ "authorization") :
    values request.anonymous.headers name = values request.headers name := by
  simp only [values, Request.anonymous, List.filter_filter]
  congr 1
  apply List.filter_congr
  intro header _
  by_cases hname : header.name = name
  · simp [hname, h]
  · simp [hname]

theorem sessionOf?_anonymous : sessionOf? request.anonymous.headers = sessionOf? request.headers := by
  simp only [sessionOf?, firstText?, firstValue?, values_anonymous request (by decide : sessionHeader ≠ "authorization")]

theorem planPost_anonymous : planPost server request.anonymous = planPost server request := by
  simp only [planPost, planBody, sessionOf?_anonymous,
    values_anonymous request (by decide : "accept" ≠ "authorization")]
  rfl

theorem planDelete_anonymous : planDelete request.anonymous = planDelete request := by
  simp only [planDelete, sessionOf?_anonymous]

theorem planAdmitted_anonymous : planAdmitted server request.anonymous = planAdmitted server request := by
  rw [planAdmitted, planPost_anonymous, planDelete_anonymous]
  rfl

theorem planHandlers_anonymous : planHandlers server request.anonymous = planHandlers server request := by
  rw [planHandlers, planPost_anonymous, planDelete_anonymous]
  rfl

end Anonymous

section Pair

variable {router : Router} {request other : Request} (hsame : request.anonymous = other.anonymous)

include hsame

theorem method_eq_of_anonymous : request.method = other.method :=
  (congrArg Request.method hsame : request.anonymous.method = other.anonymous.method)

theorem path_eq_of_anonymous : request.path = other.path :=
  (congrArg Request.path hsame : request.anonymous.path = other.anonymous.path)

theorem noted_eq_of_anonymous : noted request = noted other := by
  unfold noted
  rw [method_eq_of_anonymous hsame, path_eq_of_anonymous hsame]

/-- Requests on which the verdict is the same have the same plan. -/
theorem plan_eq_of_judge {server : Server}
    (hjudge : request.path = endpointPath → judge server.apiToken request = judge server.apiToken other) :
    plan server request = plan server other := by
  have hadmitted : planAdmitted server request = planAdmitted server other := by
    rw [← planAdmitted_anonymous, hsame, planAdmitted_anonymous]
  unfold plan
  rw [← path_eq_of_anonymous hsame, ← method_eq_of_anonymous hsame]
  by_cases hpath : request.path = endpointPath
  · rw [if_pos hpath, if_pos hpath, planEndpoint, planEndpoint, hjudge hpath, hadmitted, method_eq_of_anonymous hsame]
  · rw [if_neg hpath, if_neg hpath]

theorem handle_eq_of_judge (store : SessionStore)
    (hjudge : request.path = endpointPath → judge router.server.apiToken request = judge router.server.apiToken other) :
    router.handle store request = router.handle store other := by
  rw [Router.handle, Router.handle, plan_eq_of_judge hsame hjudge, noted_eq_of_anonymous hsame]

/-- Requests that are answered alike get both to the handlers, or neither does. -/
theorem reaches_iff_of_handle_eq {store : SessionStore}
    (hhandle : router.handle store request = router.handle store other) :
    Reaches router store request ↔ Reaches router store other := by
  have hhandlers : planHandlers router.server request = planHandlers router.server other := by
    rw [← planHandlers_anonymous, hsame, planHandlers_anonymous]
  rw [Reaches, Reaches, hhandle, hhandlers, noted_eq_of_anonymous hsame]

end Pair

/-! ## Without a token -/

section Open

variable {request : Request}

theorem judge_of_isLegible (h : IsLegible request) : judge none request = .admitted := by
  rw [judge]
  cases hvalue : firstValue? request.headers "authorization" with
  | none => rfl
  | some value =>
    obtain ⟨rest, hbearer⟩ := h value hvalue
    obtain ⟨token, htoken, -⟩ := hbearer.exists_token
    dsimp only
    rw [htoken]

theorem judge_of_not_isLegible (h : ¬IsLegible request) : judge none request = .unreadable := by
  simp only [IsLegible, not_forall] at h
  obtain ⟨value, hvalue, hno⟩ := h
  rw [judge, hvalue]
  dsimp only
  rw [bearerToken?_eq_none_iff.2 (not_exists.1 hno)]

variable {router : Router} (hopen : router.server.apiToken = none) (hpath : request.path = endpointPath)

include hopen hpath

theorem isTurnedAway_of_not_isLegible {store : SessionStore} (h : ¬IsLegible request) :
    IsTurnedAway router store request unreadableAuthorization :=
  isTurnedAway_of_unreadable hpath (hopen ▸ judge_of_not_isLegible h)

theorem reaches_iff_isLegible {store : SessionStore} : Reaches router store request ↔ IsLegible request := by
  refine ⟨fun hreaches => ?_, fun h => reaches_of_admitted hpath (hopen ▸ judge_of_isLegible h)⟩
  by_contra h
  exact not_reaches_of_unreadable (isTurnedAway_of_not_isLegible hopen hpath h) hreaches

end Open

/-- Two requests to a server without a token that differ in their authorization headers alone are answered alike, with
the same events and the same effect on the sessions, if and only if both or neither can be read at the endpoint.
Those that can be read get to its handlers, and the others are refused. -/
theorem open_server_answers_alike {router : Router} (hopen : router.server.apiToken = none) (store : SessionStore)
    {request other : Request} (hsame : request.anonymous = other.anonymous) :
    (router.handle store request = router.handle store other ↔
        (request.path = "/mcp" → (IsLegible request ↔ IsLegible other))) ∧
      (request.path = "/mcp" → (Reaches router store request ↔ IsLegible request) ∧
        (¬IsLegible request → ∃ response, response.status = 400 ∧
          response.body = Bytes.ofText "invalid HTTP header (authorization)" ∧
          IsTurnedAway router store request response)) := by
  refine ⟨⟨fun hhandle hpath => ?_, fun halike => ?_⟩, fun hpath => ⟨reaches_iff_isLegible hopen hpath, fun h => ?_⟩⟩
  · have hother : other.path = endpointPath := (path_eq_of_anonymous hsame).symm.trans hpath
    calc IsLegible request ↔ Reaches router store request := (reaches_iff_isLegible hopen hpath).symm
      _ ↔ Reaches router store other := reaches_iff_of_handle_eq hsame hhandle
      _ ↔ IsLegible other := reaches_iff_isLegible hopen hother
  · apply handle_eq_of_judge hsame
    intro hpath
    rw [hopen]
    by_cases h : IsLegible request
    · rw [judge_of_isLegible h, judge_of_isLegible ((halike hpath).1 h)]
    · rw [judge_of_not_isLegible h, judge_of_not_isLegible (mt (halike hpath).2 h)]
  · exact ⟨_, rfl, rfl, isTurnedAway_of_not_isLegible hopen hpath h⟩

def ungated : Router :=
  ⟨⟨"Demo", none⟩, .numbered⟩

def greet (headers : List Header) : Request :=
  { method := "POST", target := "/mcp", headers
    body := Bytes.ofText (requestJson (.int 1) "initialize" (some Session.handshakeParams)).text }

theorem path_greet (headers : List Header) : (greet headers).path = "/mcp" :=
  (by decide : String.ofList (pathOf "/mcp".toList) = "/mcp")

theorem isLegible_bare : IsLegible (greet []) := by
  rintro value ⟨⟩

theorem open_server_answers_alike_bearer :
    let named := greet [.ofText "authorization" "Bearer anyone"]
    ungated.handle .empty named = ungated.handle .empty (greet []) ∧ Reaches ungated .empty named := by
  intro named
  have hnamed : IsLegible named := by
    rintro value hvalue
    obtain rfl : Bytes.ofText "Bearer anyone" = value := Option.some.inj hvalue
    refine ⟨Bytes.ofText "anyone", ⟨Bytes.ofText "Bearer", ?_, ?_⟩, ?_⟩
    all_goals decide +kernel
  have halike := @open_server_answers_alike ungated rfl .empty named (greet []) rfl
  exact ⟨halike.1.2 fun _ => iff_of_true hnamed isLegible_bare, ((halike.2 (path_greet _)).1).2 hnamed⟩

/-- A server without a token does not accept everyone: a handshake with another scheme is refused. -/
theorem not_everyone_accepted :
    ¬∀ request other : Request, request.anonymous = other.anonymous →
      ungated.handle .empty request = ungated.handle .empty other := by
  intro hall
  let basic := greet [.ofText "authorization" "Basic dXNlcjpwYXNz"]
  have hbasic : ¬IsLegible basic := by
    intro h
    have hnone : bearerToken? (Bytes.ofText "Basic dXNlcjpwYXNz") = none := by decide +kernel
    exact not_exists.2 (bearerToken?_eq_none_iff.1 hnone) (h _ rfl)
  have hsame : basic.anonymous = (greet []).anonymous := rfl
  have halike := reaches_iff_of_handle_eq hsame (hall basic (greet []) hsame)
  rw [reaches_iff_isLegible rfl (path_greet _), reaches_iff_isLegible rfl (path_greet _)] at halike
  exact hbasic (halike.2 isLegible_bare)

end ModelContext.Http
