import ModelContext.Proofs.Sessions

/-!
# Who gets to the endpoint

Where a token is configured, a request gets to the handlers of the endpoint exactly if its first authorization
header carries that token. Every other request is refused before its body is read: the refusal is all that is
logged, and the sessions stay as they are. The public pages are the same for everyone.
-/

namespace ModelContext.Http

/-! ## Authorization headers -/

def lowered (b : UInt8) : UInt8 :=
  if 0x41 ≤ b.toNat ∧ b.toNat ≤ 0x5A then b + 0x20 else b

def isBlankByte (b : UInt8) : Bool :=
  b.toNat == 0x20 || b.toNat == 0x09

/-- A header that begins with the scheme, in any case, and a space, and goes on with `rest`. It is made of visible
ASCII characters, spaces and tabs. -/
structure IsBearer (value rest : Bytes) : Prop where
  scheme : ∃ scheme, value = scheme ++ 0x20 :: rest ∧ scheme.map lowered = Bytes.ofText "bearer"
  readable : ∀ b ∈ value, (0x20 ≤ b.toNat ∧ b.toNat ≤ 0x7E) ∨ b.toNat = 0x09

def charOf (b : UInt8) : Char :=
  Char.ofNat b.toNat

theorem toNat_charOf (b : UInt8) : (charOf b).toNat = b.toNat := by
  have hvalid : b.toNat.isValidChar := Or.inl (b.toNat_lt.trans (by decide))
  rw [charOf, Char.ofNat, dif_pos hvalid]
  rfl

theorem charOf_injective : Function.Injective charOf := by
  intro b c h
  apply UInt8.toNat_inj.1
  rw [← toNat_charOf b, ← toNat_charOf c, h]

theorem isTextByte_iff {b : UInt8} : isTextByte b = true ↔ (0x20 ≤ b.toNat ∧ b.toNat ≤ 0x7E) ∨ b.toNat = 0x09 := by
  simp [isTextByte]

theorem toLower_charOf {b : UInt8} (hb : isTextByte b = true) : (charOf b).toLower = charOf (lowered b) := by
  -- No byte of a text is above 0x7E, so there are few enough to try them all.
  have hall : ∀ n < 0x80, (charOf (UInt8.ofNat n)).toLower = charOf (lowered (UInt8.ofNat n)) := by decide +kernel
  have hlt : b.toNat < 0x80 := by
    rw [isTextByte_iff] at hb
    omega
  simpa using hall b.toNat hlt

theorem isBlank_charOf {b : UInt8} (hb : isTextByte b = true) : Text.isBlank (charOf b) = isBlankByte b := by
  have hall : ∀ n < 0x80, isTextByte (UInt8.ofNat n) = true →
      Text.isBlank (charOf (UInt8.ofNat n)) = isBlankByte (UInt8.ofNat n) := by decide +kernel
  have hlt : b.toNat < 0x80 := by
    rw [isTextByte_iff] at hb
    omega
  simpa [hb] using hall b.toNat hlt

/-- The text of bytes that can be read is written with the same bytes. -/
theorem ofText_ofList_map_charOf {bytes : Bytes} (h : ∀ b ∈ bytes, isTextByte b = true) :
    Bytes.ofText (String.ofList (bytes.map charOf)) = bytes := by
  rw [Bytes.ofText_ascii, String.toList_ofList, List.map_map]
  · conv_rhs => rw [← List.map_id bytes]
    apply List.map_congr_left
    intro b _
    rw [Function.comp, toNat_charOf, UInt8.ofNat_toNat, id]
  · intro c hc
    rw [String.toList_ofList, List.mem_map] at hc
    obtain ⟨b, hb, rfl⟩ := hc
    have htext := isTextByte_iff.1 (h b hb)
    rw [toNat_charOf]
    omega

theorem ofText_injective : Function.Injective Bytes.ofText := by
  intro s t h
  rw [← Bytes.toTextLossy_ofText s, ← Bytes.toTextLossy_ofText t, h]

/-- The scheme in the characters of a header. -/
theorem map_toLower_eq_scheme_iff {bytes : Bytes} (h : ∀ b ∈ bytes, isTextByte b = true) :
    (bytes.map charOf).map Char.toLower = bearerScheme ↔ bytes.map lowered = Bytes.ofText "bearer" := by
  have hscheme : bearerScheme = (Bytes.ofText "bearer").map charOf := by decide +kernel
  have hmap : (bytes.map charOf).map Char.toLower = (bytes.map lowered).map charOf := by
    rw [List.map_map, List.map_map]
    exact List.map_congr_left fun b hb => toLower_charOf (h b hb)
  rw [hmap, hscheme]
  exact (List.map_injective_iff.2 charOf_injective).eq_iff

/-- The scheme and the space, as they are looked for in the characters of a header. -/
theorem isBearer_iff {value rest : Bytes} (h : ∀ b ∈ value, isTextByte b = true) :
    IsBearer value rest ↔
      (((value.map charOf).take bearerScheme.length).map Char.toLower = bearerScheme ∧
        (value.map charOf)[bearerScheme.length]? = some ' ') ∧ rest = value.drop (bearerScheme.length + 1) := by
  constructor
  · rintro ⟨⟨scheme, rfl, hscheme⟩, -⟩
    -- The letters of the scheme are as many in any case, so the space stands where it is looked for.
    have hlength : bearerScheme.length = scheme.length := by
      rw [← List.length_map lowered, hscheme]
      rfl
    have hreadable : ∀ b ∈ scheme, isTextByte b = true := fun b hb => h b (List.mem_append_left _ hb)
    rw [hlength]
    refine ⟨⟨?_, ?_⟩, ?_⟩
    · rw [← List.map_take, List.take_left, map_toLower_eq_scheme_iff hreadable, hscheme]
    · rw [List.getElem?_map, List.getElem?_append_right le_rfl, Nat.sub_self]
      rfl
    · rw [List.drop_append, List.drop_of_length_le (Nat.le_succ _), Nat.add_sub_cancel_left]
      rfl
  · rintro ⟨⟨hscheme, hspace⟩, rfl⟩
    rw [List.getElem?_map, Option.map_eq_some_iff] at hspace
    obtain ⟨b, hb, hchar⟩ := hspace
    obtain rfl : b = 0x20 := charOf_injective hchar
    obtain ⟨hlt, hget⟩ := List.getElem?_eq_some_iff.1 hb
    refine ⟨⟨value.take bearerScheme.length, ?_, ?_⟩, fun b hb => isTextByte_iff.1 (h b hb)⟩
    · rw [← hget, ← List.drop_eq_getElem_cons hlt, List.take_append_drop]
    · rw [← List.map_take] at hscheme
      exact (map_toLower_eq_scheme_iff fun b hb => h b (List.mem_of_mem_take hb)).1 hscheme

theorem dropWhile_isBlank_map_charOf {bytes : Bytes} (h : ∀ b ∈ bytes, isTextByte b = true) :
    (bytes.map charOf).dropWhile Text.isBlank = (bytes.dropWhile isBlankByte).map charOf := by
  induction bytes with
  | nil => rfl
  | cons b bytes ih =>
    have hb := isBlank_charOf (h b List.mem_cons_self)
    rw [List.map_cons, List.dropWhile_cons, List.dropWhile_cons, hb]
    split
    · exact ih fun c hc => h c (List.mem_cons_of_mem b hc)
    · rfl

/-- What is read of an authorization header: what follows the scheme, without the white space in front. -/
theorem bearerToken?_eq_some_iff {value : Bytes} {token : String} :
    bearerToken? value = some token ↔
      ∃ rest, IsBearer value rest ∧ rest.dropWhile isBlankByte = Bytes.ofText token := by
  by_cases hreadable : ∀ b ∈ value, isTextByte b = true
  · have htext : headerText? value = some (String.ofList (value.map charOf)) :=
      if_pos (List.all_eq_true.2 hreadable)
    have hrest : ∀ b ∈ value.drop (bearerScheme.length + 1), isTextByte b = true := fun b hb =>
      hreadable b (List.mem_of_mem_drop hb)
    have htoken : String.ofList (((value.drop (bearerScheme.length + 1)).dropWhile isBlankByte).map charOf) = token ↔
        (value.drop (bearerScheme.length + 1)).dropWhile isBlankByte = Bytes.ofText token := by
      rw [← ofText_injective.eq_iff, ofText_ofList_map_charOf]
      exact fun b hb => hrest b ((List.dropWhile_sublist _).subset hb)
    rw [bearerToken?, htext, Option.bind_some]
    simp only [isBearer_iff hreadable, String.toList_ofList, ← List.map_drop, dropWhile_isBlank_map_charOf hrest,
      Option.ite_none_right_eq_some, Option.some.injEq, htoken, and_assoc, exists_and_left, exists_eq_left]
  · have htext : headerText? value = none := if_neg (mt List.all_eq_true.1 hreadable)
    rw [bearerToken?, htext]
    refine iff_of_false nofun ?_
    rintro ⟨_, hbearer, -⟩
    exact hreadable fun b hb => isTextByte_iff.2 (hbearer.readable b hb)

/-- Whatever follows the scheme is read as some token. -/
theorem IsBearer.exists_token {value rest : Bytes} (h : IsBearer value rest) :
    ∃ token, bearerToken? value = some token ∧ rest.dropWhile isBlankByte = Bytes.ofText token := by
  have hreadable : ∀ b ∈ rest.dropWhile isBlankByte, isTextByte b = true := by
    intro b hb
    obtain ⟨scheme, rfl, -⟩ := h.scheme
    have hmem : b ∈ 0x20 :: rest := List.mem_cons_of_mem _ ((List.dropWhile_sublist _).subset hb)
    exact isTextByte_iff.2 (h.readable b (List.mem_append_right scheme hmem))
  have htoken := (ofText_ofList_map_charOf hreadable).symm
  exact ⟨_, bearerToken?_eq_some_iff.2 ⟨rest, h, htoken⟩, htoken⟩

theorem bearerToken?_eq_none_iff {value : Bytes} : bearerToken? value = none ↔ ∀ rest, ¬IsBearer value rest := by
  constructor
  · intro hnone rest hbearer
    obtain ⟨token, htoken, -⟩ := hbearer.exists_token
    rw [hnone] at htoken
    cases htoken
  · intro hno
    rw [Option.eq_none_iff_forall_ne_some]
    intro token htoken
    obtain ⟨rest, hbearer, -⟩ := bearerToken?_eq_some_iff.1 htoken
    exact hno rest hbearer

/-! ## Verdicts -/

/-- The first authorization header of a request carries a token, byte for byte. -/
def Presents (request : Request) (token : String) : Prop :=
  ∃ value rest, firstValue? request.headers "authorization" = some value ∧ IsBearer value rest ∧
    rest.dropWhile isBlankByte = Bytes.ofText token

section Verdicts

variable {request : Request} {token : String} {value rest : Bytes}

theorem judge_of_absent (h : firstValue? request.headers "authorization" = none) :
    judge (some token) request = .refused missingToken := by
  rw [judge, h]
  rfl

theorem judge_of_malformed (h : firstValue? request.headers "authorization" = some value)
    (hno : ∀ rest, ¬IsBearer value rest) : judge (some token) request = .unreadable := by
  rw [judge, h]
  dsimp only
  rw [bearerToken?_eq_none_iff.2 hno]

theorem judge_of_different (h : firstValue? request.headers "authorization" = some value)
    (hbearer : IsBearer value rest) (hne : rest.dropWhile isBlankByte ≠ Bytes.ofText token) :
    judge (some token) request = .refused invalidToken := by
  obtain ⟨other, hother, htoken⟩ := hbearer.exists_token
  have hdifferent : other ≠ token := by
    rintro rfl
    exact hne htoken
  rw [judge, h]
  dsimp only
  rw [hother]
  exact if_neg hdifferent

theorem judge_of_presents (h : Presents request token) : judge (some token) request = .admitted := by
  obtain ⟨value, rest, hvalue, hbearer, htoken⟩ := h
  rw [judge, hvalue]
  dsimp only
  rw [bearerToken?_eq_some_iff.2 ⟨rest, hbearer, htoken⟩]
  exact if_pos rfl

theorem refused_cases {expected : Option String} {refusal : Refusal} (h : judge expected request = .refused refusal) :
    refusal = missingToken ∨ refusal = invalidToken := by
  unfold judge at h
  split at h
  · split at h
    · exact .inl (Verdict.refused.inj h).symm
    · cases h
  · split at h
    · cases h
    · cases h
    · split at h
      · cases h
      · exact .inr (Verdict.refused.inj h).symm

end Verdicts

/-! ## Answers of the handlers -/

def planHandlers (server : Server) (request : Request) : Plan :=
  if request.method = "POST" then planPost server request
  else if request.method = "DELETE" then planDelete request
  else .done (pure (otherMethod request.method (.bare 405)))

/-- A request reaches the handlers: its answer and its effect are theirs. -/
def Reaches (router : Router) (store : SessionStore) (request : Request) : Prop :=
  router.handle store request =
    ((planHandlers router.server request).map (noted request)).run router.ids store

/-- A response of the handlers. They neither ask for a token nor refuse a header as unreadable. -/
structure IsServed (response : Response) : Prop where
  authorized : response.status ≠ 401
  readable : response.status = 400 → response.headers.head? = some (.ofText "content-type" "application/json")

theorem isServed_of_status {response : Response} {status : Nat} (h : response.status = status)
    (hunauthorized : status ≠ 401) (hbad : status ≠ 400) : IsServed response where
  authorized := h ▸ hunauthorized
  readable hstatus := absurd (h ▸ hstatus) hbad

theorem isServed_json {status : Nat} (h : status ≠ 401) (text : String) : IsServed (.json status text) where
  authorized := h
  readable _ := rfl

theorem isServed_missingSession : IsServed missingSession.response.value :=
  isServed_json (by decide) _

theorem isServed_unknownSession (id : String) : IsServed (unknownSession id).response.value :=
  isServed_json (by decide) _

theorem isServed_dispatched (server : Server) (message : Json) (streaming : Bool) :
    IsServed (dispatched server message streaming) := by
  rcases status_dispatched server message streaming with h | h
  · exact isServed_of_status h (by decide) (by decide)
  · exact isServed_of_status h (by decide) (by decide)

theorem status_replyResponse (reply : Json) (streaming : Bool) : (replyResponse reply streaming).status = 200 := by
  cases streaming <;> rfl

theorem isServed_replyResponse (reply : Json) (streaming : Bool) : IsServed (replyResponse reply streaming) :=
  isServed_of_status (status_replyResponse reply streaming) (by decide) (by decide)

section Handlers

variable (server : Server) (ids : SessionIds) (store : SessionStore) (request : Request)

theorem isServed_planBody : IsServed ((planBody server request).run ids store).1.value := by
  have hanswer := planBody_answer server ids store request
  generalize ((planBody server request).run ids store).1.value = response at *
  generalize ((planBody server request).run ids store).2 = after at *
  cases hanswer with
  | unparsed => exact isServed_replyResponse _ _
  | opened => exact isServed_of_status (status_replyResponse _ _) (by decide) (by decide)
  | failed | answered => exact isServed_dispatched _ _ _
  | missing => exact isServed_missingSession
  | unknown => exact isServed_unknownSession _

theorem isServed_planPost : IsServed ((planPost server request).run ids store).1.value := by
  unfold planPost
  split_ifs
  · exact isServed_planBody server ids store request
  · exact isServed_of_status rfl (by decide : 413 ≠ 401) (by decide : 413 ≠ 400)

theorem isServed_planDelete : IsServed ((planDelete request).run ids store).1.value := by
  rw [(run_planDelete ids store request).1]
  split
  · exact isServed_missingSession
  · split
    · exact isServed_of_status rfl (by decide) (by decide)
    · exact isServed_unknownSession _

theorem status_otherMethod (method : String) (response : Response) :
    (otherMethod method response).status = response.status := by
  unfold otherMethod
  dsimp only
  split <;> rfl

theorem isServed_planHandlers : IsServed ((planHandlers server request).run ids store).1.value := by
  unfold planHandlers
  split_ifs
  · exact isServed_planPost server ids store request
  · exact isServed_planDelete ids store request
  · exact isServed_of_status (status_otherMethod _ _) (by decide : 405 ≠ 401) (by decide : 405 ≠ 400)

end Handlers

/-! ## Requests that are turned away -/

/-- A request is answered in the place of the handlers. Nothing is logged but that, and the sessions stay as
they are. -/
structure IsTurnedAway (router : Router) (store : SessionStore) (request : Request) (response : Response) : Prop where
  status : (router.handle store request).1.value.status = response.status
  headers : ∃ more, (router.handle store request).1.value.headers = response.headers ++ more
  body : (router.handle store request).1.value.body = if request.method = "HEAD" then [] else response.body
  events : (router.handle store request).1.events =
    .requestAnswered request.method request.path response.status ::
      if response.status = 401 then [.authenticationFailed request.method request.path] else []
  store : (router.handle store request).2 = store

section Endpoint

variable {router : Router} {store : SessionStore} {request : Request}

theorem events_noted_pure (request : Request) (response : Response) :
    (noted request (pure response)).events = .requestAnswered request.method request.path response.status ::
      if response.status = 401 then [.authenticationFailed request.method request.path] else [] :=
  events_noted request (pure response)

theorem isTurnedAway_of_sent {response sent : Response} (hplan : plan router.server request = .done (pure sent))
    (hstatus : sent.status = response.status) (hheaders : ∃ more, sent.headers = response.headers ++ more)
    (hbody : sent.body = if request.method = "HEAD" then [] else response.body) :
    IsTurnedAway router store request response := by
  have hhandle : router.handle store request = (noted request (pure sent), store) := by
    rw [Router.handle, hplan]
    rfl
  constructor
  case status => rw [hhandle, value_noted]; exact hstatus
  case headers => rw [hhandle, value_noted]; exact hheaders
  case body => rw [hhandle, value_noted]; exact hbody
  case events => rw [hhandle, events_noted_pure, hstatus]
  case store => rw [hhandle]

theorem isTurnedAway_of_plan {response : Response}
    (hplan : plan router.server request =
      if request.method = "POST" ∨ request.method = "DELETE" then .done (pure response)
      else (Plan.done (pure response)).map fun answer => otherMethod request.method <$> answer) :
    IsTurnedAway router store request response := by
  by_cases hserved : request.method = "POST" ∨ request.method = "DELETE"
  · rw [if_pos hserved] at hplan
    have hhead : request.method ≠ "HEAD" := by
      rcases hserved with h | h
      · rw [h]
        decide
      · rw [h]
        decide
    exact isTurnedAway_of_sent hplan rfl ⟨[], (List.append_nil _).symm⟩ (if_neg hhead).symm
  · rw [if_neg hserved] at hplan
    apply isTurnedAway_of_sent hplan (status_otherMethod _ _)
    · refine ⟨[.ofText "allow" "POST,DELETE"], ?_⟩
      unfold otherMethod
      dsimp only
      split <;> rfl
    · unfold otherMethod
      dsimp only
      split <;> rfl

variable (hpath : request.path = endpointPath)

include hpath

theorem isTurnedAway_of_unreadable (hjudge : judge router.server.apiToken request = .unreadable) :
    IsTurnedAway router store request unreadableAuthorization := by
  apply isTurnedAway_of_plan
  rw [plan, if_pos hpath, planEndpoint, hjudge]

theorem isTurnedAway_of_unauthorized {code reason : String}
    (hjudge : judge router.server.apiToken request = .refused (.unauthorized code reason)) :
    IsTurnedAway router store request (Refusal.unauthorized code reason).response.value := by
  apply isTurnedAway_of_plan
  rw [plan, if_pos hpath, planEndpoint, hjudge]
  rfl

theorem reaches_of_admitted (hadmitted : judge router.server.apiToken request = .admitted) :
    Reaches router store request := by
  have hplan : plan router.server request = planHandlers router.server request := by
    rw [plan, if_pos hpath, planEndpoint, hadmitted]
    by_cases hpost : request.method = "POST"
    · rw [if_pos (Or.inl hpost), planHandlers, if_pos hpost]
      exact if_pos hpost
    · by_cases hdelete : request.method = "DELETE"
      · rw [if_pos (Or.inr hdelete), planHandlers, if_neg hpost, if_pos hdelete]
        exact (if_neg hpost).trans (if_pos hdelete)
      · have hadmittedPlan : planAdmitted router.server request = .done (pure (.bare 405)) :=
          (if_neg hpost).trans (if_neg hdelete)
        rw [if_neg (not_or.2 ⟨hpost, hdelete⟩), planHandlers, if_neg hpost, if_neg hdelete]
        dsimp only
        rw [hadmittedPlan]
        rfl
  rw [Reaches, Router.handle, hplan]

omit hpath in
theorem isServed_of_reaches (h : Reaches router store request) : IsServed (router.handle store request).1.value := by
  rw [h, run_map, value_noted]
  exact isServed_planHandlers router.server router.ids store request

end Endpoint

/-- Nobody gets past the check of a token without it. -/
structure IsGuarded (router : Router) (token : String) (store : SessionStore) (request : Request) : Prop where
  reaches_iff : Reaches router store request ↔ Presents request token
  absent : firstValue? request.headers "authorization" = none →
    ∃ response, Refuses response 401 "missing_token" (.obj []) ∧ IsTurnedAway router store request response
  malformed : ∀ value, firstValue? request.headers "authorization" = some value → (∀ rest, ¬IsBearer value rest) →
    ∃ response, response.status = 400 ∧ response.body = Bytes.ofText "invalid HTTP header (authorization)" ∧
      IsTurnedAway router store request response
  different : ∀ value rest, firstValue? request.headers "authorization" = some value → IsBearer value rest →
    rest.dropWhile isBlankByte ≠ Bytes.ofText token →
    ∃ response, Refuses response 401 "invalid_token" (.obj []) ∧ IsTurnedAway router store request response

theorem not_reaches_of_unauthorized {router : Router} {store : SessionStore} {request : Request} {response : Response}
    (haway : IsTurnedAway router store request response) (hstatus : response.status = 401) :
    ¬Reaches router store request := fun hreaches =>
  (isServed_of_reaches hreaches).authorized (haway.status.trans hstatus)

theorem not_reaches_of_unreadable {router : Router} {store : SessionStore} {request : Request}
    (haway : IsTurnedAway router store request unreadableAuthorization) : ¬Reaches router store request := by
  intro hreaches
  have hjson := (isServed_of_reaches hreaches).readable haway.status
  obtain ⟨more, hheaders⟩ := haway.headers
  rw [hheaders] at hjson
  have htext : (unreadableAuthorization.headers ++ more).head? =
      some (.ofText "content-type" "text/plain; charset=utf-8") := rfl
  rw [htext] at hjson
  revert hjson
  decide +kernel

theorem isGuarded (router : Router) {token : String} (htoken : router.server.apiToken = some token)
    (store : SessionStore) {request : Request} (hpath : request.path = endpointPath) :
    IsGuarded router token store request := by
  have habsent (h : firstValue? request.headers "authorization" = none) :
      IsTurnedAway router store request missingToken.response.value :=
    isTurnedAway_of_unauthorized hpath (htoken ▸ judge_of_absent h)
  have hmalformed (value : Bytes) (h : firstValue? request.headers "authorization" = some value)
      (hno : ∀ rest, ¬IsBearer value rest) : IsTurnedAway router store request unreadableAuthorization :=
    isTurnedAway_of_unreadable hpath (htoken ▸ judge_of_malformed h hno)
  have hdifferent (value rest : Bytes) (h : firstValue? request.headers "authorization" = some value)
      (hbearer : IsBearer value rest) (hne : rest.dropWhile isBlankByte ≠ Bytes.ofText token) :
      IsTurnedAway router store request invalidToken.response.value :=
    isTurnedAway_of_unauthorized hpath (htoken ▸ judge_of_different h hbearer hne)
  constructor
  case reaches_iff =>
    refine ⟨fun hreaches => ?_, fun hpresents => reaches_of_admitted hpath (htoken ▸ judge_of_presents hpresents)⟩
    -- Whoever is turned away gets a status or a content type that no handler answers with.
    by_contra hnot
    cases hvalue : firstValue? request.headers "authorization" with
    | none => exact not_reaches_of_unauthorized (habsent hvalue) rfl hreaches
    | some value =>
      by_cases hbearer : ∃ rest, IsBearer value rest
      · obtain ⟨rest, hbearer⟩ := hbearer
        have hne : rest.dropWhile isBlankByte ≠ Bytes.ofText token := fun heq =>
          hnot ⟨value, rest, hvalue, hbearer, heq⟩
        exact not_reaches_of_unauthorized (hdifferent value rest hvalue hbearer hne) rfl hreaches
      · exact not_reaches_of_unreadable (hmalformed value hvalue (not_exists.1 hbearer)) hreaches
  case absent => exact fun h => ⟨_, refuses_body rfl rfl (by decide), habsent h⟩
  case malformed => exact fun value h hno => ⟨_, rfl, rfl, hmalformed value h hno⟩
  case different =>
    exact fun value rest h hbearer hne => ⟨_, refuses_body rfl rfl (by decide), hdifferent value rest h hbearer hne⟩

/-- The answer of a public page depends on the method and the path alone. -/
theorem handle_page (router : Router) (store : SessionStore) (request : Request) {text : String}
    (hpath : request.path ≠ endpointPath) (htext : pageText? request.path = some text) :
    router.handle store request = (noted request (pure (pageResponse request.method text)), store) := by
  rw [Router.handle, plan, if_neg hpath, htext]
  rfl

/-- Where a token is configured, a request reaches the endpoint if and only if it presents that token, and is
turned away otherwise. The public pages are the same with every token and for every header. -/
theorem token_guards_endpoint (router : Router) {token : String} (htoken : router.server.apiToken = some token)
    (store : SessionStore) (request : Request) :
    (request.path = "/mcp" → IsGuarded router token store request) ∧
      (request.path = "/health" ∨ request.path = "/.well-known/mcp" →
        ∀ (apiToken : Option String) (headers : List Header),
          Router.handle ⟨{ router.server with apiToken }, router.ids⟩ store { request with headers } =
            router.handle store request) := by
  refine ⟨isGuarded router htoken store, fun hpage apiToken headers => ?_⟩
  have hpublic : ∃ text, pageText? request.path = some text := by
    rcases hpage with h | h
    · exact ⟨healthText, if_pos h⟩
    · exact ⟨discoveryText, by rw [h]; rfl⟩
  have hpath : request.path ≠ endpointPath := by
    rcases hpage with h | h
    · rw [h]
      decide
    · rw [h]
      decide
  obtain ⟨text, htext⟩ := hpublic
  rw [handle_page router store request hpath htext]
  exact handle_page ⟨{ router.server with apiToken }, router.ids⟩ store { request with headers } hpath htext

def gated : Router :=
  ⟨⟨"Demo", some "secret"⟩, .numbered⟩

def knock (method authorization : String) : Request :=
  ⟨method, "/mcp", [.ofText "authorization" authorization], []⟩

theorem token_guards_endpoint_gated :
    Reaches gated .empty (knock "DELETE" "bEARER  secret") ∧
      ∃ response, Refuses response 401 "invalid_token" (.obj []) ∧
        IsTurnedAway gated .empty (knock "PATCH" "Bearer Secret") response := by
  have hpath (method authorization : String) : (knock method authorization).path = "/mcp" :=
    (by decide : String.ofList (pathOf "/mcp".toList) = "/mcp")
  have hguarded (method authorization : String) :
      IsGuarded gated "secret" .empty (knock method authorization) :=
    (token_guards_endpoint gated rfl .empty (knock method authorization)).1 (hpath method authorization)
  constructor
  · apply (hguarded _ _).reaches_iff.2
    refine ⟨_, Bytes.ofText " secret", rfl, ⟨⟨Bytes.ofText "bEARER", ?_, ?_⟩, ?_⟩, ?_⟩
    all_goals decide +kernel
  · apply (hguarded _ _).different _ (Bytes.ofText "Secret") rfl
    · refine ⟨⟨Bytes.ofText "Bearer", ?_, ?_⟩, ?_⟩
      all_goals decide +kernel
    · decide +kernel

end ModelContext.Http
