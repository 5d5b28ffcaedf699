import ModelContext.Proofs.Outcomes
import ModelContext.Proofs.Redaction

/-!
# What the log tells of a request

A request that is carried out is audited once, after all that is done for it, and the log shows of its
parameters what is left of them without their secrets. Only a handshake that offers no version is answered
before anything is logged.
-/

namespace ModelContext

def OffersVersion (params : Option Json) : Prop :=
  ∃ version, params.bind (·.get? "protocolVersion") = some (.str version) ∧ ¬IsBlank version

def auditEvents (events : List Event) : List Event :=
  events.filter fun event => event.message == "mcp action audited"

/-! ## Events -/

theorem events_answerCallTool (id params : Option Json) : (answerCallTool id params).events = [] := by
  unfold answerCallTool
  cases params.bind CallToolParams.ofJson? with
  | none => rfl
  | some call =>
    by_cases hname : call.name = Adder.name
    · simp only [callTool, if_pos hname]
      cases hcall : Adder.call call.arguments with
      | ok result => rfl
      | error refusal =>
        rw [Adder.call_error hcall]
        rfl
    · simp only [callTool, if_neg hname]
      rfl

theorem events_answerReadResource (id params : Option Json) : (answerReadResource id params).events = [] := by
  unfold answerReadResource
  cases params.bind ReadResourceParams.ofJson? with
  | none => rfl
  | some read =>
    cases hname : Greeting.name? read.uri with
    | none =>
      simp only [readResource, hname]
      rfl
    | some name =>
      simp only [readResource, hname]
      rfl

namespace Server

theorem events_audited (method : String) (params : Option Json) (answer : Logged Json) :
    (audited method params answer).events =
      answer.events ++ [.actionAudited method (auditParams params) (isErrorReply answer.value)] := by
  simp [audited]

theorem value_audited (method : String) (params : Option Json) (answer : Logged Json) :
    (audited method params answer).value = answer.value :=
  rfl

theorem offeredVersion?_eq_none_iff {params : Option Json} : offeredVersion? params = none ↔ ¬OffersVersion params := by
  simp only [offeredVersion?, OffersVersion, ← isEmpty_trim_iff]
  cases hoffered : params.bind (·.get? "protocolVersion") with
  | none => simp
  | some v =>
    cases v with
    | str version => simp [Json.str?]
    | _ => simp [Json.str?]

/-- What is logged of the version that a handshake offers, before the request is audited. -/
def offerEvents (method : String) (params : Option Json) : List Event :=
  if method = "initialize" then (negotiate params).events else []

theorem auditEvents_offerEvents (method : String) (params : Option Json) :
    auditEvents (offerEvents method params) = [] := by
  unfold offerEvents negotiate
  split_ifs
  · cases offeredVersion? params with
    | none => rfl
    | some offered =>
      dsimp only
      split_ifs <;> rfl
  · rfl

section Requests

variable (server : Server) (id : Option Json) {method : String} {params : Option Json}

theorem respond_of_no_version (h : ¬OffersVersion params) :
    server.respond id "initialize" params = missingVersion.reply id := by
  have hmethod : Method.ofName? "initialize" = some .handshake := rfl
  rw [respond, hmethod]
  dsimp only
  rw [negotiate, offeredVersion?_eq_none_iff.2 h]
  rfl

theorem respond_of_version (h : OffersVersion params) :
    server.respond id "initialize" params = negotiate params >>= fun _ =>
      audited "initialize" params (pure (resultReply id (server.welcome protocolVersion).toJson)) := by
  have hmethod : Method.ofName? "initialize" = some .handshake := rfl
  rw [respond, hmethod]
  dsimp only
  cases hoffered : offeredVersion? params with
  | none => exact absurd h (offeredVersion?_eq_none_iff.1 hoffered)
  | some offered =>
    rw [negotiate, hoffered]
    dsimp only
    split_ifs <;> rfl

/-- All other requests are audited, and nothing else is logged of them. -/
theorem respond_of_ne (h : method ≠ "initialize") :
    ∃ answer : Logged Json, answer.events = [] ∧ server.respond id method params = audited method params answer := by
  unfold respond
  cases hmethod : Method.ofName? method with
  | none => exact ⟨_, rfl, rfl⟩
  | some known =>
    cases known with
    | handshake => exact absurd (Method.ofName?_eq_some_iff.1 hmethod).symm h
    | ping | list listing => exact ⟨_, rfl, rfl⟩
    | callTool => exact ⟨_, events_answerCallTool id params, rfl⟩
    | readResource => exact ⟨_, events_answerReadResource id params, rfl⟩

/-- Unless it offers no version, a request is audited, as the last thing that is logged of it. -/
theorem events_respond (h : method = "initialize" → OffersVersion params) :
    (server.respond id method params).events = offerEvents method params ++
      [.actionAudited method (auditParams params) (isErrorReply (server.respond id method params).value)] := by
  by_cases hmethod : method = "initialize"
  · subst hmethod
    rw [respond_of_version server id (h rfl), Logged.events_bind, events_audited, offerEvents, if_pos rfl]
    rfl
  · obtain ⟨answer, hevents, hanswer⟩ := @respond_of_ne server id method params hmethod
    rw [hanswer, events_audited, value_audited, hevents, offerEvents, if_neg hmethod]

theorem auditEvents_respond (h : method = "initialize" → OffersVersion params) :
    auditEvents (server.respond id method params).events =
      [.actionAudited method (auditParams params) (isErrorReply (server.respond id method params).value)] := by
  rw [events_respond server id h, auditEvents, List.filter_append, ← auditEvents, auditEvents_offerEvents]
  rfl

end Requests

/-! ## Auditing -/

structure Audits (server : Server) : Prop where
  /-- One event with the method, the parameters without secrets, and whether the reply carries an error. -/
  audited : ∀ id method params, (method = "initialize" → OffersVersion params) →
    auditEvents (server.respond id method params).events =
      [.actionAudited method (auditParams params) ((server.respond id method params).value.get? "error").isSome]
  /-- A handshake without a version is refused as such, and nothing is logged of it. -/
  refused : ∀ id params, ¬OffersVersion params →
    (server.respond id "initialize" params).events = [] ∧
      (server.respond id "initialize" params).value = errorReply id (-32602) "Invalid params"
        (some (Refusal.data "invalid_protocol_version" "initialize params.protocolVersion is required" (.obj [])))

theorem requests_audited (server : Server) : server.Audits where
  audited id method params h := auditEvents_respond server id h
  refused id params h := by
    rw [respond_of_no_version server id h]
    exact ⟨rfl, rfl⟩

/-- Not every request is audited. -/
theorem not_every_request_audited :
    ¬∀ (server : Server) (id : Option Json) (method : String) (params : Option Json),
      auditEvents (server.respond id method params).events =
        [.actionAudited method (auditParams params) ((server.respond id method params).value.get? "error").isSome] := by
  intro h
  have haudited := h ⟨"Demo", none⟩ (some (.int 1)) "initialize"
    (some (.obj [("capabilities", .obj []), ("clientInfo", .obj [("name", .str "probe"), ("version", .str "1")]),
      ("protocolVersion", .str " ")]))
  exact absurd haudited (by decide +kernel)

end Server

/-! ## Secrets -/

theorem str?_redact (v : Json) : v.redact.str? = v.str? := by
  cases v <;> rfl

theorem get?_redact {key : String} (hkey : isSensitiveKey key = false) (v : Json) :
    v.redact.get? key = (v.get? key).map Json.redact := by
  cases v with
  | obj fields =>
    rw [Json.redact, Json.get?, Json.get?, Json.lookup_redactFields, hkey]
    rfl
  | _ => rfl

/-- The version that is offered is no secret. -/
theorem offeredVersion?_redact (params : Option Json) :
    Server.offeredVersion? (params.map Json.redact) = Server.offeredVersion? params := by
  have hkey : isSensitiveKey "protocolVersion" = false := by decide +kernel
  cases params with
  | none => rfl
  | some v =>
    simp only [Server.offeredVersion?, Option.map_some, Option.bind_some, get?_redact hkey]
    cases v.get? "protocolVersion" with
    | none => rfl
    | some w => simp only [Option.map_some, Option.bind_some, str?_redact]

/-- Two events that tell the same, but for the outcome of an audited request. -/
inductive SameButOutcome : Event → Event → Prop where
  | same (event : Event) : SameButOutcome event event
  | audited (method : String) (params : Json) (failed other : Bool) :
      SameButOutcome (.actionAudited method params failed) (.actionAudited method params other)

theorem forall₂_sameButOutcome (events : List Event) : List.Forall₂ SameButOutcome events events :=
  List.forall₂_same.2 fun event _ => .same event

namespace Server

theorem offerEvents_eq_of_redact {params other : Option Json} (h : params.map Json.redact = other.map Json.redact)
    (method : String) : offerEvents method params = offerEvents method other := by
  have hversion : offeredVersion? params = offeredVersion? other := by
    rw [← offeredVersion?_redact, h, offeredVersion?_redact]
  rw [offerEvents, offerEvents, negotiate, negotiate, hversion]

/-- Requests whose parameters differ in secrets alone are logged alike, but for their outcome. -/
theorem forall₂_events_respond (server : Server) (id : Option Json) (method : String) {params other : Option Json}
    (h : params.map Json.redact = other.map Json.redact) :
    List.Forall₂ SameButOutcome (server.respond id method params).events (server.respond id method other).events := by
  have hversion : OffersVersion params ↔ OffersVersion other := by
    rw [← not_iff_not, ← offeredVersion?_eq_none_iff, ← offeredVersion?_eq_none_iff, ← offeredVersion?_redact, h,
      offeredVersion?_redact]
  by_cases hoffers : method = "initialize" → OffersVersion params
  · have hparams : auditParams params = auditParams other := by rw [auditParams, h, auditParams]
    rw [events_respond server id hoffers, events_respond server id fun hmethod => hversion.1 (hoffers hmethod),
      offerEvents_eq_of_redact h, hparams]
    apply List.rel_append (forall₂_sameButOutcome _)
    exact .cons (.audited _ _ _ _) .nil
  · obtain ⟨rfl, hnone⟩ := Classical.not_imp.1 hoffers
    rw [respond_of_no_version server id hnone, respond_of_no_version server id (mt hversion.2 hnone)]
    exact forall₂_sameButOutcome _

end Server

/-- What the log shows of the parameters of a request, `shown` of `params`. -/
structure IsShown (params shown : Json) : Prop where
  /-- The keys are kept, in their order. -/
  keys : ∀ path, IsPublic path → ∀ fields, params.at? path = some (.obj fields) →
    ∃ kept, shown.at? path = some (.obj kept) ∧ kept.map (·.1) = fields.map (·.1)
  /-- The number of items is kept. -/
  items : ∀ path, IsPublic path → ∀ items, params.at? path = some (.arr items) →
    ∃ kept, shown.at? path = some (.arr kept) ∧ kept.length = items.length
  /-- Every other value is kept as it is. -/
  leaf : ∀ path, IsPublic path → ∀ v : Json, v.IsLeaf → params.at? path = some v → shown.at? path = some v
  /-- Nothing is added. -/
  added : ∀ path, IsPublic path → params.at? path = none → shown.at? path = none
  /-- A sensitive key holds the text for secrets. -/
  secret : ∀ path, IsPublic path → ∀ key, isSensitiveKey key = true → (params.at? (path ++ [.key key])).isSome →
    shown.at? (path ++ [.key key]) = some (.str "[REDACTED]")
  /-- At no depth does it hold anything else. -/
  hidden : ∀ path key v, isSensitiveKey key = true → shown.at? (path ++ [.key key]) = some v → v = .str "[REDACTED]"
  /-- Nothing is left to hide. -/
  idempotent : auditParams (some shown) = shown

theorem isShown_auditParams (params : Json) : IsShown params (auditParams (some params)) where
  keys path hpath fields h := by
    refine ⟨Json.redactFields fields, ?_, Json.map_fst_redactFields fields⟩
    exact (Json.at?_redact hpath params).trans (congrArg (Option.map Json.redact) h)
  items path hpath items h := by
    refine ⟨Json.redactItems items, (Json.at?_redact hpath params).trans (congrArg (Option.map Json.redact) h), ?_⟩
    rw [Json.redactItems_eq_map, List.length_map]
  leaf path hpath v hleaf h := by
    refine (Json.at?_redact hpath params).trans ?_
    rw [h, Option.map_some, Json.redact_of_isLeaf hleaf]
  added path hpath h := (Json.at?_redact hpath params).trans (congrArg (Option.map Json.redact) h)
  secret path hpath key hkey h := Json.at?_redact_secret hpath hkey h
  hidden path key v hkey h := Json.eq_redacted_of_at? hkey h
  idempotent := Json.redact_redact params

structure KeyRules : Prop where
  /-- The case of ASCII letters does not matter. -/
  case : ∀ key other : String, key.toList.map Char.toLower = other.toList.map Char.toLower →
    isSensitiveKey key = isSensitiveKey other
  /-- White space around the key does not matter. -/
  blanks : ∀ front key back, IsBlank front → IsBlank back → isSensitiveKey (front ++ key ++ back) = isSensitiveKey key
  /-- A key is sensitive if one of these parts is in it. -/
  part : ∀ key part : String, part ∈ ["token", "secret", "password", "credential"] →
    part.toList <:+: key.toList.map Char.toLower → isSensitiveKey key = true

theorem keyRules : KeyRules where
  case key other h := isSensitiveKey_eq_of_lower (by rw [Text.lowerAscii, h, Text.lowerAscii])
  blanks front key back hfront hback := isSensitiveKey_pad hfront hback key
  part key part hmem hpart := isSensitiveKey_of_part hmem hpart

structure KeepsSecrets (server : Server) : Prop where
  /-- Values under sensitive keys change nothing in the log of a request but its outcome. -/
  events : ∀ id method params other, DifferInSecrets params other →
    List.Forall₂ SameButOutcome (server.respond id method (some params)).events
      (server.respond id method (some other)).events
  /-- The log shows the parameters in their form, and no secret. -/
  shown : ∀ params, IsShown params (auditParams (some params))
  keys : KeyRules

/-- Of what sensitive keys hold, no server logs more than it takes to tell the outcome. -/
theorem secrets_stay_out_of_log (server : Server) : KeepsSecrets server where
  events id method _ _ h :=
    server.forall₂_events_respond id method (congrArg some (Json.redact_eq_of_differ h))
  shown := isShown_auditParams
  keys := keyRules

end ModelContext
