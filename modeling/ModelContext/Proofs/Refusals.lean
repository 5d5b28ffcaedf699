import ModelContext.Proofs.TypedReplies
import ModelContext.Proofs.Sessions

/-!
# The two forms of a refusal

A refusal becomes an error reply or a response of its own. Both tell its code, its reason and its details, in the data
of the error and in the body of the response. Of an internal refusal both tell nothing that depends on its reason, which
only the log of the server holds.
-/

namespace ModelContext.Refusal

structure Notice where
  code : String
  message : String
  details : Json

/-- The notice that a refusal gives, if its reason is for clients. -/
def notice? : Refusal → Option Notice
  | badRequest code reason | unauthorized code reason => some ⟨code, reason, .obj []⟩
  | notFound code reason details => some ⟨code, reason, details⟩
  | internal .. => none

/-- A reply has an error, with this data or without any. -/
def FailsWith (reply : Json) (data : Option Json) : Prop :=
  ∃ error, reply.get? "error" = some error ∧ error.get? "data" = data

namespace Notice

variable {notice : Notice}

def fields (notice : Notice) : Fields :=
  [("code", .str notice.code), ("message", .str notice.message), ("details", notice.details)]

theorem ofFields_fields (notice : Notice) :
    Json.ofFields notice.fields = data notice.code notice.message notice.details := by
  have hkeys : ¬"message" < "code" ∧ ¬"details" < "code" ∧ "details" < "message" := by decide
  simp [fields, data, Json.ofFields, Json.insertField, hkeys]

/-- Read from the response, the members are those of the data, whose values may be changed as reading changes them. -/
theorem parse?_recordText (hplain : notice.details.all Json.isPlain = true)
    (hdepth : notice.details.depth < Json.maxNesting) :
    Json.parse? (Json.recordText notice.fields) = some (data notice.code notice.message notice.details.reread) := by
  rw [Json.recordText, Json.parse?_text]
  · exact congrArg some (ofFields_fields ⟨notice.code, notice.message, notice.details.reread⟩)
  · simp only [fields, Json.all, Json.allFields, hplain, Bool.and_true]
    rfl
  · simp only [fields, Json.depth, Json.fieldsDepth]
    omega

theorem parse?_text (hplain : notice.details.all Json.isPlain = true)
    (hdepth : notice.details.depth < Json.maxNesting) :
    Json.parse? (Json.ofFields notice.fields).text =
      some (data notice.code notice.message notice.details.reread) := by
  rw [ofFields_fields, data, Json.parse?_text]
  · rw [Json.reread, Json.ofFields_of_ascends]
    · rfl
    · rw [Json.map_fst_rereadFields]
      show Json.ascends ["code", "details", "message"] = true
      decide
  · simp only [Json.all, Json.allFields, hplain, Bool.and_true]
    rfl
  · simp only [Json.depth, Json.fieldsDepth]
    omega

end Notice

def LogsOnce (events : List Event) (reason : String) : Prop :=
  ∃ event, events = [event] ∧ event.level = .error ∧ event.fields = [("error", reason)]

structure ToldAlike (refusal : Refusal) : Prop where
  /-- The data of the error and the body of the response have the same members. -/
  members : ∀ notice, refusal.notice? = some notice →
    (∀ id, FailsWith (refusal.reply id).value (some (.ofFields notice.fields))) ∧
      refusal.response.value.body = Bytes.ofText (Json.recordText notice.fields)
  /-- The body is read as the data is, and as the data itself if no value is changed when it is read. -/
  read : ∀ notice, refusal.notice? = some notice → notice.details.all Json.isPlain = true →
    notice.details.depth < Json.maxNesting →
      Json.parseBytes? refusal.response.value.body = Json.parse? (Json.ofFields notice.fields).text ∧
      (notice.details.all Json.isStable = true →
        Json.parseBytes? refusal.response.value.body = some (.ofFields notice.fields))
  /-- Nothing of such a refusal is logged. -/
  quiet : ∀ notice, refusal.notice? = some notice →
    (∀ id, (refusal.reply id).events = []) ∧ refusal.response.events = []
  /-- Internal refusals with one code cannot be told apart. -/
  masked : ∀ code reason other, refusal = .internal code reason →
    (∀ id, (refusal.reply id).value = ((internal code other).reply id).value) ∧
      refusal.response.value = (internal code other).response.value
  /-- The error of an internal one has no data. -/
  bare : ∀ code reason, refusal = .internal code reason → ∀ id, FailsWith (refusal.reply id).value none
  /-- In both forms its reason is logged. -/
  logged : ∀ code reason, refusal = .internal code reason →
    (∀ id, LogsOnce (refusal.reply id).events reason) ∧ LogsOnce refusal.response.events reason

theorem failsWith_reply (fault : RpcFault) (id data : Option Json) : FailsWith (fault.reply id data) data :=
  ⟨errorMember fault.code fault.message data, rfl, get?_data_errorMember _ _ data⟩

/-- An open refusal is told in both forms, and not logged. -/
theorem forms_of_notice {refusal : Refusal} {notice : Notice} (h : refusal.notice? = some notice) :
    ∃ fault status, (∀ id, refusal.reply id = pure (RpcFault.reply fault id (some (.ofFields notice.fields)))) ∧
      refusal.response = pure (response.body status notice.code notice.message notice.details) := by
  rw [Notice.ofFields_fields]
  cases refusal with
  | badRequest code reason =>
    cases h
    exact ⟨.invalidParams, 400, fun _ => rfl, rfl⟩
  | unauthorized code reason =>
    cases h
    exact ⟨.unauthorized, 401, fun _ => rfl, rfl⟩
  | notFound code reason details =>
    cases h
    exact ⟨.methodNotFound, 404, fun _ => rfl, rfl⟩
  | internal code reason => cases h

theorem body_response {refusal : Refusal} {notice : Notice} (h : refusal.notice? = some notice) :
    refusal.response.value.body = Bytes.ofText (Json.recordText notice.fields) := by
  obtain ⟨fault, status, -, hresponse⟩ := forms_of_notice h
  rw [hresponse]
  rfl

/-- Both forms of a refusal tell the same, and neither gives away the reason of an internal one. -/
theorem told_alike (refusal : Refusal) : refusal.ToldAlike := by
  constructor
  case members =>
    intro notice hnotice
    obtain ⟨fault, status, hreply, -⟩ := forms_of_notice hnotice
    refine ⟨fun id => ?_, body_response hnotice⟩
    rw [hreply, Logged.value_pure]
    exact failsWith_reply fault id _
  case read =>
    intro notice hnotice hplain hdepth
    rw [body_response hnotice, Http.parseBytes?_ofText, Notice.parse?_recordText hplain hdepth,
      Notice.parse?_text hplain hdepth]
    refine ⟨rfl, fun hstable => ?_⟩
    rw [Json.reread_of_stable _ hstable, Notice.ofFields_fields]
  case quiet =>
    intro notice hnotice
    obtain ⟨fault, status, hreply, hresponse⟩ := forms_of_notice hnotice
    rw [hresponse]
    exact ⟨fun id => by rw [hreply, Logged.events_pure], Logged.events_pure _⟩
  case masked =>
    rintro code reason other rfl
    exact ⟨fun id => rfl, rfl⟩
  case bare =>
    rintro code reason rfl id
    exact failsWith_reply .internalError id none
  case logged =>
    rintro code reason rfl
    exact ⟨fun id => ⟨.rpcFailed reason, rfl, rfl, rfl⟩, .httpFailed reason, rfl, rfl, rfl⟩

end ModelContext.Refusal
