import ModelContext.Proofs.Calls
import ModelContext.Proofs.Silence
import Mathlib.Data.List.TakeWhile

/-!
# How requests end

Whoever sends a request can tell from its method and parameters how it ends: with a result, or with a failure
that its reply shows by the code of the error and by what is in its data. Each failure arises under a
condition of its own, and there is a result exactly if none arises.
-/

namespace ModelContext

/-! ## Failures -/

inductive Failure where
  | invalid
  | unknownMethod
  | malformed
  | missingVersion
  | unknownTool (name : String)
  | invalidArguments
  | unknownResource (uri : String)
  deriving DecidableEq

/-- Why a request failed, as its reply shows it. -/
def failureOf? (reply : Json) : Option Failure := do
  let member ← reply.get? "error"
  let code ← member.get? "code"
  if code = .int (-32600) then some .invalid
  else match member.get? "data" with
    | none =>
      if code = .int (-32601) then some .unknownMethod
      else if code = .int (-32602) then some .malformed
      else none
    | some data => do
      let reason ← data.get? "code"
      let details ← data.get? "details"
      if code = .int (-32602) ∧ reason = .str "invalid_protocol_version" then some .missingVersion
      else if code = .int (-32602) ∧ reason = .str "invalid_arguments" then some .invalidArguments
      else if code = .int (-32601) ∧ reason = .str "tool_not_found" then
        ((details.get? "name").bind Json.str?).map .unknownTool
      else if code = .int (-32601) ∧ reason = .str "resource_not_found" then
        ((details.get? "uri").bind Json.str?).map .unknownResource
      else none

def IsResult (reply : Json) : Prop :=
  (∃ result, reply.get? "result" = some (.obj result)) ∧ reply.get? "error" = none

def IsBlank (s : String) : Prop :=
  ∀ c ∈ s.toList, Text.isBlank c = true

def methodNames : List String :=
  ["initialize", "ping", "prompts/list", "resources/list", "resources/templates/list", "tools/list", "tools/call",
   "resources/read"]

def IsGreeting (uri : String) : Prop :=
  ∃ name, uri = "greeting://" ++ name ∧ name ≠ "" ∧ ∀ c ∈ name.toList, c ≠ '/' ∧ c ≠ '?' ∧ c ≠ '#'

/-- Is a signed 64-bit integer among the arguments of a tool? -/
def HoldsInteger (arguments : Option Fields) (key : String) : Prop :=
  ∃ n : Int, (arguments.getD []).lookup key = some (.int n) ∧ -9223372036854775808 ≤ n ∧ n ≤ 9223372036854775807

/-- The parameters of a request, once they are taken over, are read as `read`. -/
def ReadAs {α : Type} (params : Option Fields) (ofJson? : Json → Option α) (read : α) : Prop :=
  ∃ taken, takeOver? params = some (some taken) ∧ ofJson? (.obj taken) = some read

/-- When a request fails, and why. -/
def Arises (method : String) (params : Option Fields) : Failure → Prop
  | .invalid => IsBlank method ∨ ¬AreReadable params
  | .unknownMethod => AreReadable params ∧ ¬IsBlank method ∧ method ∉ methodNames
  | .malformed => ∃ known : Method, known.name = method ∧
      ∃ taken, takeOver? params = some taken ∧ known.accepts (taken.map .obj) = false
  | .missingVersion => method = "initialize" ∧
      ∃ read, ReadAs params InitializeParams.ofJson? read ∧ IsBlank read.protocolVersion
  | .unknownTool name => method = "tools/call" ∧
      ∃ read, ReadAs params CallToolParams.ofJson? read ∧ read.name = name ∧ name ≠ "add"
  | .invalidArguments => method = "tools/call" ∧
      ∃ read, ReadAs params CallToolParams.ofJson? read ∧ read.name = "add" ∧
        ¬(HoldsInteger read.arguments "a" ∧ HoldsInteger read.arguments "b")
  | .unknownResource uri => method = "resources/read" ∧
      ∃ read, ReadAs params ReadResourceParams.ofJson? read ∧ read.uri = uri ∧ ¬IsGreeting uri

/-! ## Conditions -/

theorem Text.strip_eq_nil_iff {α : Type} {p : α → Bool} {xs : List α} :
    Text.strip p xs = [] ↔ ∀ x ∈ xs, p x = true := by
  rw [Text.strip, Text.dropEndWhile, List.reverse_eq_nil_iff, List.dropWhile_eq_nil_iff]
  simp only [List.mem_reverse]
  induction xs with
  | nil => simp
  | cons x xs ih =>
    by_cases hx : p x = true
    · rw [List.dropWhile_cons_of_pos hx, ih, List.forall_mem_cons]
      exact (and_iff_right hx).symm
    · rw [List.dropWhile_cons_of_neg hx]

theorem isEmpty_trim_iff {s : String} : (Text.trim s).isEmpty = true ↔ IsBlank s := by
  rw [String.isEmpty_iff, Text.trim, ← String.toList_eq_nil_iff, String.toList_ofList, Text.strip_eq_nil_iff]
  rfl

theorem ofName?_eq_none_iff {method : String} : Method.ofName? method = none ↔ method ∉ methodNames := by
  have hnames : methodNames = Method.all.map Method.name := rfl
  rw [Method.ofName?, List.find?_eq_none, hnames, List.mem_map]
  simp

theorem Greeting.name?_eq_some_iff {uri name : String} :
    Greeting.name? uri = some name ↔
      uri = "greeting://" ++ name ∧ name ≠ "" ∧ ∀ c ∈ name.toList, c ≠ '/' ∧ c ≠ '?' ∧ c ≠ '#' := by
  have hdelimiters (cs : List Char) :
      cs.any Greeting.isDelimiter = false ↔ ∀ c ∈ cs, c ≠ '/' ∧ c ≠ '?' ∧ c ≠ '#' := by
    simp [Greeting.isDelimiter, and_assoc]
  rw [Greeting.name?, Option.bind_eq_some_iff]
  constructor
  · rintro ⟨rest, hrest, h⟩
    rw [Text.after?_eq_some_iff] at hrest
    split at h
    · rename_i hname
      obtain rfl := Option.some.inj h
      refine ⟨?_, ?_, ?_⟩
      · rw [← String.toList_inj, hrest, String.toList_append, String.toList_ofList, String.toList_ofList]
        rfl
      · rw [Ne, ← String.toList_eq_nil_iff, String.toList_ofList]
        exact hname.1
      · rw [String.toList_ofList]
        exact (hdelimiters rest).1 hname.2
    · cases h
  · rintro ⟨rfl, hne, hchars⟩
    refine ⟨name.toList, ?_, ?_⟩
    · rw [Text.after?_eq_some_iff, String.toList_append]
      rfl
    · rw [Ne, ← String.toList_eq_nil_iff] at hne
      rw [if_pos ⟨hne, (hdelimiters _).2 hchars⟩, String.ofList_toList]

theorem isGreeting_iff {uri : String} : IsGreeting uri ↔ ∃ name, Greeting.name? uri = some name :=
  exists_congr fun _ => Greeting.name?_eq_some_iff.symm

theorem not_isGreeting_iff {uri : String} : ¬IsGreeting uri ↔ Greeting.name? uri = none := by
  rw [isGreeting_iff, Option.eq_none_iff_forall_ne_some, not_exists]

theorem bind_int64?_eq_some_iff {v : Option Json} {n : Int} :
    v.bind Json.int64? = some n ↔ v = some (.int n) ∧ -9223372036854775808 ≤ n ∧ n ≤ 9223372036854775807 := by
  simp only [← fitsInt64_iff, Option.bind_eq_some_iff, Json.int64?_eq_some_iff]
  constructor
  · rintro ⟨_, hv, rfl, hfits⟩
    exact ⟨hv, hfits⟩
  · rintro ⟨hv, hfits⟩
    exact ⟨_, hv, rfl, hfits⟩

theorem holdsInteger_iff {arguments : Option Fields} {key : String} :
    HoldsInteger arguments key ↔ ∃ n, ((arguments.getD []).lookup key).bind Json.int64? = some n :=
  exists_congr fun _ => bind_int64?_eq_some_iff.symm

/-- The tool is called with two summands, or it refuses its arguments. -/
theorem Adder.call_eq (arguments : Option Fields) :
    (HoldsInteger arguments "a" ∧ HoldsInteger arguments "b" → ∃ result, Adder.call arguments = .ok result) ∧
      (¬(HoldsInteger arguments "a" ∧ HoldsInteger arguments "b") →
        Adder.call arguments = .error Adder.invalidArguments) := by
  simp only [holdsInteger_iff]
  unfold Adder.call Adder.summands?
  cases ha : ((arguments.getD []).lookup "a").bind Json.int64? with
  | none => simp
  | some a =>
    cases hb : ((arguments.getD []).lookup "b").bind Json.int64? with
    | none => simp
    | some b => simp

theorem ofName?_of_blank {method : String} (h : IsBlank method) : Method.ofName? method = none := by
  rw [ofName?_eq_none_iff]
  intro hmem
  have hnames : ∀ name ∈ methodNames, (Text.trim name).isEmpty = false := by decide
  have hempty := isEmpty_trim_iff.2 h
  rw [hnames method hmem] at hempty
  cases hempty

/-- The version that a handshake offers, unless it is blank. -/
theorem offeredVersion?_of_read {params : Fields} {read : InitializeParams}
    (h : InitializeParams.ofJson? (.obj params) = some read) :
    Server.offeredVersion? (some (.obj params)) =
      if (Text.trim read.protocolVersion).isEmpty then none else some (Text.trim read.protocolVersion) := by
  have hlookup : params.lookup "protocolVersion" = some (.str read.protocolVersion) := by
    simp only [InitializeParams.ofJson?, Json.record?, Option.bind_eq_bind, Option.bind_some,
      Option.bind_eq_some_iff, Option.some.injEq] at h
    obtain ⟨_, -, _, -, _, -, version, hversion, rfl⟩ := h
    obtain ⟨v, hv, hstr⟩ := Option.bind_eq_some_iff.1 hversion
    rw [Json.str?_eq_some_iff] at hstr
    rw [← hstr]
    exact hv
  rw [Server.offeredVersion?, Option.bind_some, Json.get?, hlookup]
  rfl

/-! ## Requests -/

section Requests

variable (server : Server) (sent : Id) {method : String} {params taken : Option Fields}

theorem value_answerRequest_of_blank (h : IsBlank method) :
    (server.answerRequest sent method taken).value = RpcFault.invalidRequest.reply (some sent.toJson) none := by
  have hshaped : ¬Server.wellShaped method (taken.map .obj) = false := by
    rw [Server.wellShaped, ofName?_of_blank h]
    exact Bool.noConfusion
  rw [Server.answerRequest, if_neg hshaped, if_pos (isEmpty_trim_iff.2 h)]
  rfl

theorem value_answerRequest_of_unknown (hblank : ¬IsBlank method) (hunknown : method ∉ methodNames) :
    (server.answerRequest sent method taken).value = RpcFault.methodNotFound.reply (some sent.toJson) none := by
  have hname := ofName?_eq_none_iff.2 hunknown
  have hshaped : ¬Server.wellShaped method (taken.map .obj) = false := by
    rw [Server.wellShaped, hname]
    exact Bool.noConfusion
  rw [Server.answerRequest, if_neg hshaped, if_neg (mt isEmpty_trim_iff.1 hblank), Server.respond, hname]
  rfl

/-- A handshake is refused if the version that it offers is blank, and is welcomed otherwise. -/
theorem value_answerRequest_handshake {params : Fields} {read : InitializeParams}
    (h : InitializeParams.ofJson? (.obj params) = some read) :
    (IsBlank read.protocolVersion → (server.answerRequest sent "initialize" (some params)).value =
        (Server.missingVersion.reply (some sent.toJson)).value) ∧
      (¬IsBlank read.protocolVersion → (server.answerRequest sent "initialize" (some params)).value =
        resultReply (some sent.toJson) (server.welcome Server.protocolVersion).toJson) := by
  have haccepts : Method.handshake.accepts ((some params).map .obj) = true := by
    rw [Option.map_some, Method.accepts, h]
    rfl
  have hanswer := value_answerRequest_of_accepts server sent .handshake (some params) haccepts
  have hmethod : Method.ofName? Method.handshake.name = some .handshake := rfl
  have hname : Method.handshake.name = "initialize" := rfl
  rw [Server.respond, hmethod, hname] at hanswer
  dsimp only at hanswer
  rw [Logged.value_bind, Option.map_some, Server.negotiate, offeredVersion?_of_read h] at hanswer
  rw [hanswer, ← isEmpty_trim_iff]
  constructor
  · intro hempty
    rw [if_pos hempty]
    rfl
  · intro hsome
    rw [if_neg hsome]
    dsimp only
    split_ifs <;> rfl

theorem value_answerRequest_callTool {params : Fields} {read : CallToolParams}
    (h : CallToolParams.ofJson? (.obj params) = some read) :
    (server.answerRequest sent "tools/call" (some params)).value =
      match callTool read with
      | .ok result => resultReply (some sent.toJson) result.toJson
      | .error refusal => (refusal.reply (some sent.toJson)).value := by
  have haccepts : Method.callTool.accepts ((some params).map .obj) = true := by
    rw [Option.map_some, Method.accepts, h]
    rfl
  have hanswer := value_answerRequest_of_accepts server sent .callTool (some params) haccepts
  have hrespond : (server.respond (some sent.toJson) "tools/call" (some (.obj params))).value =
      (answerCallTool (some sent.toJson) (some (.obj params))).value := rfl
  have hname : Method.callTool.name = "tools/call" := rfl
  rw [hname, Option.map_some, hrespond, answerCallTool, Option.bind_some, h] at hanswer
  rw [hanswer]
  dsimp only
  cases callTool read <;> rfl

theorem value_answerRequest_readResource {params : Fields} {read : ReadResourceParams}
    (h : ReadResourceParams.ofJson? (.obj params) = some read) :
    (server.answerRequest sent "resources/read" (some params)).value =
      match readResource read.uri with
      | .ok result => resultReply (some sent.toJson) result.toJson
      | .error refusal => (refusal.reply (some sent.toJson)).value := by
  have haccepts : Method.readResource.accepts ((some params).map .obj) = true := by
    rw [Option.map_some, Method.accepts, h]
    rfl
  have hanswer := value_answerRequest_of_accepts server sent .readResource (some params) haccepts
  have hrespond : (server.respond (some sent.toJson) "resources/read" (some (.obj params))).value =
      (answerReadResource (some sent.toJson) (some (.obj params))).value := rfl
  have hname : Method.readResource.name = "resources/read" := rfl
  rw [hname, Option.map_some, hrespond, answerReadResource, Option.bind_some, h] at hanswer
  rw [hanswer]
  dsimp only
  cases readResource read.uri <;> rfl

/-- A failure that arises is the one that the reply shows. -/
theorem failureOf?_answerRequest (htaken : takeOver? params = some taken) {failure : Failure}
    (h : Arises method params failure) :
    failureOf? (server.answerRequest sent method taken).value = some failure := by
  cases failure with
  | invalid =>
    rcases h with hblank | hunreadable
    · rw [value_answerRequest_of_blank server sent hblank]
      rfl
    · exact absurd (areReadable_iff.2 ⟨taken, htaken⟩) hunreadable
  | unknownMethod =>
    obtain ⟨-, hblank, hunknown⟩ := h
    rw [value_answerRequest_of_unknown server sent hblank hunknown]
    rfl
  | malformed =>
    obtain ⟨known, rfl, other, hother, haccepts⟩ := h
    obtain rfl : other = taken := Option.some.inj (hother.symm.trans htaken)
    rw [value_answerRequest_of_not_accepts server sent known other haccepts]
    rfl
  | missingVersion =>
    obtain ⟨rfl, read, ⟨fields, hfields, hread⟩, hblank⟩ := h
    obtain rfl : some fields = taken := Option.some.inj (hfields.symm.trans htaken)
    rw [(value_answerRequest_handshake server sent hread).1 hblank]
    rfl
  | unknownTool name =>
    obtain ⟨rfl, read, ⟨fields, hfields, hread⟩, rfl, hname⟩ := h
    obtain rfl : some fields = taken := Option.some.inj (hfields.symm.trans htaken)
    rw [value_answerRequest_callTool server sent hread, callTool, if_neg (show ¬read.name = Adder.name from hname)]
    rfl
  | invalidArguments =>
    obtain ⟨rfl, read, ⟨fields, hfields, hread⟩, hname, harguments⟩ := h
    obtain rfl : some fields = taken := Option.some.inj (hfields.symm.trans htaken)
    rw [value_answerRequest_callTool server sent hread, callTool, if_pos (show read.name = Adder.name from hname),
      (Adder.call_eq read.arguments).2 harguments]
    rfl
  | unknownResource uri =>
    obtain ⟨rfl, read, ⟨fields, hfields, hread⟩, rfl, huri⟩ := h
    obtain rfl : some fields = taken := Option.some.inj (hfields.symm.trans htaken)
    rw [value_answerRequest_readResource server sent hread, readResource, not_isGreeting_iff.1 huri]
    rfl

/-- Where no failure arises, the reply carries no error. -/
theorem isErrorReply_answerRequest (htaken : takeOver? params = some taken)
    (h : ∀ failure, ¬Arises method params failure) :
    isErrorReply (server.answerRequest sent method taken).value = false := by
  -- The failures that do not arise leave a known method with parameters of its form.
  have hreadable : AreReadable params := areReadable_iff.2 ⟨taken, htaken⟩
  have hblank : ¬IsBlank method := fun hblank => h .invalid (Or.inl hblank)
  have hknown : ¬Method.ofName? method = none := fun hnone =>
    h .unknownMethod ⟨hreadable, hblank, ofName?_eq_none_iff.1 hnone⟩
  obtain ⟨known, hknown⟩ := Option.ne_none_iff_exists'.1 hknown
  obtain rfl := Method.ofName?_eq_some_iff.1 hknown
  have haccepts : known.accepts (taken.map .obj) = true :=
    Bool.eq_true_of_not_eq_false fun hrefused => h .malformed ⟨known, rfl, taken, htaken, hrefused⟩
  cases known with
  | handshake =>
    cases taken with
    | none => cases haccepts
    | some fields =>
      obtain ⟨read, hread⟩ := Option.isSome_iff_exists.1 haccepts
      have hversion : ¬IsBlank read.protocolVersion := fun hversion =>
        h .missingVersion ⟨rfl, read, ⟨fields, htaken, hread⟩, hversion⟩
      exact ((value_answerRequest_handshake server sent hread).2 hversion).symm ▸ isErrorReply_resultReply _ _
  | ping =>
    rw [value_answerRequest_of_accepts server sent .ping taken haccepts, Server.respond, hknown]
    exact isErrorReply_resultReply _ _
  | list listing =>
    rw [value_answerRequest_of_accepts server sent (.list listing) taken haccepts, Server.respond, hknown]
    exact isErrorReply_resultReply _ _
  | callTool =>
    cases taken with
    | none => cases haccepts
    | some fields =>
      obtain ⟨read, hread⟩ := Option.isSome_iff_exists.1 haccepts
      have hname : read.name = "add" := by
        by_contra hname
        exact h (.unknownTool read.name) ⟨rfl, read, ⟨fields, htaken, hread⟩, rfl, hname⟩
      have harguments : HoldsInteger read.arguments "a" ∧ HoldsInteger read.arguments "b" := by
        by_contra harguments
        exact h .invalidArguments ⟨rfl, read, ⟨fields, htaken, hread⟩, hname, harguments⟩
      obtain ⟨result, hresult⟩ := (Adder.call_eq read.arguments).1 harguments
      have hcall : callTool read = .ok result := by
        rw [callTool, if_pos (show read.name = Adder.name from hname), hresult]
      have hanswer := value_answerRequest_callTool server sent hread
      rw [hcall] at hanswer
      exact hanswer.symm ▸ isErrorReply_resultReply _ _
  | readResource =>
    cases taken with
    | none => cases haccepts
    | some fields =>
      obtain ⟨read, hread⟩ := Option.isSome_iff_exists.1 haccepts
      have huri : IsGreeting read.uri := by
        by_contra huri
        exact h (.unknownResource read.uri) ⟨rfl, read, ⟨fields, htaken, hread⟩, rfl, huri⟩
      obtain ⟨name, hname⟩ := isGreeting_iff.1 huri
      have hresource : readResource read.uri = .ok (Greeting.contents read.uri name) := by
        rw [readResource, hname]
      have hanswer := value_answerRequest_readResource server sent hread
      rw [hresource] at hanswer
      exact hanswer.symm ▸ isErrorReply_resultReply _ _

end Requests

/-- Parameters that cannot be read are the only reason to refuse a request with them. -/
theorem Arises.eq_invalid {method : String} {params : Option Fields} {failure : Failure}
    (h : Arises method params failure) (hunreadable : takeOver? params = none) : failure = .invalid := by
  have hno (taken : Option Fields) : ¬takeOver? params = some taken := by
    rw [hunreadable]
    nofun
  cases failure with
  | invalid => rfl
  | unknownMethod => exact absurd h.1 (not_areReadable_iff.2 hunreadable)
  | malformed =>
    obtain ⟨_, -, taken, htaken, -⟩ := h
    exact absurd htaken (hno taken)
  | missingVersion | unknownTool _ | invalidArguments | unknownResource _ =>
    obtain ⟨-, _, ⟨taken, htaken, -⟩, -⟩ := h
    exact absurd htaken (hno (some taken))

theorem failureOf?_of_not_error {reply : Json} (h : isErrorReply reply = false) : failureOf? reply = none := by
  have herror : reply.get? "error" = none := Option.isSome_eq_false_iff.1 h |> Option.isNone_iff_eq_none.1
  rw [failureOf?, herror]
  rfl

theorem failureOf?_invalidRequest (id : Option Json) :
    failureOf? (RpcFault.invalidRequest.reply id none) = some .invalid :=
  rfl

theorem isResult_iff {server : Server} {message reply : Json} (h : (server.answerMessage message).value = some reply) :
    IsResult reply ↔ isErrorReply reply = false := by
  rcases (answerMessage_form server h).isReply with ⟨-, -, ⟨result, hresult, herror⟩ | ⟨member, herror, -, hresult⟩⟩
  · simp [IsResult, isErrorReply, Json.has, hresult, herror]
  · simp [IsResult, isErrorReply, Json.has, hresult, herror]

/-- A request is answered under its id. Its reply shows a failure exactly if that failure arises, and is a result
exactly if none does. -/
theorem request_outcomes (server : Server) {fields : Fields} {method : String} {params : Option Fields} {id : Json}
    (hcall : IsCall fields method params) (hid : fields.lookup "id" = some id) (husable : IsUsable id) :
    ∃ reply, (server.answerMessage (.obj fields)).value = some reply ∧ reply.get? "id" = some id ∧
      (∀ failure, failureOf? reply = some failure ↔ Arises method params failure) ∧
      (IsResult reply ↔ ∀ failure, ¬Arises method params failure) := by
  have hanswered : ∃ reply, (server.answerMessage (.obj fields)).value = some reply ∧
      (∀ failure, Arises method params failure → failureOf? reply = some failure) ∧
      ((∀ failure, ¬Arises method params failure) → isErrorReply reply = false) := by
    cases htaken : takeOver? params with
    | none =>
      have hunreadable := not_areReadable_iff.2 htaken
      rw [answerMessage_of_unreadable server hcall hunreadable]
      refine ⟨_, rfl, ?_, fun hnone => absurd (Or.inr hunreadable) (hnone .invalid)⟩
      intro failure harises
      rw [harises.eq_invalid htaken, failureOf?_invalidRequest]
    | some taken =>
      obtain ⟨usable, hread⟩ := isUsable_iff.1 husable
      have hsent : (fields.lookup "id").bind Id.ofJson? = some usable := by
        rw [hid, Option.bind_some, hread]
      rw [answerMessage_request server hcall htaken hsent]
      exact ⟨_, rfl, fun _ => failureOf?_answerRequest server usable htaken,
        isErrorReply_answerRequest server usable htaken⟩
  obtain ⟨reply, hreply, hshown, hnone⟩ := hanswered
  refine ⟨reply, hreply, get?_id_of_isUsable server hreply hid husable, fun failure => ⟨?_, hshown failure⟩, ?_⟩
  · -- Without any failure there would be no error to show, and a reply shows only one.
    intro hfailure
    by_contra hnot
    have hother : ∃ other, Arises method params other := by
      by_contra hno
      rw [failureOf?_of_not_error (hnone (not_exists.1 hno))] at hfailure
      cases hfailure
    obtain ⟨other, harises⟩ := hother
    have hsame : failure = other := Option.some.inj (hfailure.symm.trans (hshown other harises))
    exact hnot (hsame ▸ harises)
  · rw [isResult_iff hreply]
    refine ⟨fun hresult failure harises => ?_, hnone⟩
    have hfailure := hshown failure harises
    rw [failureOf?_of_not_error hresult] at hfailure
    cases hfailure

def multiplication : Fields :=
  [("id", .int 7), ("jsonrpc", .str "2.0"), ("method", .str "tools/call"),
   ("params", .obj [("arguments", .obj [("a", .int 2), ("b", .int 3)]), ("name", .str "mul")])]

theorem request_outcomes_multiplication :
    ∃ reply, (Server.answerMessage ⟨"Demo", none⟩ (.obj multiplication)).value = some reply ∧
      failureOf? reply = some (.unknownTool "mul") := by
  have hcall : IsCall multiplication "tools/call"
      (some [("arguments", .obj [("a", .int 2), ("b", .int 3)]), ("name", .str "mul")]) :=
    ⟨rfl, rfl, Or.inl rfl⟩
  obtain ⟨reply, hreply, -, hfailures, -⟩ := request_outcomes ⟨"Demo", none⟩ hcall
    (rfl : multiplication.lookup "id" = some (.int 7)) (isUsable_iff.2 ⟨.number 7, rfl⟩)
  refine ⟨reply, hreply, (hfailures (.unknownTool "mul")).2 ⟨rfl, _, ⟨_, rfl, rfl⟩, rfl, by decide⟩⟩

/-- A ping whose parameters hold an object that begins with the key for embedded values and does not end there. -/
def embeddingPing : Fields :=
  [("id", .int 7), ("jsonrpc", .str "2.0"), ("method", .str "ping"),
   ("params", .obj [("n", .obj [(Json.embeddedKey, .str "[1]"), ("a", .int 1)])])]

/-- A request can be invalid under the name of a method, since parameters are more than their text. -/
theorem not_invalid_only_if_blank :
    ¬∀ (server : Server) (fields : Fields) (method : String) (params : Option Fields) (id : Json),
      IsCall fields method params → fields.lookup "id" = some id → IsUsable id →
      ∃ reply, (server.answerMessage (.obj fields)).value = some reply ∧
        (failureOf? reply = some .invalid ↔ IsBlank method) := by
  intro h
  obtain ⟨reply, hreply, hinvalid⟩ := h ⟨"Demo", none⟩ embeddingPing "ping" (some _) (.int 7)
    ⟨rfl, rfl, Or.inl rfl⟩ rfl (isUsable_iff.2 ⟨.number 7, rfl⟩)
  have hrefused : (Server.answerMessage ⟨"Demo", none⟩ (.obj embeddingPing)).value =
      some (RpcFault.invalidRequest.reply (some (.int 7)) none) := by decide +kernel
  obtain rfl := Option.some.inj (hreply.symm.trans hrefused)
  have hblank : IsBlank "ping" := hinvalid.1 (failureOf?_invalidRequest _)
  exact absurd (isEmpty_trim_iff.2 hblank) (by decide +kernel)

end ModelContext
