import ModelContext.Proofs.JsonText
import ModelContext.Proofs.Replies

/-!
# Messages that are left unanswered

A message is left unanswered exactly if it has the form of a call and no id under which it could be
answered. A null id is refused before that, but every other id that is neither a text nor a 64-bit integer
makes a notification of a request: a message with such an id gets no answer, or is refused under a null id.
-/

namespace ModelContext

/-! ## Embedded values that can be read -/

namespace Json

/-- An object that begins with the key for embedded values has to hold the text of a value and nothing else. -/
def isReadable : Json → Bool
  | .obj [(key, .str text)] => key != embeddedKey || (parse? text).isSome
  | .obj ((key, _) :: _) => key != embeddedKey
  | _ => true

theorem isReadable_of_ne {key : String} (h : key ≠ embeddedKey) (v : Json) (fields : Fields) :
    isReadable (.obj ((key, v) :: fields)) = true := by
  have hkey : (key != embeddedKey) = true := by simpa using h
  unfold isReadable
  split
  · rename_i heq
    cases heq
    rw [hkey, Bool.true_or]
  · rename_i heq
    cases heq
    exact hkey
  · rfl

mutual

/-- The embedded values of a value can be put in place exactly if all of them can be read. -/
theorem isSome_expand? (v : Json) : v.expand?.isSome = v.all isReadable := by
  match v with
  | .null | .bool _ | .int _ | .float _ | .str _ => rfl
  | .arr items =>
    rw [expand?, Option.isSome_map, isSome_expandItems? items]
    exact (Bool.true_and _).symm
  | .obj [] => rfl
  | .obj ((key, v) :: fields) =>
    -- An object that begins with the key is judged as a whole, any other one by its members.
    by_cases hkey : key = embeddedKey
    · subst hkey
      unfold expand?
      rw [if_pos rfl, all]
      cases v with
      | str text =>
        cases fields with
        | nil => simp [isReadable, allFields, all]
        | cons field fields => simp [isReadable]
      | _ => simp [isReadable]
    · unfold expand?
      rw [if_neg hkey, Option.isSome_map, isSome_expandFields? ((key, v) :: fields), all, isReadable_of_ne hkey,
        Bool.true_and]

theorem isSome_expandItems? (items : List Json) : (expandItems? items).isSome = allItems isReadable items := by
  match items with
  | [] => rfl
  | v :: items =>
    rw [expandItems?, allItems, ← isSome_expand? v, ← isSome_expandItems? items]
    cases v.expand? with
    | none => rfl
    | some v => cases expandItems? items <;> rfl

theorem isSome_expandFields? (fields : List (String × Json)) :
    (expandFields? fields).isSome = allFields isReadable fields := by
  match fields with
  | [] => rfl
  | (key, v) :: fields =>
    rw [expandFields?, allFields, ← isSome_expand? v, ← isSome_expandFields? fields]
    cases v.expand? with
    | none => rfl
    | some v => cases expandFields? fields <;> rfl

end

end Json

/-! ## Usable ids -/

/-- A text or a signed 64-bit integer, under which a request can be answered. -/
def IsUsable (id : Json) : Prop :=
  (∃ s, id = .str s) ∨ ∃ n : Int, id = .int n ∧ -9223372036854775808 ≤ n ∧ n ≤ 9223372036854775807

theorem fitsInt64_iff {n : Int} : FitsInt64 n ↔ -9223372036854775808 ≤ n ∧ n ≤ 9223372036854775807 := by
  unfold FitsInt64
  omega

theorem isUsable_iff {id : Json} : IsUsable id ↔ ∃ usable, Id.ofJson? id = some usable := by
  simp only [IsUsable, ← fitsInt64_iff, ← Json.int64?_eq_some_iff]
  cases id with
  | str s => exact iff_of_true (Or.inl ⟨s, rfl⟩) ⟨.text s, rfl⟩
  | _ => simp [Id.ofJson?]

theorem not_isUsable_iff {id : Json} : ¬IsUsable id ↔ Id.ofJson? id = none := by
  rw [isUsable_iff, Option.eq_none_iff_forall_ne_some, not_exists]

theorem not_isUsable_null : ¬IsUsable .null := by
  rw [not_isUsable_iff]
  rfl

/-! ## Calls -/

/-- The parameters of a call as they are taken over, with their embedded values in place. -/
def takeOver? : Option Fields → Option (Option Fields)
  | none => some none
  | some params => (Json.expandFields? params).map some

def AreReadable (params : Option Fields) : Prop :=
  ∀ fields ∈ params, Json.allFields Json.isReadable fields = true

theorem areReadable_iff {params : Option Fields} : AreReadable params ↔ ∃ taken, takeOver? params = some taken := by
  cases params with
  | none => exact iff_of_true nofun ⟨none, rfl⟩
  | some fields =>
    have hsome : (takeOver? (some fields)).isSome = Json.allFields Json.isReadable fields := by
      rw [takeOver?, Option.isSome_map, Json.isSome_expandFields?]
    rw [← Option.isSome_iff_exists, hsome]
    simp [AreReadable]

theorem not_areReadable_iff {params : Option Fields} : ¬AreReadable params ↔ takeOver? params = none := by
  rw [areReadable_iff, Option.eq_none_iff_forall_ne_some, not_exists]

/-- The form that requests and notifications share. Parameters that are null are none. -/
structure IsCall (fields : Fields) (method : String) (params : Option Fields) : Prop where
  version : fields.lookup "jsonrpc" = some (.str "2.0")
  method : fields.lookup "method" = some (.str method)
  params : fields.lookup "params" = params.map .obj ∨ (params = none ∧ fields.lookup "params" = some .null)

theorem literal?_eq_some_iff {expected : String} {v : Json} {u : Unit} :
    Json.literal? expected v = some u ↔ v = .str expected := by
  cases v <;> simp [Json.literal?, Json.str?]

theorem IsCall.optional_params {fields : Fields} {method : String} {params : Option Fields}
    (h : IsCall fields method params) :
    (Record.named fields).optional 2 "params" Json.openObject? = takeOver? params := by
  have hmember : (Record.named fields).member? 2 "params" = fields.lookup "params" := rfl
  rw [Record.optional, hmember]
  rcases h.params with hparams | ⟨rfl, hparams⟩
  · rw [hparams]
    cases params <;> rfl
  · rw [hparams]
    rfl

/-- A call is read with the parameters that are taken over, if they can be. -/
theorem IsCall.call?_eq {fields : Fields} {method : String} {params : Option Fields} (h : IsCall fields method params) :
    Message.call? (.named fields) = (takeOver? params).map fun taken => (method, taken) := by
  have hversion : (Record.named fields).required 0 "jsonrpc" (Json.literal? jsonRpcVersion) = some () := by
    rw [Record.required, Record.member?, h.version]
    rfl
  have hmethod : (Record.named fields).required 1 "method" Json.str? = some method := by
    rw [Record.required, Record.member?, h.method]
    rfl
  rw [Message.call?, hversion, hmethod, h.optional_params]
  cases takeOver? params <;> rfl

/-- What is read as a call has the form of one. -/
theorem exists_isCall {fields : Fields} {method : String} {taken : Option Fields}
    (h : Message.call? (.named fields) = some (method, taken)) :
    ∃ params, IsCall fields method params ∧ takeOver? params = some taken := by
  simp only [Message.call?, Option.bind_eq_bind, Option.bind_eq_some_iff, Option.some.injEq, Prod.mk.injEq] at h
  obtain ⟨_, hversion, _, hmethod, _, hparams, rfl, rfl⟩ := h
  obtain ⟨v, hv, hliteral⟩ := Option.bind_eq_some_iff.1 hversion
  obtain ⟨w, hw, hstr⟩ := Option.bind_eq_some_iff.1 hmethod
  rw [literal?_eq_some_iff] at hliteral
  rw [Json.str?_eq_some_iff] at hstr
  subst hliteral hstr
  -- Parameters are missing, null or an object: nothing else is taken over.
  cases hp : fields.lookup "params" with
  | none =>
    have hcall : IsCall fields _ none := ⟨hv, hw, Or.inl hp⟩
    exact ⟨none, hcall, by rw [← hcall.optional_params, hparams]⟩
  | some given =>
    cases given with
    | null =>
      have hcall : IsCall fields _ none := ⟨hv, hw, Or.inr ⟨rfl, hp⟩⟩
      exact ⟨none, hcall, by rw [← hcall.optional_params, hparams]⟩
    | obj params =>
      have hcall : IsCall fields _ (some params) := ⟨hv, hw, Or.inl hp⟩
      exact ⟨some params, hcall, by rw [← hcall.optional_params, hparams]⟩
    | _ =>
      rw [Record.optional, Record.member?, hp] at hparams
      cases hparams

/-! ## Answers -/

def invalidReply : Json :=
  .obj
    [("error", .obj [("code", .int (-32600)), ("message", .str "Invalid Request")]),
     ("id", .null),
     ("jsonrpc", .str "2.0")]

theorem reply_invalidRequest {id : Option Json} (h : usableId id = none) :
    RpcFault.invalidRequest.reply id none = invalidReply := by
  rw [RpcFault.reply, errorReply, h]
  rfl

section Messages

variable (server : Server) {fields : Fields} {method : String} {params taken : Option Fields}

theorem answerMessage_of_null (h : fields.lookup "id" = some .null) :
    server.answerMessage (.obj fields) = pure (some invalidReply) := by
  unfold Server.answerMessage
  exact if_pos h

/-- A call under a usable id is a request. -/
theorem answerMessage_request (hcall : IsCall fields method params) (htaken : takeOver? params = some taken) {id : Id}
    (hid : (fields.lookup "id").bind Id.ofJson? = some id) :
    server.answerMessage (.obj fields) = some <$> server.answerRequest id method taken := by
  have hnull : ¬fields.lookup "id" = some .null := by
    intro hnull
    rw [hnull] at hid
    cases hid
  have hread : Message.ofFields? fields = some (.request id method taken) := by
    rw [Message.ofFields?, hcall.call?_eq, htaken, hid]
    rfl
  unfold Server.answerMessage
  dsimp only
  rw [if_neg hnull, hread]
  rfl

/-- A call without a usable id is a notification, which is noted and left unanswered. -/
theorem answerMessage_notification (hcall : IsCall fields method params) (htaken : takeOver? params = some taken)
    (hid : ∀ id, fields.lookup "id" = some id → id ≠ .null ∧ ¬IsUsable id) :
    server.answerMessage (.obj fields) = ⟨none, [Server.notificationEvent method]⟩ := by
  have hnull : ¬fields.lookup "id" = some .null := fun hnull => (hid _ hnull).1 rfl
  have hunusable : (fields.lookup "id").bind Id.ofJson? = none := by
    cases hlookup : fields.lookup "id" with
    | none => rfl
    | some id => exact not_isUsable_iff.1 (hid id hlookup).2
  have hread : Message.ofFields? fields = some (.notification method taken) := by
    rw [Message.ofFields?, hcall.call?_eq, htaken, hunusable]
    rfl
  unfold Server.answerMessage
  dsimp only
  rw [if_neg hnull, hread]
  rfl

/-- What is not read as a call is refused. -/
theorem answerMessage_of_call?_eq_none (h : Message.call? (.named fields) = none) :
    server.answerMessage (.obj fields) = pure (some (RpcFault.invalidRequest.reply (fields.lookup "id") none)) := by
  have hread : Message.ofFields? fields = none := by
    rw [Message.ofFields?, h]
    rfl
  unfold Server.answerMessage
  dsimp only
  split
  · rename_i hnull
    rw [hnull]
    rfl
  · rw [hread]

theorem answerMessage_of_no_call (h : ∀ method params, IsCall fields method params → ¬AreReadable params) :
    server.answerMessage (.obj fields) = pure (some (RpcFault.invalidRequest.reply (fields.lookup "id") none)) := by
  apply answerMessage_of_call?_eq_none
  cases hcall : Message.call? (.named fields) with
  | none => rfl
  | some call =>
    obtain ⟨params, hform, htaken⟩ := exists_isCall hcall
    exact absurd (areReadable_iff.2 ⟨_, htaken⟩) (h _ params hform)

theorem answerMessage_of_unreadable (hcall : IsCall fields method params) (h : ¬AreReadable params) :
    server.answerMessage (.obj fields) = pure (some (RpcFault.invalidRequest.reply (fields.lookup "id") none)) := by
  apply answerMessage_of_call?_eq_none
  rw [hcall.call?_eq, not_areReadable_iff.1 h]
  rfl

/-- All that a server can do with an object: refuse a null id, refuse what is no call, answer a request, or note
a notification. -/
inductive Handling (fields : Fields) : Logged (Option Json) → Prop where
  | null (hid : fields.lookup "id" = some .null) : Handling fields (pure (some invalidReply))
  | invalid (hcall : ∀ method params, IsCall fields method params → ¬AreReadable params) :
      Handling fields (pure (some (RpcFault.invalidRequest.reply (fields.lookup "id") none)))
  | request {method : String} {params taken : Option Fields} {id : Id} (hcall : IsCall fields method params)
      (htaken : takeOver? params = some taken) (hid : (fields.lookup "id").bind Id.ofJson? = some id) :
      Handling fields (some <$> server.answerRequest id method taken)
  | notification {method : String} {params taken : Option Fields} (hcall : IsCall fields method params)
      (htaken : takeOver? params = some taken)
      (hid : ∀ id, fields.lookup "id" = some id → id ≠ .null ∧ ¬IsUsable id) :
      Handling fields ⟨none, [Server.notificationEvent method]⟩

theorem answerMessage_handling (fields : Fields) : Handling server fields (server.answerMessage (.obj fields)) := by
  by_cases hcall : ∀ method params, IsCall fields method params → ¬AreReadable params
  · rw [answerMessage_of_no_call server hcall]
    exact .invalid hcall
  · push Not at hcall
    obtain ⟨method, params, hcall, hreadable⟩ := hcall
    obtain ⟨taken, htaken⟩ := areReadable_iff.1 hreadable
    by_cases hnull : fields.lookup "id" = some .null
    · rw [answerMessage_of_null server hnull]
      exact .null hnull
    · cases hid : (fields.lookup "id").bind Id.ofJson? with
      | some id =>
        rw [answerMessage_request server hcall htaken hid]
        exact .request hcall htaken hid
      | none =>
        have hunusable : ∀ id, fields.lookup "id" = some id → id ≠ .null ∧ ¬IsUsable id := by
          intro id hlookup
          refine ⟨fun h => hnull (h ▸ hlookup), not_isUsable_iff.2 ?_⟩
          rwa [hlookup] at hid
        rw [answerMessage_notification server hcall htaken hunusable]
        exact .notification hcall htaken hunusable

theorem get?_id_of_isUsable {id reply : Json} (hreply : (server.answerMessage (.obj fields)).value = some reply)
    (hid : fields.lookup "id" = some id) (husable : IsUsable id) : reply.get? "id" = some id := by
  obtain ⟨usable, hread⟩ := isUsable_iff.1 husable
  have hitem : itemId (.obj fields) = some usable := by
    rw [itemId, usableId, Json.get?, hid]
    exact hread
  rw [(answerMessage_form server hreply).get?_id, hitem, Option.map_some, Option.getD_some,
    Id.toJson_of_ofJson? hread]

end Messages

/-- A message with an id is left unanswered exactly if the id is neither null nor usable and the message has
the form of a call. Every other message with an unusable id is refused under a null id, and a message with a
usable id is answered under that. -/
theorem answerMessage_with_id (server : Server) {fields : Fields} {id : Json} (hid : fields.lookup "id" = some id) :
    ((server.answerMessage (.obj fields)).value = none ↔
        id ≠ .null ∧ ¬IsUsable id ∧ ∃ method params, IsCall fields method params ∧ AreReadable params) ∧
      (¬IsUsable id → ∀ reply, (server.answerMessage (.obj fields)).value = some reply → reply = invalidReply) ∧
      (IsUsable id → ∃ reply, (server.answerMessage (.obj fields)).value = some reply ∧ reply.get? "id" = some id) := by
  have hreplied (husable : IsUsable id) : ∀ reply, (server.answerMessage (.obj fields)).value = some reply →
      reply.get? "id" = some id := fun _ hreply => get?_id_of_isUsable server hreply hid husable
  have hhandling := answerMessage_handling server fields
  generalize server.answerMessage (.obj fields) = answer at *
  cases hhandling with
  | null hnull =>
    obtain rfl : id = .null := Option.some.inj (hid.symm.trans hnull)
    refine ⟨iff_of_false nofun fun h => h.1 rfl, ?_, fun husable => absurd husable not_isUsable_null⟩
    intro _ reply hreply
    exact (Option.some.inj hreply).symm
  | invalid hcall =>
    refine ⟨iff_of_false nofun ?_, ?_, ?_⟩
    · rintro ⟨-, -, method, params, hform, hreadable⟩
      exact hcall method params hform hreadable
    · intro hunusable reply hreply
      rw [← Option.some.inj hreply, hid]
      exact reply_invalidRequest (not_isUsable_iff.1 hunusable)
    · intro husable
      exact ⟨_, rfl, hreplied husable _ rfl⟩
  | request hcall htaken hread =>
    rw [hid, Option.bind_some] at hread
    have husable : IsUsable id := isUsable_iff.2 ⟨_, hread⟩
    exact ⟨iff_of_false nofun fun h => h.2.1 husable, fun hunusable => absurd husable hunusable,
      fun _ => ⟨_, rfl, hreplied husable _ rfl⟩⟩
  | notification hcall htaken hids =>
    obtain ⟨hnull, hunusable⟩ := hids id hid
    have hreadable := areReadable_iff.2 ⟨_, htaken⟩
    exact ⟨iff_of_true rfl ⟨hnull, hunusable, _, _, hcall, hreadable⟩, nofun,
      fun husable => absurd husable hunusable⟩

def fractionalPing : Fields :=
  [("id", .float ⟨false, ⟨4609434218613702656, by decide⟩⟩), ("jsonrpc", .str "2.0"), ("method", .str "ping")]

/-- It is left unanswered, as the theorem says of it. -/
theorem answerMessage_with_id_fractional :
    ∃ id, fractionalPing.lookup "id" = some id ∧
      (Server.answerMessage ⟨"Demo", none⟩ (.obj fractionalPing)).value = none := by
  refine ⟨_, rfl, (answerMessage_with_id ⟨"Demo", none⟩ (rfl : fractionalPing.lookup "id" = some _)).1.2 ?_⟩
  exact ⟨nofun, not_isUsable_iff.2 rfl, "ping", none, ⟨rfl, rfl, Or.inl rfl⟩, nofun⟩

/-- Not every message with an id is answered. -/
theorem not_always_answered :
    ¬∀ (server : Server) (fields : Fields) (id : Json), fields.lookup "id" = some id →
      ∃ reply, (server.answerMessage (.obj fields)).value = some reply := by
  intro h
  obtain ⟨reply, hreply⟩ := h ⟨"Demo", none⟩ fractionalPing _ rfl
  have hsilent : (Server.answerMessage ⟨"Demo", none⟩ (.obj fractionalPing)).value = none := by decide +kernel
  rw [hsilent] at hreply
  cases hreply

end ModelContext
