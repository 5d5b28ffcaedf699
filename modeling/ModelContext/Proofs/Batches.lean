import ModelContext.Proofs.Silence

/-!
# Batches

A batch is answered item by item: its replies and its events are those of its items, in their order. So no
item suppresses, moves or repeats what another one is answered, and a batch is left unanswered exactly if all
of its items are. Which items those are, and which are refused, can be told from the form of an item alone.
-/

namespace ModelContext

def repliesOf : Option Json → List Json
  | none => []
  | some (.arr replies) => replies
  | some reply => [reply]

section Order

variable (server : Server)

theorem events_answerBatch (items : List Json) :
    (server.answerBatch items).events = items.flatMap fun item => (server.answerMessage item).events := by
  induction items with
  | nil => rfl
  | cons item items ih =>
    simp only [Server.answerBatch, Logged.events_bind, Logged.events_pure, List.append_nil, ih, List.flatMap_cons]

theorem events_answer_batch {items : List Json} (h : items ≠ []) :
    (server.answer (.arr items)).events = items.flatMap fun item => (server.answerMessage item).events := by
  cases items with
  | nil => exact absurd rfl h
  | cons item items =>
    rw [← events_answerBatch]
    exact List.append_nil _

theorem value_answer_eq_none_iff {items : List Json} (h : items ≠ []) :
    (server.answer (.arr items)).value = none ↔ ∀ item ∈ items, (server.answerMessage item).value = none := by
  rw [value_answer_batch server h, ← List.filterMap_eq_nil_iff, ← List.isEmpty_iff]
  split
  · rename_i hempty
    exact iff_of_true rfl hempty
  · rename_i hsome
    exact iff_of_false nofun hsome

theorem repliesOf_answer {items : List Json} (h : items ≠ []) :
    repliesOf (server.answer (.arr items)).value = items.filterMap fun item => (server.answerMessage item).value := by
  rw [value_answer_batch server h]
  split
  · rename_i hempty
    exact (List.isEmpty_iff.1 hempty).symm
  · rfl

end Order

structure BatchRules (server : Server) : Prop where
  /-- A batch without items is refused as a whole. -/
  empty : server.answer (.arr []) = pure (some invalidReply)
  /-- A batch is left unanswered exactly if every item is. -/
  unanswered : ∀ items, items ≠ [] →
    ((server.answer (.arr items)).value = none ↔ ∀ item ∈ items, (server.answerMessage item).value = none)
  /-- Any other batch is answered by the replies to its items, in their order. -/
  answered : ∀ items, items ≠ [] → ∀ reply, (server.answer (.arr items)).value = some reply →
    reply = .arr (items.filterMap fun item => (server.answerMessage item).value)
  /-- The events are those of the items, in their order. -/
  events : ∀ items, items ≠ [] →
    (server.answer (.arr items)).events = items.flatMap fun item => (server.answerMessage item).events
  /-- Two batches in one are answered as one after the other. -/
  append : ∀ first second, first ≠ [] → second ≠ [] →
    repliesOf (server.answer (.arr (first ++ second))).value =
        repliesOf (server.answer (.arr first)).value ++ repliesOf (server.answer (.arr second)).value ∧
      (server.answer (.arr (first ++ second))).events =
        (server.answer (.arr first)).events ++ (server.answer (.arr second)).events
  /-- A call without an id is left unanswered, whatever its method, and no action is audited. -/
  notification : ∀ fields method params, fields.lookup "id" = none → IsCall fields method params →
    AreReadable params → (server.answerMessage (.obj fields)).value = none ∧
      ∀ event ∈ (server.answerMessage (.obj fields)).events, event.message ≠ "mcp action audited"
  /-- It is refused if its parameters hold an embedded value that cannot be read. -/
  unreadable : ∀ fields method params, fields.lookup "id" = none → IsCall fields method params →
    ¬AreReadable params → server.answerMessage (.obj fields) = pure (some invalidReply)
  /-- What is no object is refused. -/
  no_object : ∀ item, (∀ fields, item ≠ .obj fields) → server.answerMessage item = pure (some invalidReply)
  /-- So is a message with a null id. -/
  null_id : ∀ fields, fields.lookup "id" = some .null →
    server.answerMessage (.obj fields) = pure (some invalidReply)
  /-- So is an object without a method, under its id. -/
  no_method : ∀ fields, fields.lookup "method" = none → server.answerMessage (.obj fields) =
    pure (some (errorReply (fields.lookup "id") (-32600) "Invalid Request" none))

theorem message_notificationEvent (method : String) :
    (Server.notificationEvent method).message ≠ "mcp action audited" := by
  unfold Server.notificationEvent
  split_ifs
  · decide
  · decide
  · exact (by decide : "ignoring notification" ≠ "mcp action audited")

/-- Every server answers batches by these rules. -/
theorem batches_in_order (server : Server) : BatchRules server where
  empty := rfl
  unanswered items h := value_answer_eq_none_iff server h
  answered items h reply hreply := by
    rw [value_answer_batch server h] at hreply
    split at hreply
    · cases hreply
    · exact (Option.some.inj hreply).symm
  events items h := events_answer_batch server h
  append first second hfirst hsecond := by
    have happend : first ++ second ≠ [] := List.append_ne_nil_of_left_ne_nil hfirst second
    rw [repliesOf_answer server happend, repliesOf_answer server hfirst, repliesOf_answer server hsecond,
      events_answer_batch server happend, events_answer_batch server hfirst, events_answer_batch server hsecond]
    exact ⟨List.filterMap_append, List.flatMap_append⟩
  notification fields method params hid hcall hreadable := by
    obtain ⟨taken, htaken⟩ := areReadable_iff.1 hreadable
    have hunusable : ∀ id, fields.lookup "id" = some id → id ≠ .null ∧ ¬IsUsable id := by
      rw [hid]
      nofun
    rw [answerMessage_notification server hcall htaken hunusable]
    refine ⟨rfl, fun event hevent => ?_⟩
    rw [List.mem_singleton.1 hevent]
    exact message_notificationEvent method
  unreadable fields method params hid hcall hunreadable := by
    rw [answerMessage_of_unreadable server hcall hunreadable, hid]
    rfl
  no_object item hitem := by
    cases item with
    | obj fields => exact absurd rfl (hitem fields)
    | _ => rfl
  null_id fields hid := answerMessage_of_null server hid
  no_method fields hmethod := by
    apply answerMessage_of_no_call
    intro method params hcall
    rw [hcall.method] at hmethod
    cases hmethod

/-- A notification is answered if an object in its parameters begins with the key for embedded values and holds
more than a text. -/
theorem batch_answers_embedded :
    let params := Json.obj [("n", .obj [("$serde_json::private::RawValue", .str "[1]"), ("a", .int 1)])]
    let notification := [("jsonrpc", .str "2.0"), ("method", .str "ping"), ("params", params)]
    notification.lookup "id" = none ∧ notification.lookup "jsonrpc" = some (.str "2.0") ∧
      notification.lookup "method" = some (.str "ping") ∧ notification.lookup "params" = some params ∧
      params.get? "_meta" = none ∧
      (Server.answer ⟨"Demo", none⟩ (.arr [.obj notification])).value = some (.arr [invalidReply]) := by
  intro params notification
  exact ⟨rfl, rfl, rfl, rfl, rfl, by decide +kernel⟩

end ModelContext
