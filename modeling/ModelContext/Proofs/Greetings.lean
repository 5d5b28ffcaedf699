import ModelContext.Proofs.CheckedForms

/-!
# Greetings

A reading of a resource is answered with a greeting exactly if its address is the scheme of the greetings with one
segment after it, which is the name that is greeted. The address comes back as it was sent, in the greeting or in the
error for an address that there is no resource under, and different addresses lead to different greetings.
-/

namespace ModelContext

def IsSegment (name : String) : Prop :=
  name ≠ "" ∧ ∀ c ∈ name.toList, c ≠ '/' ∧ c ≠ '?' ∧ c ≠ '#'

/-- A request to read the resource with this address, whatever else its parameters hold. -/
def IsReading (fields : Fields) (id : Json) (uri : String) : Prop :=
  ∃ params, IsRequest fields id "resources/read" params ∧ ReadAs params ReadResourceParams.ofJson? { uri }

/-- Every address can be asked for. -/
theorem exists_isReading {id : Json} (husable : IsUsable id) (uri : String) :
    ∃ fields, requestJson id "resources/read" (some (.obj [("uri", .str uri)])) = .obj fields ∧
      IsReading fields id uri := by
  obtain ⟨fields, hfields, hrequest⟩ := exists_isRequest husable "resources/read" (some [("uri", .str uri)])
  exact ⟨fields, hfields, _, hrequest, [("uri", .str uri)], rfl, rfl⟩

/-! ## Replies -/

def greetingReply (id : Json) (uri name : String) : Json :=
  .obj
    [("id", id),
     ("jsonrpc", .str "2.0"),
     ("result", .obj
       [("contents", .arr
         [.obj [("mimeType", .str "text/plain"), ("text", .str ("Hello, " ++ name ++ "!")), ("uri", .str uri)]])])]

def unknownResourceReply (id : Json) (uri : String) : Json :=
  .obj
    [("error", .obj
       [("code", .int (-32601)),
        ("data", .obj
          [("code", .str "resource_not_found"), ("details", .obj [("uri", .str uri)]),
           ("message", .str "unknown resource uri")]),
        ("message", .str "Method not found")]),
     ("id", id),
     ("jsonrpc", .str "2.0")]

theorem isResult_greetingReply (id : Json) (uri name : String) : IsResult (greetingReply id uri name) :=
  ⟨⟨_, rfl⟩, rfl⟩

theorem not_isResult_unknownResourceReply (id : Json) (uri : String) : ¬IsResult (unknownResourceReply id uri) := by
  rintro ⟨-, herror⟩
  cases herror

section Envelopes

variable {id : Json}

theorem exists_usableId (husable : IsUsable id) :
    ∃ usable : Id, usableId (some id) = some usable ∧ usable.toJson = id := by
  obtain ⟨usable, hread⟩ := isUsable_iff.1 husable
  exact ⟨usable, hread, Id.toJson_of_ofJson? hread⟩

/-- A usable id is given back with a result. -/
theorem resultReply_of_isUsable (husable : IsUsable id) (result : Fields) :
    resultReply (some id) (.obj result) = .obj [("id", id), ("jsonrpc", .str "2.0"), ("result", .obj result)] := by
  obtain ⟨usable, hid, hsame⟩ := exists_usableId husable
  rw [resultReply, hid]
  dsimp only
  rw [hsame]
  rfl

/-- So it is with an error. -/
theorem reply_of_isUsable (husable : IsUsable id) (fault : RpcFault) (data : Option Json) :
    fault.reply (some id) data =
      .obj [("error", errorMember fault.code fault.message data), ("id", id), ("jsonrpc", .str "2.0")] := by
  obtain ⟨usable, hid, hsame⟩ := exists_usableId husable
  rw [RpcFault.reply, errorReply, hid, Option.map_some, hsame]
  rfl

end Envelopes

section Readings

variable (server : Server) {fields : Fields} {id : Json} {uri name : String}

/-- A reading is answered by what is under its address. -/
theorem IsReading.value_answerMessage (h : IsReading fields id uri) :
    (server.answerMessage (.obj fields)).value =
      some (match readResource uri with
        | .ok result => resultReply (some id) result.toJson
        | .error refusal => (refusal.reply (some id)).value) := by
  obtain ⟨params, hrequest, taken, htaken, hread⟩ := h
  obtain ⟨sent, rfl, hanswer⟩ := hrequest.value_answerMessage server htaken
  exact hanswer.trans (congrArg some (value_answerRequest_readResource server sent hread))

theorem IsReading.isUsable (h : IsReading fields id uri) : IsUsable id := by
  obtain ⟨params, hrequest, -⟩ := h
  exact hrequest.usable

theorem IsReading.value_of_name (h : IsReading fields id uri) (hname : Greeting.name? uri = some name) :
    (server.answerMessage (.obj fields)).value = some (greetingReply id uri name) := by
  rw [h.value_answerMessage server, readResource, hname]
  exact congrArg some (resultReply_of_isUsable h.isUsable _)

theorem IsReading.value_of_no_name (h : IsReading fields id uri) (hname : Greeting.name? uri = none) :
    (server.answerMessage (.obj fields)).value = some (unknownResourceReply id uri) := by
  rw [h.value_answerMessage server, readResource, hname]
  exact congrArg some (reply_of_isUsable h.isUsable .methodNotFound _)

end Readings

theorem Greeting.name?_append {name : String} (h : IsSegment name) : name? ("greeting://" ++ name) = some name :=
  name?_eq_some_iff.2 ⟨rfl, h⟩

theorem Greeting.text_injective {name other : String} (h : text name = text other) : name = other := by
  simpa [text] using h

structure GreetingRules (server : Server) : Prop where
  /-- Every address can be asked for, under every usable id. -/
  asked : ∀ id uri, IsUsable id → ∃ fields, IsReading fields id uri
  /-- There is a result exactly for the addresses of greetings. -/
  readable : ∀ fields id uri, IsReading fields id uri →
    ∃ reply, (server.answerMessage (.obj fields)).value = some reply ∧
      (IsResult reply ↔ ∃ name, uri = "greeting://" ++ name ∧ IsSegment name)
  /-- Its only content is a text, which greets the name in the address. -/
  greeted : ∀ fields id name, IsSegment name → IsReading fields id ("greeting://" ++ name) →
    (server.answerMessage (.obj fields)).value = some (greetingReply id ("greeting://" ++ name) name)
  /-- Any other address is told back. -/
  unknown : ∀ fields id uri, (¬∃ name, uri = "greeting://" ++ name ∧ IsSegment name) → IsReading fields id uri →
    (server.answerMessage (.obj fields)).value = some (unknownResourceReply id uri)
  /-- The name in an address is the one that it was made of. -/
  named : ∀ name, IsSegment name → Greeting.name? ("greeting://" ++ name) = some name
  /-- No two addresses lead to one greeting. -/
  distinct : ∀ uri other name name', uri ≠ other → Greeting.name? uri = some name →
    Greeting.name? other = some name' → Greeting.text name ≠ Greeting.text name'

theorem greetings_by_address (server : Server) : GreetingRules server where
  asked id uri husable := by
    obtain ⟨fields, -, hreading⟩ := exists_isReading husable uri
    exact ⟨fields, hreading⟩
  readable fields id uri h := by
    cases hname : Greeting.name? uri with
    | some name =>
      have hgreeting := Greeting.name?_eq_some_iff.1 hname
      exact ⟨_, h.value_of_name server hname, iff_of_true (isResult_greetingReply _ _ _) ⟨name, hgreeting⟩⟩
    | none =>
      have hother := not_isGreeting_iff.2 hname
      exact ⟨_, h.value_of_no_name server hname, iff_of_false (not_isResult_unknownResourceReply _ _) hother⟩
  greeted fields id name hname h := h.value_of_name server (Greeting.name?_append hname)
  unknown fields id uri hother h := h.value_of_no_name server (not_isGreeting_iff.1 hother)
  named name := Greeting.name?_append
  distinct uri other name name' hne hname hname' := by
    rw [Greeting.name?_eq_some_iff] at hname hname'
    intro htext
    exact hne (by rw [hname.1, hname'.1, Greeting.text_injective htext])

end ModelContext
