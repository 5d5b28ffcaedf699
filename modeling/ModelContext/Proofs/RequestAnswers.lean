import ModelContext.Proofs.ClientSessions

/-!
# What the answer to a request comes to

Whatever a transport brings back, the session that asked takes it in exactly one way. Only an answer under the id of the
request is taken for a result or for an error of the server.
-/

namespace ModelContext

namespace Session

variable {σ α β : Type}

def HasMember (v : Json) (key : String) (value : Json) : Prop :=
  ∃ fields, v = .obj fields ∧ fields.lookup key = some value

theorem get?_eq_some_iff {v : Json} {key : String} {value : Json} : v.get? key = some value ↔ HasMember v key value := by
  cases v with
  | obj fields => simp [Json.get?, HasMember]
  | _ => simp [Json.get?, HasMember]

theorem get?_eq_none_iff {v : Json} {key : String} : v.get? key = none ↔ ∀ value, ¬HasMember v key value := by
  simp only [Option.eq_none_iff_forall_ne_some, ne_eq, get?_eq_some_iff]

/-! ## Errors of a server -/

/-- A part of an error member: its value, if it is there and of the right type, and else a value that stands for it. -/
inductive IsPart (member : Json) (key : String) (typed : Json → β → Prop) (default : β) : β → Prop where
  | given {v : Json} {part : β} (h : HasMember member key v) (htyped : typed v part) :
      IsPart member key typed default part
  | wanting (h : ∀ v part, HasMember member key v → ¬typed v part) : IsPart member key typed default default

/-- What an error member tells. A code is a 64-bit integer, a message is a text, and data is anything. -/
structure Tells (member : Json) (code : Int) (message : String) (data : Option Json) : Prop where
  code : IsPart member "code" (fun v n => v = .int n ∧ FitsInt64 n) 0 code
  message : IsPart member "message" (fun v text => v = .str text) "" message
  data : ∀ v, data = some v ↔ HasMember member "data" v

theorem isPart_getD {member : Json} {key : String} {read? : Json → Option β} {typed : Json → β → Prop}
    (htyped : ∀ v part, read? v = some part ↔ typed v part) (default part : β) :
    ((member.get? key).bind read?).getD default = part ↔ IsPart member key typed default part := by
  constructor
  · rintro rfl
    cases hpart : (member.get? key).bind read? with
    | none =>
      refine .wanting fun v part hv hpart' => ?_
      rw [get?_eq_some_iff.2 hv, Option.bind_some, (htyped v part).2 hpart'] at hpart
      cases hpart
    | some part =>
      obtain ⟨v, hv, hread⟩ := Option.bind_eq_some_iff.1 hpart
      exact .given (get?_eq_some_iff.1 hv) ((htyped v part).1 hread)
  · intro h
    cases h with
    | given hv hpart =>
      rw [get?_eq_some_iff.2 hv, Option.bind_some, (htyped _ _).2 hpart, Option.getD_some]
    | wanting h =>
      have hnone : (member.get? key).bind read? = none := by
        refine Option.eq_none_iff_forall_ne_some.2 fun part hpart => ?_
        obtain ⟨v, hv, hread⟩ := Option.bind_eq_some_iff.1 hpart
        exact h v part (get?_eq_some_iff.1 hv) ((htyped v part).1 hread)
      rw [hnone, Option.getD_none]

theorem errorOf_eq_iff {member : Json} {code : Int} {message : String} {data : Option Json} :
    errorOf member = .rpc code message data ↔ Tells member code message data := by
  have hdata : member.get? "data" = data ↔ ∀ v, data = some v ↔ HasMember member "data" v := by
    rw [eq_comm, Option.ext_iff]
    exact forall_congr' fun v => iff_congr Iff.rfl get?_eq_some_iff
  rw [errorOf, ClientError.rpc.injEq, isPart_getD fun _ _ => Json.int64?_eq_some_iff,
    isPart_getD fun _ _ => Json.str?_eq_some_iff, hdata]
  exact ⟨fun ⟨hcode, hmessage, hdata⟩ => ⟨hcode, hmessage, hdata⟩, fun h => ⟨h.code, h.message, h.data⟩⟩

/-! ## Answers to a request -/

/-- What a request with this id comes to, by what the transport brings back. -/
inductive ComesTo (id : Int) (method : String) (read : Json → Option α) :
    Except ClientError (Option Json) → Except ClientError α → Prop where
  | failed (e : ClientError) : ComesTo id method read (.error e) (.error e)
  | silent : ComesTo id method read (.ok none) (.error (.protocol ("no response to " ++ method)))
  | foreign {response : Json} (hid : ¬HasMember response "id" (.int id)) :
      ComesTo id method read (.ok (some response))
        (.error (.protocol ("response id does not match request " ++ decimalText id)))
  | fault {response member : Json} {code : Int} {message : String} {data : Option Json}
      (hid : HasMember response "id" (.int id)) (herror : HasMember response "error" member)
      (htells : Tells member code message data) :
      ComesTo id method read (.ok (some response)) (.error (.rpc code message data))
  | empty {response : Json} (hid : HasMember response "id" (.int id))
      (herror : ∀ member, ¬HasMember response "error" member)
      (hresult : ∀ result, ¬HasMember response "result" result) :
      ComesTo id method read (.ok (some response)) (.error (.protocol (method ++ " response has no result")))
  | undecodable {response result : Json} (hid : HasMember response "id" (.int id))
      (herror : ∀ member, ¬HasMember response "error" member) (hresult : HasMember response "result" result)
      (hread : read result = none) : ComesTo id method read (.ok (some response)) (.error .json)
  | decoded {response result : Json} {value : α} (hid : HasMember response "id" (.int id))
      (herror : ∀ member, ¬HasMember response "error" member) (hresult : HasMember response "result" result)
      (hread : read result = some value) : ComesTo id method read (.ok (some response)) (.ok value)

section ComesTo

variable {id : Int} {method : String} {read : Json → Option α} {response member : Json}

theorem readAnswer_of_foreign (hid : ¬HasMember response "id" (.int id)) :
    readAnswer id method read (.ok (some response)) =
      .error (.protocol ("response id does not match request " ++ decimalText id)) := by
  rw [readAnswer, resultOf, if_pos (mt get?_eq_some_iff.1 hid)]

theorem readAnswer_of_error (hid : HasMember response "id" (.int id)) (herror : HasMember response "error" member) :
    readAnswer id method read (.ok (some response)) = .error (errorOf member) := by
  rw [readAnswer, resultOf, if_neg (not_not.2 (get?_eq_some_iff.2 hid)), get?_eq_some_iff.2 herror]

theorem readAnswer_of_empty (hid : HasMember response "id" (.int id))
    (herror : ∀ member, ¬HasMember response "error" member)
    (hresult : ∀ result, ¬HasMember response "result" result) :
    readAnswer id method read (.ok (some response)) = .error (.protocol (method ++ " response has no result")) := by
  rw [readAnswer, resultOf, if_neg (not_not.2 (get?_eq_some_iff.2 hid)), get?_eq_none_iff.2 herror,
    get?_eq_none_iff.2 hresult]

theorem readAnswer_of_result {result : Json} (hid : HasMember response "id" (.int id))
    (herror : ∀ member, ¬HasMember response "error" member) (hresult : HasMember response "result" result) :
    readAnswer id method read (.ok (some response)) = (read result).elim (.error .json) .ok := by
  rw [readAnswer, resultOf, if_neg (not_not.2 (get?_eq_some_iff.2 hid)), get?_eq_none_iff.2 herror,
    get?_eq_some_iff.2 hresult]
  dsimp only
  cases read result <;> rfl

theorem comesTo_readAnswer (id : Int) (method : String) (read : Json → Option α)
    (answer : Except ClientError (Option Json)) : ComesTo id method read answer (readAnswer id method read answer) := by
  rcases answer with e | _ | response
  · exact .failed e
  · exact .silent
  by_cases hid : HasMember response "id" (.int id)
  · cases herror : response.get? "error" with
    | some member =>
      rw [get?_eq_some_iff] at herror
      rw [readAnswer_of_error hid herror]
      exact .fault hid herror (errorOf_eq_iff.1 rfl)
    | none =>
      rw [get?_eq_none_iff] at herror
      cases hresult : response.get? "result" with
      | none =>
        rw [get?_eq_none_iff] at hresult
        rw [readAnswer_of_empty hid herror hresult]
        exact .empty hid herror hresult
      | some result =>
        rw [get?_eq_some_iff] at hresult
        rw [readAnswer_of_result hid herror hresult]
        cases hread : read result with
        | none => exact .undecodable hid herror hresult hread
        | some value => exact .decoded hid herror hresult hread
  · rw [readAnswer_of_foreign hid]
    exact .foreign hid

/-- The cases exclude each other. -/
theorem ComesTo.readAnswer_eq {answer : Except ClientError (Option Json)} {outcome : Except ClientError α}
    (h : ComesTo id method read answer outcome) : readAnswer id method read answer = outcome := by
  cases h with
  | failed e => rfl
  | silent => rfl
  | foreign hid => exact readAnswer_of_foreign hid
  | fault hid herror htells => rw [readAnswer_of_error hid herror, errorOf_eq_iff.2 htells]
  | empty hid herror hresult => exact readAnswer_of_empty hid herror hresult
  | undecodable hid herror hresult hread => rw [readAnswer_of_result hid herror hresult, hread, Option.elim_none]
  | decoded hid herror hresult hread => rw [readAnswer_of_result hid herror hresult, hread, Option.elim_some]

theorem readAnswer_eq_iff {answer : Except ClientError (Option Json)} {outcome : Except ClientError α} :
    readAnswer id method read answer = outcome ↔ ComesTo id method read answer outcome :=
  ⟨fun h => h ▸ comesTo_readAnswer id method read answer, ComesTo.readAnswer_eq⟩

end ComesTo

structure Classifies (t : Transport σ) (method : String) (params : Option Json) (read : Json → Option α)
    (s : Session σ) : Prop where
  /-- The request has the next id. The session goes on with the one after it, and keeps the rest. -/
  next : (s.send t method params read).2 =
    { s with nextId := s.nextId + 1, link := (t.send (requestJson (.int s.nextId.toInt) method params) s.link).2 }
  outcome : ∀ outcome, (s.send t method params read).1 = outcome ↔
    ComesTo s.nextId.toInt method read (t.send (requestJson (.int s.nextId.toInt) method params) s.link).1 outcome
  /-- No answer to another request is taken for a result or for an error of the server. -/
  attributed : ∀ response, (t.send (requestJson (.int s.nextId.toInt) method params) s.link).1 = .ok (some response) →
    ((∃ value, (s.send t method params read).1 = .ok value) ∨
      ∃ code message data, (s.send t method params read).1 = .error (.rpc code message data)) →
    HasMember response "id" (.int s.nextId.toInt)

theorem answers_classified (t : Transport σ) (method : String) (params : Option Json) (read : Json → Option α)
    (s : Session σ) : Classifies t method params read s where
  next := rfl
  outcome _ := readAnswer_eq_iff
  attributed := by
    intro response hresponse houtcome
    have hsent : (s.send t method params read).1 = readAnswer s.nextId.toInt method read (.ok (some response)) :=
      congrArg (readAnswer s.nextId.toInt method read) hresponse
    by_contra hid
    rw [hsent, readAnswer_of_foreign hid] at houtcome
    rcases houtcome with ⟨value, h⟩ | ⟨code, message, data, h⟩
    · cases h
    · cases h

end Session

end ModelContext
