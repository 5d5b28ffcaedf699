import ModelContext.Proofs.Admission
import ModelContext.Proofs.Delivery
import Mathlib.Data.List.DropRight

/-!
# The requests of a web client

A client can ask if its endpoint can be used and its token can be sent, which control characters prevent. All that it
asks carries its token, if it has one, and the session that it holds.
-/

namespace ModelContext

namespace Text

variable {α : Type} (p : α → Bool) (xs : List α)

theorem head?_strip : ∀ x ∈ (strip p xs).head?, p x = false := by
  intro x hx
  obtain ⟨back, hback⟩ : (xs.dropWhile p).rdropWhile p <+: xs.dropWhile p := List.rdropWhile_prefix p _
  have hhead : (xs.dropWhile p).head? = some x := by
    rw [← hback, List.head?_append]
    exact Option.or_eq_some_iff.2 (.inl hx)
  have hnot := List.head?_dropWhile_not p xs
  rwa [hhead] at hnot

theorem getLast?_strip : ∀ x ∈ (strip p xs).getLast?, p x = false := by
  intro x hx
  rw [strip, dropEndWhile, List.getLast?_reverse] at hx
  have hnot := List.head?_dropWhile_not p (xs.dropWhile p).reverse
  rwa [Option.mem_def.1 hx] at hnot

theorem strip_strip : strip p (strip p xs) = strip p xs :=
  strip_eq_self (head?_strip p xs) (getLast?_strip p xs)

end Text

namespace Http

def IsHeaderChar (c : Char) : Prop :=
  (0x20 ≤ c.toNat ∧ c.toNat ≤ 0x7E) ∨ c.toNat = 0x09

instance : DecidablePred IsHeaderChar :=
  fun c => inferInstanceAs (Decidable ((0x20 ≤ c.toNat ∧ c.toNat ≤ 0x7E) ∨ c.toNat = 0x09))

/-- A control character that cannot be sent in a header; a tab can. -/
def IsControl (c : Char) : Prop :=
  (c.toNat < 0x20 ∧ c.toNat ≠ 0x09) ∨ c.toNat = 0x7F

instance : DecidablePred IsControl :=
  fun c => inferInstanceAs (Decidable ((c.toNat < 0x20 ∧ c.toNat ≠ 0x09) ∨ c.toNat = 0x7F))

end Http

namespace Bytes

open Http

theorem utf8EncodeChar_ne_nil (c : Char) : String.utf8EncodeChar c ≠ [] := by
  rw [← ofText_singleton]
  apply ofText_ne_nil
  simp

/-- A character that is not ASCII has no ASCII byte. -/
theorem le_of_mem_utf8EncodeChar {c : Char} (hc : 0x80 ≤ c.toNat) {b : UInt8} (hb : b ∈ String.utf8EncodeChar c) :
    0x80 ≤ b.toNat := by
  rw [← ofText_singleton] at hb
  exact le_toNat_of_mem_ofText le_rfl (by simpa using hc) b hb

/-- A test on the bytes of a text is one on its characters, if it does not tell bytes beyond ASCII apart. -/
theorem all_ofText_iff {p : UInt8 → Bool} {high : Bool} (hhigh : ∀ b : UInt8, 0x80 ≤ b.toNat → p b = high) (s : String) :
    (ofText s).all p = true ↔
      ∀ c ∈ s.toList, (c.toNat < 0x80 → p (UInt8.ofNat c.toNat) = true) ∧ (0x80 ≤ c.toNat → high = true) := by
  have hchar : ∀ c : Char, (String.utf8EncodeChar c).all p = true ↔
      (c.toNat < 0x80 → p (UInt8.ofNat c.toNat) = true) ∧ (0x80 ≤ c.toNat → high = true) := by
    intro c
    by_cases hc : c.toNat < 0x80
    · rw [utf8EncodeChar_ascii hc]
      simp [hc]
    · obtain ⟨b, hb⟩ := List.exists_mem_of_ne_nil _ (utf8EncodeChar_ne_nil c)
      have hle : ∀ b ∈ String.utf8EncodeChar c, p b = high := fun b hb =>
        hhigh b (le_of_mem_utf8EncodeChar (Nat.not_lt.1 hc) hb)
      rw [List.all_eq_true]
      constructor
      · exact fun hall => ⟨fun hlt => absurd hlt hc, fun _ => hle b hb ▸ hall b hb⟩
      · exact fun h b hb => (hle b hb).trans (h.2 (Nat.not_lt.1 hc))
  rw [ofText_eq, List.all_flatMap, List.all_eq_true]
  exact forall₂_congr fun c _ => hchar c

theorem all_isTextByte_iff (s : String) : (ofText s).all isTextByte = true ↔ ∀ c ∈ s.toList, IsHeaderChar c := by
  have hhigh : ∀ b : UInt8, 0x80 ≤ b.toNat → isTextByte b = false := by
    intro b hb
    rw [← Bool.not_eq_true, isTextByte_iff]
    omega
  rw [all_ofText_iff hhigh]
  refine forall₂_congr fun c _ => ?_
  by_cases hc : c.toNat < 0x80
  · rw [isTextByte_iff, toNat_ofNat_of_lt (by omega), IsHeaderChar]
    simp [hc, Nat.not_le.2 hc]
  · rw [IsHeaderChar]
    simp only [hc, Nat.not_lt.1 hc, false_implies, Bool.false_eq_true, imp_false, not_true, and_false, false_iff]
    omega

theorem all_isHeaderByte_iff (s : String) :
    (ofText s).all isHeaderByte = true ↔ ∀ c ∈ s.toList, ¬IsControl c := by
  have hbyte : ∀ b : UInt8, isHeaderByte b = true ↔
      (0x20 ≤ b.toNat ∧ b.toNat ≠ 0x7F) ∨ b.toNat = 0x09 := by
    intro b
    simp only [isHeaderByte, Bool.or_eq_true, Bool.and_eq_true, decide_eq_true_eq, beq_iff_eq]
  have hhigh : ∀ b : UInt8, 0x80 ≤ b.toNat → isHeaderByte b = true := by
    intro b hb
    rw [hbyte]
    omega
  rw [all_ofText_iff hhigh]
  refine forall₂_congr fun c _ => ?_
  by_cases hc : c.toNat < 0x80
  · rw [hbyte, toNat_ofNat_of_lt (by omega), IsControl]
    omega
  · rw [IsControl]
    simp only [hc, false_implies, implies_true, and_self, true_iff]
    omega

/-- The bytes of a character that is not blank are not blank. -/
theorem isBlankByte_of_mem {c : Char} (hc : Text.isBlank c = false) {b : UInt8} (hb : b ∈ String.utf8EncodeChar c) :
    isBlankByte b = false := by
  by_contra hblank
  rw [Bool.not_eq_false, isBlankByte, Bool.or_eq_true, beq_iff_eq, beq_iff_eq] at hblank
  have hlt : b.toNat < 0x80 := by omega
  have hchar : Char.ofNat b.toNat ∈ [c] := by
    have hmem := mem_of_mem_ofText (s := String.ofList [c]) hlt (by rwa [ofText_singleton])
    rwa [String.toList_ofList] at hmem
  rw [← List.mem_singleton.1 hchar] at hc
  rcases hblank with h | h
  · rw [h] at hc
    cases hc
  · rw [h] at hc
    cases hc

theorem isBlankByte_head {s : String} (h : ∀ c ∈ s.toList.head?, Text.isBlank c = false) :
    ∀ b ∈ (ofText s).head?, isBlankByte b = false := by
  intro b hb
  rw [ofText_eq] at hb
  cases hs : s.toList with
  | nil =>
    rw [hs] at hb
    cases hb
  | cons c cs =>
    rw [hs, List.flatMap_cons, List.head?_append_of_ne_nil _ (utf8EncodeChar_ne_nil c)] at hb
    rw [hs] at h
    exact isBlankByte_of_mem (h c rfl) (List.mem_of_mem_head? hb)

theorem isBlankByte_getLast {s : String} (h : ∀ c ∈ s.toList.getLast?, Text.isBlank c = false) :
    ∀ b ∈ (ofText s).getLast?, isBlankByte b = false := by
  intro b hb
  rw [ofText_eq] at hb
  cases hs : s.toList using List.reverseRecOn with
  | nil =>
    rw [hs] at hb
    cases hb
  | append_singleton cs c =>
    rw [hs, List.flatMap_append, List.flatMap_singleton, List.getLast?_append_of_ne_nil _ (utf8EncodeChar_ne_nil c)] at hb
    rw [hs, List.getLast?_concat] at h
    exact isBlankByte_of_mem (h c rfl) (List.mem_of_getLast? hb)

end Bytes

namespace WebClient

open Http

variable {client : WebClient} {session : Option String} {message : Json}

/-- A client can make requests: the address of its endpoint can be used, and its token can be sent. -/
structure CanAsk (client : WebClient) : Prop where
  endpoint : client.endpoint ≠ none
  token : ∀ token, client.token = some token → ∀ c ∈ token.toList, ¬IsControl c

def bearerValue (token : String) : Bytes :=
  (sentHeader "authorization" (Bytes.ofText ("Bearer " ++ token))).value

def sessionValue (id : String) : Bytes :=
  (sentHeader sessionHeader (Bytes.ofText id)).value

structure Carries (client : WebClient) (session : Option String) (request : Request) : Prop where
  token : values request.headers "authorization" = client.token.toList.map bearerValue
  session : values request.headers sessionHeader = session.toList.map sessionValue

theorem isHeaderByte_bearer_iff (token : String) :
    (Bytes.ofText ("Bearer " ++ token)).all isHeaderByte = true ↔ ∀ c ∈ token.toList, ¬IsControl c := by
  have hscheme : ∀ c ∈ "Bearer ".toList, ¬IsControl c := List.all_iff_forall_prop.1 (by decide)
  rw [Bytes.all_isHeaderByte_iff, String.toList_append]
  constructor
  · exact fun h c hc => h c (List.mem_append_right _ hc)
  · intro h c hc
    cases List.mem_append.1 hc with
    | inl hc => exact hscheme c hc
    | inr hc => exact h c hc

theorem authorization_of_sendable (h : ∀ token, client.token = some token → ∀ c ∈ token.toList, ¬IsControl c) :
    client.authorization =
      .ok (client.token.toList.map fun token => sentHeader "authorization" (Bytes.ofText ("Bearer " ++ token))) := by
  cases htoken : client.token with
  | none => rw [authorization, htoken]; rfl
  | some token =>
    rw [authorization, htoken]
    exact if_pos ((isHeaderByte_bearer_iff token).2 (h token htoken))

theorem authorization_of_not_sendable {token : String} (htoken : client.token = some token)
    (h : ¬∀ c ∈ token.toList, ¬IsControl c) : client.authorization = .error .http := by
  rw [authorization, htoken]
  exact if_neg (mt (isHeaderByte_bearer_iff token).1 h)

/-- The headers that every request gets are told apart by their names from those of its own. -/
theorem carries_of_headers {front : List Header} {request : Request}
    (hfront : ∀ header ∈ front, header.name ≠ "authorization" ∧ header.name ≠ sessionHeader)
    (hheaders : request.headers = front ++ sessionHeaders session ++
      client.token.toList.map fun token => sentHeader "authorization" (Bytes.ofText ("Bearer " ++ token))) :
    Carries client session request := by
  have htoken : ∀ header ∈ client.token.toList.map fun token =>
      sentHeader "authorization" (Bytes.ofText ("Bearer " ++ token)), header.name = "authorization" := by
    intro header hmem
    obtain ⟨token, -, rfl⟩ := List.mem_map.1 hmem
    rfl
  have hsession := sessionHeaders_name session
  constructor
  · have hother : ∀ header ∈ front ++ sessionHeaders session, header.name ≠ "authorization" := by
      intro header hmem
      cases List.mem_append.1 hmem with
      | inl hmem => exact (hfront header hmem).1
      | inr hmem =>
        rw [hsession header hmem]
        decide
    rw [hheaders, values_append, values_of_other_name hother, values_of_name htoken, List.nil_append, List.map_map]
    rfl
  · have hother : ∀ header ∈ client.token.toList.map fun token =>
        sentHeader "authorization" (Bytes.ofText ("Bearer " ++ token)), header.name ≠ sessionHeader := by
      intro header hmem
      rw [htoken header hmem]
      decide
    rw [hheaders, values_append, values_append, values_of_other_name fun header hmem => (hfront header hmem).2,
      values_of_other_name hother, values_of_name hsession, List.nil_append, List.append_nil, sessionHeaders]
    cases session <;> rfl

theorem CanAsk.exists_post (h : client.CanAsk) (session : Option String) (message : Json) :
    ∃ request, client.post session message = .ok request ∧ request.method = "POST" ∧
      client.endpoint = some request.target ∧ request.body = Bytes.ofText message.text ∧ Carries client session request := by
  obtain ⟨path, hpath⟩ := Option.ne_none_iff_exists'.1 h.endpoint
  refine ⟨_, by rw [post, hpath, authorization_of_sendable h.token], rfl, hpath, rfl, carries_of_headers ?_ rfl⟩
  decide

theorem CanAsk.exists_delete (h : client.CanAsk) (id : String) :
    ∃ request, client.delete id = .ok request ∧ request.method = "DELETE" ∧
      client.endpoint = some request.target ∧ request.body = [] ∧ Carries client (some id) request := by
  obtain ⟨path, hpath⟩ := Option.ne_none_iff_exists'.1 h.endpoint
  refine ⟨_, by rw [delete, hpath, authorization_of_sendable h.token], rfl, hpath, rfl, carries_of_headers ?_ rfl⟩
  decide

theorem not_canAsk_iff : ¬client.CanAsk ↔
    client.endpoint = none ∨ ∃ token, client.token = some token ∧ ∃ c ∈ token.toList, IsControl c := by
  constructor
  · intro h
    by_contra hno
    rw [not_or] at hno
    refine h ⟨hno.1, fun token htoken c hc hcontrol => hno.2 ⟨token, htoken, c, hc, hcontrol⟩⟩
  · rintro (hnone | ⟨token, htoken, c, hc, hcontrol⟩) h
    · exact h.endpoint hnone
    · exact h.token token htoken c hc hcontrol

theorem post_of_not_canAsk (h : ¬client.CanAsk) (session : Option String) (message : Json) :
    client.post session message = .error .http := by
  rcases not_canAsk_iff.1 h with hnone | ⟨token, htoken, c, hc, hcontrol⟩
  · rw [post, hnone]
  · rw [post, authorization_of_not_sendable htoken fun h => h c hc hcontrol]
    cases client.endpoint <;> rfl

theorem delete_of_not_canAsk (h : ¬client.CanAsk) (id : String) : client.delete id = .error .http := by
  rcases not_canAsk_iff.1 h with hnone | ⟨token, htoken, c, hc, hcontrol⟩
  · rw [delete, hnone]
  · rw [delete, authorization_of_not_sendable htoken fun h => h c hc hcontrol]
    cases client.endpoint <;> rfl

end WebClient

end ModelContext
