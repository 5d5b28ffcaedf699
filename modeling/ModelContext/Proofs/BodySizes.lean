import ModelContext.Http.Endpoint
import ModelContext.Proofs.Calls
import ModelContext.Proofs.Encoding

/-!
# The sizes of bodies

A message can be posted if its text fits into a body. The greeting of a client does under every id, since the id alone
varies in length. A string of letters is longer than any bound if it has letters enough.
-/

namespace ModelContext

open Json

/-- A character takes one to four bytes. -/
theorem Bytes.length_ofText (s : String) :
    s.toList.length ≤ (ofText s).length ∧ (ofText s).length ≤ 4 * s.toList.length := by
  rw [ofText_eq]
  induction s.toList with
  | nil => exact ⟨le_rfl, le_rfl⟩
  | cons c cs ih =>
    have hpos := c.utf8Size_pos
    have hfour := c.utf8Size_le_four
    rw [List.flatMap_cons, List.length_append, List.length_cons, String.length_utf8EncodeChar]
    omega

def FitsBody (message : Json) : Prop :=
  (Bytes.ofText message.text).length ≤ 2097152

instance : DecidablePred FitsBody :=
  fun message => inferInstanceAs (Decidable ((Bytes.ofText message.text).length ≤ 2097152))

theorem fitsBody_iff {message : Json} {request : Http.Request} (hbody : request.body = Bytes.ofText message.text) :
    FitsBody message ↔ request.body.length ≤ Http.bodyLimit := by
  rw [hbody, FitsBody, Http.bodyLimit]

theorem bodyLimit_lt_of_not_fitsBody {message : Json} {request : Http.Request}
    (hbody : request.body = Bytes.ofText message.text) (h : ¬FitsBody message) :
    Http.bodyLimit < request.body.length :=
  Nat.lt_of_not_le (mt (fitsBody_iff hbody).2 h)

theorem fitsBody_of_length {message : Json} (h : message.chars.length ≤ 524288) : FitsBody message := by
  have hbytes := (Bytes.length_ofText message.text).2
  rw [text, String.toList_ofList] at hbytes
  exact hbytes.trans (by omega)

theorem length_decimalChars_le {n : Int} (h : FitsInt64 n) : (decimalChars n).length ≤ 20 := by
  have hdigits : (Nat.toDigits 10 n.natAbs).length ≤ 19 := by
    obtain ⟨hlow, hhigh⟩ := h
    exact (Nat.length_toDigits_le_iff (by decide) (by decide)).2 (by omega)
  unfold decimalChars
  split
  · exact Nat.succ_le_succ hdigits
  · exact hdigits.trans (by decide)

/-- A request is as long as the one under zero, but for the digits of its id. -/
theorem length_requestJson (id : Int) (method : String) (params : Option Json) :
    (requestJson (.int id) method params).chars.length + 1 =
      (requestJson (.int 0) method params).chars.length + (decimalChars id).length := by
  have hzero : (decimalChars 0).length = 1 := rfl
  rw [requestJson_eq, requestJson_eq]
  simp only [chars, fieldChars, List.length_append, List.length_cons, hzero]
  omega

theorem fitsBody_handshake {id : Int} (hid : FitsInt64 id) :
    FitsBody (requestJson (.int id) Method.handshake.name (some Session.handshakeParams)) := by
  have hzero : (requestJson (.int 0) Method.handshake.name (some Session.handshakeParams)).chars.length ≤ 1000 := by
    decide +kernel
  have hlength := length_requestJson id Method.handshake.name (some Session.handshakeParams)
  have hdigits := length_decimalChars_le hid
  exact fitsBody_of_length (by omega)

theorem fitsBody_ready : FitsBody (notificationJson "notifications/initialized") :=
  fitsBody_of_length (by decide +kernel)

/-! ## Strings that are too long -/

theorem not_fitsBody_str {s : String} (h : 2097150 < s.toList.length) : ¬FitsBody (.str s) := by
  have hchars : (Json.str s).chars.length = (s.toList.flatMap escape).length + 2 := by
    rw [chars, quoted, List.length_append, List.length_cons]
    rfl
  have hbytes := (Bytes.length_ofText (Json.str s).text).1
  rw [text, String.toList_ofList, hchars] at hbytes
  have hescapes := length_le_flatMap_escape s.toList
  rw [FitsBody, text]
  omega

def letters (count : Nat) : Json :=
  .str (String.ofList (List.replicate count 'a'))

theorem parse?_letters (count : Nat) : parse? (letters count).text = some (letters count) := by
  have hdepth : (letters count).depth = 0 := by simp [letters, depth]
  rw [parse?_text rfl (by rw [hdepth]; decide), reread_of_stable _ rfl]

theorem not_fitsBody_letters {count : Nat} (h : 2097150 < count) : ¬FitsBody (letters count) := by
  apply not_fitsBody_str
  rwa [String.toList_ofList, List.length_replicate]

end ModelContext
