import ModelContext.Proofs.Calls

/-!
# What the text of any value keeps

Not every value is read from its text as it was: integers may be too large, an object may be taken for an embedded
value, and brackets may be nested too deeply. But if the text of a value is read at all, then all of it is, texts come
back as they are, and an object comes back with its keys.
-/

namespace ModelContext.Json

structure Keeps (v read : Json) : Prop where
  str : ∀ s, v = .str s → read = .str s
  int : ∀ n, v = .int n → read = .int n ∨ ∃ x, read = .float x

/-- The members of an object are read under their keys, in the order in which they were written. -/
def KeepsMembers (fields read : Fields) : Prop :=
  List.Forall₂ (fun field got => got.1 = field.1 ∧ Keeps field.2 got.2) fields read

/-! ## Steps of the reader -/

theorem Numeral.value?_ofInt_cases {n : Int} {v : Json} (h : (Numeral.ofInt n).value? = some v) :
    v = .int n ∨ ∃ x, v = .float x := by
  have hvalue : (if decide (n < 0) = true then -(n.natAbs : Int) else n.natAbs) = n := by
    by_cases hneg : n < 0
    · rw [decide_eq_true hneg, if_pos rfl]
      omega
    · rw [decide_eq_false hneg, if_neg Bool.false_ne_true]
      omega
  rw [Numeral.value?, Numeral.ofInt, numeral?, Nat.ofDigitChars_ten_toDigits] at h
  split at h
  · rw [hvalue] at h
    exact .inl (Option.some.inj h).symm
  · obtain ⟨x, -, hx⟩ := Option.map_eq_some_iff.1 h
    exact .inr ⟨x, hx.symm⟩

/-- A text in quotes is read where a value begins with it, and no other value begins with one. -/
theorem quotedString?_chars (v : Json) (rest : List Char) :
    quotedString? (skipSpace (v.chars ++ rest)) = v.str?.map (·, rest) := by
  have hnumeral : ∀ (c : Char) (cs : List Char), c.isDigit = true ∨ c = '-' →
      quotedString? (skipSpace (c :: cs ++ rest)) = none := by
    intro c cs hc
    have hspace : isSpace c = false := by
      rcases hc with hc | rfl
      · exact isSpace_of_visible (isVisible_digit hc)
      · decide
    rw [List.cons_append, skipSpace_cons hspace, quotedString?]
    rintro - ⟨⟩
    revert hc
    decide
  cases v with
  | null => rfl
  | bool b => cases b <;> rfl
  | int n =>
    obtain ⟨c, cs, hcs, hc⟩ := decimalChars_start n
    rw [chars, hcs]
    exact hnumeral c cs hc
  | float x =>
    obtain ⟨c, cs, hcs, hc⟩ := text_start x
    rw [chars, hcs]
    exact hnumeral c cs hc
  | str s =>
    rw [chars, quoted_append, skipSpace_cons (by decide), quotedString?, string?_quoted]
    rfl
  | arr items => rfl
  | obj fields => rfl

/-! ## Values as parts of a text -/

theorem embeddedText?_field (key : String) (v : Json) (more : List Char) :
    embeddedText? (quoted key ++ ':' :: v.chars ++ more) =
      v.str?.bind fun text => (Text.after? ['\x7d'] (skipSpace more)).map (text, ·) := by
  have hkey : quotedString? (quoted key ++ ':' :: v.chars ++ more) = some (key, ':' :: (v.chars ++ more)) := by
    rw [field_append, quotedString?, string?_quoted]
  have hcolon : Text.after? [':'] (skipSpace (':' :: (v.chars ++ more))) = some (v.chars ++ more) := rfl
  rw [embeddedText?, hkey]
  dsimp only [Option.bind_eq_bind, Option.bind_some]
  rw [hcolon, Option.bind_some, quotedString?_chars]
  cases v.str? with
  | none => rfl
  | some text => exact Option.map_eq_bind.symm

/-- An embedded text is followed by the end of the object in which it stands. -/
theorem embeddedText?_fieldChars {key text : String} {v : Json} {fields : Fields} {rest after : List Char}
    (h : embeddedText? (fieldChars ((key, v) :: fields) ++ '\x7d' :: rest) = some (text, after)) : after = rest := by
  cases fields with
  | nil =>
    rw [fieldChars, embeddedText?_field] at h
    obtain ⟨s, -, h⟩ := Option.bind_eq_some_iff.1 h
    cases h
    rfl
  | cons field fields =>
    rw [fieldChars_cons_cons, List.append_assoc, embeddedText?_field] at h
    obtain ⟨s, -, h⟩ := Option.bind_eq_some_iff.1 h
    cases h

/-- An object with members stands for an embedded value, or its members are read. -/
theorem value?_obj_cases {key : String} {v : Json} {fields : Fields} {fuel depth : Nat} {rest after : List Char}
    {read : Json} (h : value? fuel depth (chars (.obj ((key, v) :: fields)) ++ rest) = some (read, after)) :
    (key = embeddedKey ∧ after = rest) ∨ (key ≠ embeddedKey ∧ ∃ fuel depth got,
      members? fuel depth (fieldChars ((key, v) :: fields) ++ '\x7d' :: rest) = some (got, after) ∧
        read = ofFields got) := by
  cases fuel with
  | zero => cases h
  | succ fuel =>
    cases depth with
    | zero => cases h
    | succ depth =>
      obtain ⟨cs, hcs⟩ := fieldChars_start key v fields ('\x7d' :: rest)
      rw [chars, List.cons_append, List.cons_append, List.append_assoc, List.singleton_append, hcs,
        value?_brace (string?_quoted key cs)] at h
      split at h
      · obtain ⟨⟨text, more⟩, htext, h⟩ := Option.bind_eq_some_iff.1 h
        obtain ⟨w, -, heq⟩ := Option.map_eq_some_iff.1 h
        cases heq
        rw [← hcs] at htext
        exact .inl ⟨‹_›, embeddedText?_fieldChars htext⟩
      · obtain ⟨⟨got, more⟩, hgot, heq⟩ := Option.map_eq_some_iff.1 h
        cases heq
        rw [← hcs] at hgot
        exact .inr ⟨‹_›, fuel, depth, got, hgot, rfl⟩

mutual

/-- A value that is read at the front of a text ends where it was written to end. -/
theorem value?_keeps (v : Json) {fuel depth : Nat} {rest after : List Char} {read : Json} (hr : EndsNumeral rest)
    (h : value? fuel depth (v.chars ++ rest) = some (read, after)) : after = rest ∧ Keeps v read := by
  cases fuel with
  | zero => cases h
  | succ fuel =>
    match v with
    | .null =>
      cases h
      exact ⟨rfl, nofun, nofun⟩
    | .bool true =>
      cases h
      exact ⟨rfl, nofun, nofun⟩
    | .bool false =>
      cases h
      exact ⟨rfl, nofun, nofun⟩
    | .int n =>
      obtain ⟨c, cs, hcs, hc⟩ := decimalChars_start n
      have hnumber := number?_chars (Numeral.wellFormed_ofInt n) hr
      rw [Numeral.chars_ofInt, hcs] at hnumber
      rw [chars, hcs, List.cons_append, value?_numeral hc, ← List.cons_append, hnumber] at h
      obtain ⟨w, hw, heq⟩ := Option.map_eq_some_iff.1 h
      cases heq
      refine ⟨rfl, nofun, ?_⟩
      rintro _ ⟨⟩
      exact Numeral.value?_ofInt_cases hw
    | .float x =>
      obtain ⟨c, cs, hcs, hc⟩ := text_start x
      have hnumber := x.number?_text hr
      rw [hcs] at hnumber
      rw [chars, hcs, List.cons_append, value?_numeral hc, ← List.cons_append, hnumber] at h
      cases h
      exact ⟨rfl, nofun, nofun⟩
    | .str s =>
      have hread : value? (fuel + 1) depth (chars (.str s) ++ rest) = some (.str s, rest) := by
        rw [chars, quoted_append, value?, skipSpace_cons (by decide)]
        simp [string?_quoted]
      rw [hread] at h
      cases h
      exact ⟨rfl, ⟨fun _ hs => hs, nofun⟩⟩
    | .arr [] =>
      cases depth with
      | zero => cases h
      | succ depth =>
        cases h
        exact ⟨rfl, nofun, nofun⟩
    | .arr (v :: items) =>
      cases depth with
      | zero => cases h
      | succ depth =>
        obtain ⟨c, cs, hcs, hspace, hc⟩ := itemChars_start v items
        have hitems := @elements?_keeps (v :: items) (List.cons_ne_nil v items) fuel depth rest
        rw [hcs] at hitems
        rw [chars, hcs, List.append_assoc, List.cons_append, List.cons_append, value?_bracket hspace hc] at h
        obtain ⟨⟨found, more⟩, hfound, heq⟩ := Option.map_eq_some_iff.1 h
        cases heq
        exact ⟨hitems hfound, nofun, nofun⟩
    | .obj [] =>
      cases depth with
      | zero => cases h
      | succ depth =>
        cases h
        exact ⟨rfl, nofun, nofun⟩
    | .obj ((key, v) :: fields) =>
      rcases value?_obj_cases h with ⟨-, rfl⟩ | ⟨-, fuel, depth, got, hgot, rfl⟩
      · exact ⟨rfl, nofun, nofun⟩
      · exact ⟨(members?_keeps ((key, v) :: fields) (List.cons_ne_nil _ fields) hgot).1, nofun, nofun⟩

theorem elements?_keeps (items : List Json) (hne : items ≠ []) {fuel depth : Nat} {rest after : List Char}
    {read : List Json} (h : elements? fuel depth (itemChars items ++ ']' :: rest) = some (read, after)) :
    after = rest := by
  cases fuel with
  | zero => cases h
  | succ fuel =>
    match items with
    | [] => exact absurd rfl hne
    | [v] =>
      rw [itemChars, elements?_item] at h
      obtain ⟨⟨w, more⟩, hv, h⟩ := Option.bind_eq_some_iff.1 h
      obtain ⟨rfl, -⟩ := value?_keeps v (endsNumeral_bracket rest) hv
      cases h
      rfl
    | v :: w :: items =>
      rw [itemChars_cons_cons, List.append_assoc, elements?_item] at h
      obtain ⟨⟨first, more⟩, hv, h⟩ := Option.bind_eq_some_iff.1 h
      obtain ⟨rfl, -⟩ := value?_keeps v (endsNumeral_comma _) hv
      dsimp only [List.cons_append] at h
      rw [skipSpace_cons (by decide)] at h
      obtain ⟨⟨found, last⟩, hfound, heq⟩ := Option.map_eq_some_iff.1 h
      cases heq
      exact elements?_keeps (w :: items) (List.cons_ne_nil w items) hfound

theorem members?_keeps (fields : List (String × Json)) (hne : fields ≠ []) {fuel depth : Nat} {rest after : List Char}
    {read : Fields} (h : members? fuel depth (fieldChars fields ++ '\x7d' :: rest) = some (read, after)) :
    after = rest ∧ KeepsMembers fields read := by
  cases fuel with
  | zero => cases h
  | succ fuel =>
    match fields with
    | [] => exact absurd rfl hne
    | [(key, v)] =>
      rw [fieldChars, field_append, members?_field (string?_quoted key _)] at h
      obtain ⟨⟨w, more⟩, hv, h⟩ := Option.bind_eq_some_iff.1 h
      obtain ⟨rfl, hkeeps⟩ := value?_keeps v (endsNumeral_brace rest) hv
      cases h
      exact ⟨rfl, .cons ⟨rfl, hkeeps⟩ .nil⟩
    | (key, v) :: field :: fields =>
      rw [fieldChars_cons_cons, List.append_assoc, field_append, members?_field (string?_quoted key _)] at h
      obtain ⟨⟨w, more⟩, hv, h⟩ := Option.bind_eq_some_iff.1 h
      obtain ⟨rfl, hkeeps⟩ := value?_keeps v (endsNumeral_comma _) hv
      dsimp only [List.cons_append] at h
      rw [skipSpace_cons (by decide)] at h
      obtain ⟨⟨found, last⟩, hfound, heq⟩ := Option.map_eq_some_iff.1 h
      cases heq
      obtain ⟨rfl, hmembers⟩ := members?_keeps (field :: fields) (List.cons_ne_nil field fields) hfound
      exact ⟨rfl, .cons ⟨rfl, hkeeps⟩ hmembers⟩

end

/-! ## Requests -/

theorem KeepsMembers.keys_eq {fields read : Fields} (h : KeepsMembers fields read) :
    read.map (·.1) = fields.map (·.1) := by
  induction h with
  | nil => rfl
  | cons hfield _ ih => rw [List.map_cons, List.map_cons, hfield.1, ih]

theorem KeepsMembers.lookup {fields read : Fields} (h : KeepsMembers fields read) (key : String) {v : Json}
    (hkey : fields.lookup key = some v) : ∃ w, read.lookup key = some w ∧ Keeps v w := by
  induction h with
  | nil => cases hkey
  | @cons field got fields read hfield hfields ih =>
    obtain ⟨name, x⟩ := field
    obtain ⟨other, w⟩ := got
    obtain ⟨rfl, hkeeps⟩ := hfield
    rw [List.lookup_cons] at hkey ⊢
    dsimp only at hkey ⊢
    cases heq : key == other with
    | true =>
      rw [heq] at hkey
      cases hkey
      exact ⟨w, rfl, hkeeps⟩
    | false =>
      rw [heq] at hkey
      exact ih hkey

/-- If the text of an object is read, it is read as an object with the same keys. -/
theorem parse?_obj_keeps {key : String} {v : Json} {fields : Fields} (hkey : key ≠ embeddedKey)
    (hsorted : ascends (((key, v) :: fields).map (·.1)) = true) {read : Json}
    (h : parse? (Json.obj ((key, v) :: fields)).text = some read) :
    ∃ got, read = .obj got ∧ KeepsMembers ((key, v) :: fields) got := by
  rw [parse?, text, String.toList_ofList, whole?] at h
  split at h
  · rename_i found after hfound
    split at h
    · cases h
      rw [← List.append_nil (chars _)] at hfound
      obtain ⟨hembedded, -⟩ | ⟨-, fuel, depth, got, hgot, rfl⟩ := value?_obj_cases hfound
      · exact absurd hembedded hkey
      · obtain ⟨-, hkeeps⟩ := members?_keeps ((key, v) :: fields) (List.cons_ne_nil _ fields) hgot
        rw [← hkeeps.keys_eq] at hsorted
        exact ⟨got, ofFields_of_ascends hsorted, hkeeps⟩
    · cases h
  · cases h

/-- If the text of a request is read, then with its method, and with an integer or a floating-point number as its id. -/
theorem parse?_requestJson_keeps {id : Int} {method : String} {params : Option Json} {read : Json}
    (h : parse? (requestJson (.int id) method params).text = some read) :
    read.get? "method" = some (.str method) ∧
      (read.get? "id" = some (.int id) ∨ ∃ x, read.get? "id" = some (.float x)) := by
  have hsorted : ascends ((("id", int id) :: ("jsonrpc", str jsonRpcVersion) :: ("method", str method) ::
      (params.map fun v => ("params", v)).toList).map (·.1)) = true := by
    cases params with
    | none => exact (by decide : ascends ["id", "jsonrpc", "method"] = true)
    | some v => exact (by decide : ascends ["id", "jsonrpc", "method", "params"] = true)
  rw [requestJson_eq] at h
  obtain ⟨got, rfl, hkeeps⟩ := parse?_obj_keeps (by decide) hsorted h
  obtain ⟨sent, hsent, hmethod⟩ := hkeeps.lookup "method" rfl
  obtain ⟨given, hgiven, hid⟩ := hkeeps.lookup "id" rfl
  rw [get?, get?, hsent, hgiven, hmethod.str method rfl]
  refine ⟨rfl, ?_⟩
  rcases hid.int id rfl with rfl | ⟨x, rfl⟩
  · exact .inl rfl
  · exact .inr ⟨x, rfl⟩

end ModelContext.Json
