import ModelContext.Json.Printer
import ModelContext.Proofs.Encoding
import ModelContext.Proofs.FloatText
import Mathlib.Tactic.IntervalCases
import Mathlib.Data.Bool.AllAny

/-!
# Written values are read again

The reader takes the text of a value off the front of a longer one. It gives the value back, with every
floating-point number as it is read, if integers fit into words, the keys of objects ascend, no object
begins with the key for embedded values, and brackets are not nested too deeply.
-/

namespace ModelContext.Json

/-! ## Typed values -/

theorem int64?_eq_some_iff {v : Json} {n : Int} : v.int64? = some n ↔ v = .int n ∧ FitsInt64 n := by
  cases v with
  | int m =>
    by_cases h : FitsInt64 m
    · rw [Json.int64?, if_pos h, Option.some.injEq, Json.int.injEq]
      exact ⟨fun heq => ⟨heq, heq ▸ h⟩, fun heq => heq.1⟩
    · rw [Json.int64?, if_neg h, Json.int.injEq]
      exact iff_of_false (Option.some_ne_none n).symm fun heq => h (heq.1 ▸ heq.2)
  | _ => simp [Json.int64?]

theorem str?_eq_some_iff {v : Json} {s : String} : v.str? = some s ↔ v = .str s := by
  cases v <;> simp [Json.str?]

/-! ## Strings -/

theorem hexValue?_hexDigit {n : Nat} (hn : n < 16) : hexValue? (hexDigit n) = some n := by
  interval_cases n <;> decide

/-- The four hexadecimal digits of a control character. -/
theorem unicodeEscape?_control {c : Char} (hc : c.toNat < 0x20) (rest : List Char) :
    unicodeEscape? ('0' :: '0' :: hexDigit (c.toNat / 16) :: hexDigit (c.toNat % 16) :: rest) = some (c, rest) := by
  have hzero : hexValue? '0' = some 0 := by decide
  have hhigh : hexValue? (hexDigit (c.toNat / 16)) = some (c.toNat / 16) := hexValue?_hexDigit (by omega)
  have hlow : hexValue? (hexDigit (c.toNat % 16)) = some (c.toNat % 16) := hexValue?_hexDigit (by omega)
  have hunit : ((0 * 16 + 0) * 16 + c.toNat / 16) * 16 + c.toNat % 16 = c.toNat := by omega
  simp only [unicodeEscape?, unit?, hzero, hhigh, hlow, Option.bind_eq_bind, Option.bind_some, hunit]
  rw [if_neg (by omega), if_neg (by omega), Char.ofNat_toNat]

/-- An escape is a backslash before what `escaped?` reads, or the character itself. -/
theorem escape_cases (c : Char) :
    (∃ cs, escape c = '\x5c' :: cs ∧ ∀ rest, escaped? (cs ++ rest) = some (c, rest)) ∨
      (escape c = [c] ∧ c ≠ '\x22' ∧ c ≠ '\x5c' ∧ ¬c.toNat < 0x20) := by
  unfold escape
  split_ifs with hquote hslash hback htab hfeed hform hret hcontrol
  · exact Or.inl ⟨['\x22'], rfl, fun rest => by rw [hquote]; rfl⟩
  · exact Or.inl ⟨['\x5c'], rfl, fun rest => by rw [hslash]; rfl⟩
  · exact Or.inl ⟨['b'], rfl, fun rest => by rw [hback]; rfl⟩
  · exact Or.inl ⟨['t'], rfl, fun rest => by rw [htab]; rfl⟩
  · exact Or.inl ⟨['n'], rfl, fun rest => by rw [hfeed]; rfl⟩
  · exact Or.inl ⟨['f'], rfl, fun rest => by rw [hform]; rfl⟩
  · exact Or.inl ⟨['r'], rfl, fun rest => by rw [hret]; rfl⟩
  · refine Or.inl ⟨_, rfl, fun rest => ?_⟩
    exact unicodeEscape?_control hcontrol rest
  · exact Or.inr ⟨rfl, hquote, hslash, hcontrol⟩

theorem length_le_flatMap_escape (cs : List Char) : cs.length ≤ (cs.flatMap escape).length := by
  induction cs with
  | nil => exact le_rfl
  | cons c cs ih =>
    have hpos : 1 ≤ (escape c).length := by
      rcases escape_cases c with ⟨e, he, -⟩ | ⟨he, -⟩
      · rw [he, List.length_cons]
        omega
      · rw [he, List.length_singleton]
    rw [List.flatMap_cons, List.length_append, List.length_cons]
    omega

theorem stringBody?_flatMap_escape {fuel : Nat} {cs : List Char} (hfuel : cs.length < fuel) (rest : List Char) :
    stringBody? fuel (cs.flatMap escape ++ '\x22' :: rest) = some (cs, rest) := by
  induction cs generalizing fuel with
  | nil =>
    obtain ⟨fuel, rfl⟩ : ∃ k, fuel = k + 1 := ⟨fuel - 1, by omega⟩
    simp [stringBody?]
  | cons c cs ih =>
    obtain ⟨fuel, rfl⟩ : ∃ k, fuel = k + 1 := ⟨fuel - 1, by omega⟩
    have hcs : stringBody? fuel (cs.flatMap escape ++ '\x22' :: rest) = some (cs, rest) := ih (by simpa using hfuel)
    rcases escape_cases c with ⟨e, he, hread⟩ | ⟨he, hquote, hslash, hcontrol⟩
    · simp [stringBody?, he, hread, hcs]
    · simp [stringBody?, he, hquote, hslash, hcontrol, hcs]

/-- A quoted string is read, wherever it ends. -/
theorem string?_quoted (s : String) (rest : List Char) :
    string? (s.toList.flatMap escape ++ '\x22' :: rest) = some (s, rest) := by
  have hlen := length_le_flatMap_escape s.toList
  have hfuel : s.toList.length < (s.toList.flatMap escape ++ '\x22' :: rest).length := by
    rw [List.length_append, List.length_cons]
    omega
  rw [string?, stringBody?_flatMap_escape hfuel, Option.map_some]
  dsimp only
  rw [String.ofList_toList]

theorem quoted_append (s : String) (rest : List Char) :
    quoted s ++ rest = '\x22' :: (s.toList.flatMap escape ++ '\x22' :: rest) := by
  simp [quoted]

/-! ## What is read back -/

mutual

/-- Does a property hold of a value and of every value in it? -/
def all (p : Json → Bool) : Json → Bool
  | .arr items => p (.arr items) && allItems p items
  | .obj fields => p (.obj fields) && allFields p fields
  | v => p v

def allItems (p : Json → Bool) : List Json → Bool
  | [] => true
  | v :: items => all p v && allItems p items

def allFields (p : Json → Bool) : List (String × Json) → Bool
  | [] => true
  | (_, v) :: fields => all p v && allFields p fields

end

mutual

/-- How many brackets are open at once in the text of a value. -/
def depth : Json → Nat
  | .arr items => itemsDepth items + 1
  | .obj fields => fieldsDepth fields + 1
  | _ => 0

def itemsDepth : List Json → Nat
  | [] => 0
  | v :: items => max (depth v) (itemsDepth items)

def fieldsDepth : List (String × Json) → Nat
  | [] => 0
  | (_, v) :: fields => max (depth v) (fieldsDepth fields)

end

mutual

/-- The value that is read where this one is written: floating-point numbers as they are read, and the
fields of objects in order. -/
def reread : Json → Json
  | .float x => .float x.reread
  | .arr items => .arr (rereadItems items)
  | .obj fields => ofFields (rereadFields fields)
  | v => v

def rereadItems : List Json → List Json
  | [] => []
  | v :: items => reread v :: rereadItems items

def rereadFields : List (String × Json) → List (String × Json)
  | [] => []
  | (key, v) :: fields => (key, reread v) :: rereadFields fields

end

def ascends : List String → Bool
  | [] => true
  | key :: keys => keys.all (key < ·) && ascends keys

/-- What holds of every value that the reader or a program builds: integers fit into words, and the fields of
objects are in order. -/
def isCanonical : Json → Bool
  | .int n => FitsWord n
  | .obj fields => ascends (fields.map (·.1))
  | _ => true

/-- The values that are not taken for embedded ones. -/
def isUnmarked : Json → Bool
  | .obj ((key, _) :: _) => key != embeddedKey
  | _ => true

def isPlain : Json → Bool
  | .int n => FitsWord n
  | v => v.isUnmarked

/-- The values that are the same when they are read: no floating-point numbers, and objects in order. -/
def isStable : Json → Bool
  | .float _ => false
  | .obj fields => ascends (fields.map (·.1))
  | _ => true

/-! ## Steps of the reader -/

theorem skipSpace_cons {c : Char} (hc : isSpace c = false) (cs : List Char) : skipSpace (c :: cs) = c :: cs := by
  rw [skipSpace, List.dropWhile_cons_of_neg (by simp [hc])]

section Steps

variable {fuel depth : Nat} {c : Char} {cs rest : List Char}

theorem value?_numeral (hc : c.isDigit = true ∨ c = '-') :
    value? (fuel + 1) depth (c :: cs) = number? (c :: cs) := by
  have hne : ∀ d : Char, d.isDigit = false → d ≠ '-' → c ≠ d := by
    rintro d hdigit hminus rfl
    rcases hc with hc | hc
    · rw [hc] at hdigit
      cases hdigit
    · exact hminus hc
  have hspace : isSpace c = false := by
    simp [isSpace, hne ' ' (by decide) (by decide), hne '\t' (by decide) (by decide),
      hne '\n' (by decide) (by decide), hne '\r' (by decide) (by decide)]
  rw [value?, skipSpace_cons hspace]
  simp [hne 'n' (by decide) (by decide), hne 't' (by decide) (by decide), hne 'f' (by decide) (by decide),
    hne '\x22' (by decide) (by decide), hne '[' (by decide) (by decide), hne '\x7b' (by decide) (by decide)]

theorem value?_bracket (hspace : isSpace c = false) (hc : c ≠ ']') :
    value? (fuel + 1) (depth + 1) ('[' :: c :: cs) =
      (elements? fuel depth (c :: cs)).map fun (items, rest) => (.arr items, rest) := by
  rw [value?, skipSpace_cons (by decide)]
  simp [skipSpace_cons hspace, hc]

theorem value?_brace {key : String} {after : List Char} (hcs : string? cs = some (key, after)) :
    value? (fuel + 1) (depth + 1) ('\x7b' :: '\x22' :: cs) =
      if key = embeddedKey then
        (embeddedText? ('\x22' :: cs)).bind fun (text, rest) => (whole? fuel text.toList).map (·, rest)
      else (members? fuel depth ('\x22' :: cs)).map fun (fields, rest) => (ofFields fields, rest) := by
  have hfirst : firstKey? ('\x22' :: cs) = some key := by
    rw [firstKey?, quotedString?, hcs]
    rfl
  rw [value?, skipSpace_cons (by decide)]
  simp [skipSpace_cons (c := '\x22') (by decide), hfirst]
  split
  · cases embeddedText? ('\x22' :: cs) <;> rfl
  · rfl

/-- The items that follow a first one are read on after a comma. -/
theorem elements?_item : elements? (fuel + 1) depth cs =
    (value? fuel depth cs).bind fun (v, rest) =>
      match skipSpace rest with
      | ',' :: rest => (elements? fuel depth rest).map fun (items, rest) => (v :: items, rest)
      | ']' :: rest => some ([v], rest)
      | _ => none := by
  rw [elements?]
  cases value? fuel depth cs <;> rfl

/-- The members that follow a first one are read on after a comma. -/
theorem members?_field {key : String} {after : List Char} (hkey : string? cs = some (key, ':' :: after)) :
    members? (fuel + 1) depth ('\x22' :: cs) =
      (value? fuel depth after).bind fun (v, rest) =>
        match skipSpace rest with
        | ',' :: rest => (members? fuel depth rest).map fun (fields, rest) => ((key, v) :: fields, rest)
        | '\x7d' :: rest => some ([(key, v)], rest)
        | _ => none := by
  rw [members?, skipSpace_cons (by decide)]
  simp only [hkey, skipSpace_cons (c := ':') (by decide)]
  cases value? fuel depth after <;> rfl

theorem elements?_last {v : Json} (h : value? fuel depth cs = some (v, ']' :: rest)) :
    elements? (fuel + 1) depth cs = some ([v], rest) := by
  rw [elements?_item, h]
  rfl

theorem elements?_cons {v : Json} {more : List Char} {items : List Json}
    (h : value? fuel depth cs = some (v, ',' :: more)) (hmore : elements? fuel depth more = some (items, rest)) :
    elements? (fuel + 1) depth cs = some (v :: items, rest) := by
  rw [elements?_item, h]
  exact congrArg (Option.map _) hmore

theorem members?_last {v : Json} {key : String} {after : List Char} (hkey : string? cs = some (key, ':' :: after))
    (h : value? fuel depth after = some (v, '\x7d' :: rest)) :
    members? (fuel + 1) depth ('\x22' :: cs) = some ([(key, v)], rest) := by
  rw [members?_field hkey, h]
  rfl

theorem members?_cons {v : Json} {key : String} {after more : List Char} {fields : Fields}
    (hkey : string? cs = some (key, ':' :: after)) (h : value? fuel depth after = some (v, ',' :: more))
    (hmore : members? fuel depth more = some (fields, rest)) :
    members? (fuel + 1) depth ('\x22' :: cs) = some ((key, v) :: fields, rest) := by
  rw [members?_field hkey, h]
  exact congrArg (Option.map _) hmore

end Steps

/-! ## Written values are read -/

theorem Numeral.chars_start {n : Numeral} (hn : n.WellFormed) :
    ∃ c cs, n.chars = c :: cs ∧ (c.isDigit = true ∨ c = '-') := by
  obtain ⟨d, ds, hwhole⟩ := List.exists_cons_of_ne_nil hn.whole_ne_nil
  have hd : d.isDigit = true := hn.whole_digits d (by rw [hwhole]; exact List.mem_cons_self)
  rw [Numeral.chars, hwhole]
  cases n.negative with
  | true => exact ⟨'-', _, rfl, Or.inr rfl⟩
  | false => exact ⟨d, _, rfl, Or.inl hd⟩

theorem decimalChars_start (n : Int) : ∃ c cs, decimalChars n = c :: cs ∧ (c.isDigit = true ∨ c = '-') := by
  rw [← Numeral.chars_ofInt]
  exact Numeral.chars_start (Numeral.wellFormed_ofInt n)

theorem text_start (x : Double) : ∃ c cs, x.text = c :: cs ∧ (c.isDigit = true ∨ c = '-') := by
  rw [← x.chars_numeral]
  exact Numeral.chars_start x.wellFormed_numeral

theorem isVisible_digit {c : Char} (hc : c.isDigit = true) : Text.IsVisible c := by
  simp only [Char.isDigit, Bool.and_eq_true, decide_eq_true_eq] at hc
  exact ⟨Nat.le_trans (by decide) hc.1, Nat.le_trans hc.2 (by decide)⟩

theorem isSpace_of_visible {c : Char} (hc : Text.IsVisible c) : isSpace c = false := by
  by_contra hspace
  simp only [isSpace, Bool.not_eq_false, Bool.or_eq_true, beq_iff_eq] at hspace
  rcases hspace with ((rfl | rfl) | rfl) | rfl <;> exact absurd hc (by decide)

/-- A value begins with a visible character, and with no closing bracket. -/
theorem chars_start (v : Json) : ∃ c cs, v.chars = c :: cs ∧ Text.IsVisible c ∧ c ≠ ']' := by
  have hnumeral : ∀ c : Char, c.isDigit = true ∨ c = '-' → Text.IsVisible c ∧ c ≠ ']' := by
    rintro c (hc | rfl)
    · exact ⟨isVisible_digit hc, by rintro rfl; cases hc⟩
    · decide
  cases v with
  | null => exact ⟨'n', _, rfl, by decide⟩
  | bool b =>
    cases b with
    | true => exact ⟨'t', _, rfl, by decide⟩
    | false => exact ⟨'f', _, rfl, by decide⟩
  | int n =>
    obtain ⟨c, cs, hcs, hc⟩ := decimalChars_start n
    exact ⟨c, cs, by rw [chars, hcs], hnumeral c hc⟩
  | float x =>
    obtain ⟨c, cs, hcs, hc⟩ := text_start x
    exact ⟨c, cs, by rw [chars, hcs], hnumeral c hc⟩
  | str s => exact ⟨'\x22', _, by rw [chars, quoted, List.cons_append], by decide⟩
  | arr items => exact ⟨'[', _, by rw [chars, List.cons_append], by decide⟩
  | obj fields => exact ⟨'\x7b', _, by rw [chars, List.cons_append], by decide⟩

theorem endsNumeral_comma (rest : List Char) : EndsNumeral (',' :: rest) :=
  endsNumeral_cons (by decide) rest

theorem endsNumeral_bracket (rest : List Char) : EndsNumeral (']' :: rest) :=
  endsNumeral_cons (by decide) rest

theorem endsNumeral_brace (rest : List Char) : EndsNumeral ('\x7d' :: rest) :=
  endsNumeral_cons (by decide) rest

theorem itemChars_cons_cons (v w : Json) (items : List Json) :
    itemChars (v :: w :: items) = v.chars ++ ',' :: itemChars (w :: items) := rfl

theorem fieldChars_cons_cons (key : String) (v : Json) (field : String × Json) (fields : List (String × Json)) :
    fieldChars ((key, v) :: field :: fields) =
      quoted key ++ ':' :: v.chars ++ ',' :: fieldChars (field :: fields) := rfl

/-- The quotes, colon and value of a field at the front of a text. -/
theorem field_append (key : String) (v : Json) (rest : List Char) :
    quoted key ++ ':' :: v.chars ++ rest =
      '\x22' :: (key.toList.flatMap escape ++ '\x22' :: ':' :: (v.chars ++ rest)) := by
  simp [quoted]

theorem itemChars_start (v : Json) (items : List Json) :
    ∃ c cs, itemChars (v :: items) = c :: cs ∧ isSpace c = false ∧ c ≠ ']' := by
  obtain ⟨c, cs, hcs, hvisible, hc⟩ := v.chars_start
  have hspace := isSpace_of_visible hvisible
  cases items with
  | nil => exact ⟨c, cs, by rw [itemChars, hcs], hspace, hc⟩
  | cons w items => exact ⟨c, _, by rw [itemChars_cons_cons, hcs, List.cons_append], hspace, hc⟩

theorem fieldChars_start (key : String) (v : Json) (fields : List (String × Json)) (rest : List Char) :
    ∃ cs, fieldChars ((key, v) :: fields) ++ rest = '\x22' :: (key.toList.flatMap escape ++ '\x22' :: cs) := by
  cases fields with
  | nil => exact ⟨_, by rw [fieldChars, field_append]⟩
  | cons field fields =>
    refine ⟨':' :: (v.chars ++ ',' :: (fieldChars (field :: fields) ++ rest)), ?_⟩
    rw [fieldChars_cons_cons, List.append_assoc, field_append, List.cons_append]

mutual

theorem value?_chars (v : Json) (hv : v.all isPlain = true) {fuel depth : Nat} {rest : List Char}
    (hfuel : 2 * v.chars.length ≤ fuel) (hdepth : v.depth ≤ depth) (hr : EndsNumeral rest) :
    value? fuel depth (v.chars ++ rest) = some (v.reread, rest) := by
  obtain ⟨fuel, rfl⟩ : ∃ k, fuel = k + 1 := by
    obtain ⟨c, cs, hcs, -⟩ := v.chars_start
    rw [hcs, List.length_cons] at hfuel
    exact ⟨fuel - 1, by omega⟩
  match v with
  | .null => rfl
  | .bool true => rfl
  | .bool false => rfl
  | .int n =>
    have hn : FitsWord n := of_decide_eq_true hv
    obtain ⟨c, cs, hcs, hc⟩ := decimalChars_start n
    have hread := number?_decimalChars hn hr
    rw [hcs] at hread
    rw [chars, hcs, List.cons_append, value?_numeral hc, ← List.cons_append, hread]
    rfl
  | .float x =>
    obtain ⟨c, cs, hcs, hc⟩ := text_start x
    have hread := x.number?_text hr
    rw [hcs] at hread
    rw [chars, hcs, List.cons_append, value?_numeral hc, ← List.cons_append, hread]
    rfl
  | .str s =>
    rw [chars, quoted_append, value?, skipSpace_cons (by decide)]
    simp [string?_quoted, reread]
  | .arr items =>
    obtain ⟨depth, rfl⟩ : ∃ k, depth = k + 1 := ⟨depth - 1, by rw [Json.depth] at hdepth; omega⟩
    match items with
    | [] => rfl
    | v :: items =>
      obtain ⟨c, cs, hcs, hspace, hc⟩ := itemChars_start v items
      have hitems : elements? fuel depth (itemChars (v :: items) ++ ']' :: rest) =
          some (rereadItems (v :: items), rest) := by
        apply elements?_itemChars (v :: items) (List.cons_ne_nil v items)
        · rw [all, Bool.and_eq_true] at hv
          exact hv.2
        · rw [chars] at hfuel
          simp only [List.length_append, List.length_cons] at hfuel
          omega
        · rw [Json.depth] at hdepth
          omega
      rw [hcs] at hitems
      rw [chars, hcs, reread, List.append_assoc, List.cons_append, List.cons_append, value?_bracket hspace hc,
        List.singleton_append, ← List.cons_append, hitems]
      rfl
  | .obj fields =>
    obtain ⟨depth, rfl⟩ : ∃ k, depth = k + 1 := ⟨depth - 1, by rw [Json.depth] at hdepth; omega⟩
    match fields with
    | [] => rfl
    | (key, v) :: fields =>
      rw [all, Bool.and_eq_true] at hv
      have hkey : key ≠ embeddedKey := by simpa [isPlain, isUnmarked] using hv.1
      have hfields : members? fuel depth (fieldChars ((key, v) :: fields) ++ '\x7d' :: rest) =
          some (rereadFields ((key, v) :: fields), rest) := by
        apply members?_fieldChars ((key, v) :: fields) (List.cons_ne_nil _ fields) hv.2
        · rw [chars] at hfuel
          simp only [List.length_append, List.length_cons] at hfuel
          omega
        · rw [Json.depth] at hdepth
          omega
      obtain ⟨cs, hcs⟩ := fieldChars_start key v fields ('\x7d' :: rest)
      rw [hcs] at hfields
      rw [chars, List.cons_append, List.cons_append, List.append_assoc, List.singleton_append, hcs, reread]
      rw [value?_brace (string?_quoted key cs), if_neg hkey, hfields]
      rfl

theorem elements?_itemChars (items : List Json) (hne : items ≠ []) {fuel depth : Nat} {rest : List Char}
    (hitems : allItems isPlain items = true) (hfuel : 2 * (itemChars items).length + 1 ≤ fuel)
    (hdepth : itemsDepth items ≤ depth) :
    elements? fuel depth (itemChars items ++ ']' :: rest) = some (rereadItems items, rest) := by
  obtain ⟨fuel, rfl⟩ : ∃ k, fuel = k + 1 := ⟨fuel - 1, by omega⟩
  match items with
  | [] => exact absurd rfl hne
  | [v] =>
    rw [allItems, Bool.and_eq_true] at hitems
    rw [itemsDepth] at hdepth
    rw [itemChars] at hfuel ⊢
    apply elements?_last
    exact value?_chars v hitems.1 (by omega) (by omega) (endsNumeral_bracket rest)
  | v :: w :: items =>
    rw [allItems, Bool.and_eq_true] at hitems
    rw [itemsDepth] at hdepth
    rw [itemChars_cons_cons, List.length_append, List.length_cons] at hfuel
    rw [itemChars_cons_cons, List.append_assoc, List.cons_append]
    apply elements?_cons
    · exact value?_chars v hitems.1 (by omega) (by omega) (endsNumeral_comma _)
    · exact elements?_itemChars (w :: items) (List.cons_ne_nil w items) hitems.2 (by omega) (by omega)

theorem members?_fieldChars (fields : List (String × Json)) (hne : fields ≠ []) {fuel depth : Nat}
    {rest : List Char} (hfields : allFields isPlain fields = true)
    (hfuel : 2 * (fieldChars fields).length + 1 ≤ fuel) (hdepth : fieldsDepth fields ≤ depth) :
    members? fuel depth (fieldChars fields ++ '\x7d' :: rest) = some (rereadFields fields, rest) := by
  obtain ⟨fuel, rfl⟩ : ∃ k, fuel = k + 1 := ⟨fuel - 1, by omega⟩
  match fields with
  | [] => exact absurd rfl hne
  | [(key, v)] =>
    rw [allFields, Bool.and_eq_true] at hfields
    rw [fieldsDepth] at hdepth
    rw [fieldChars, List.length_append, List.length_cons] at hfuel
    rw [fieldChars, field_append]
    apply members?_last (string?_quoted key _)
    exact value?_chars v hfields.1 (by omega) (by omega) (endsNumeral_brace rest)
  | (key, v) :: field :: fields =>
    rw [allFields, Bool.and_eq_true] at hfields
    rw [fieldsDepth] at hdepth
    rw [fieldChars_cons_cons, List.length_append, List.length_append, List.length_cons, List.length_cons] at hfuel
    rw [fieldChars_cons_cons, List.append_assoc, List.cons_append, field_append]
    apply members?_cons (string?_quoted key _)
    · exact value?_chars v hfields.1 (by omega) (by omega) (endsNumeral_comma _)
    · exact members?_fieldChars (field :: fields) (List.cons_ne_nil field fields) hfields.2 (by omega) (by omega)

end

/-- A text is read as `reread` of the value that it was written for. -/
theorem parse?_text {v : Json} (hplain : v.all isPlain = true) (hdepth : v.depth ≤ maxNesting) :
    parse? v.text = some v.reread := by
  have hread : value? (2 * v.chars.length + 2) maxNesting (v.chars ++ []) = some (v.reread, []) :=
    value?_chars v hplain (by omega) hdepth endsNumeral_nil
  rw [List.append_nil] at hread
  rw [parse?, text, String.toList_ofList, whole?, hread]
  rfl

/-! ## Values that are the same when they are read -/

theorem insertField_append {key : String} {fields : Fields} (h : ∀ field ∈ fields, field.1 < key) (v : Json) :
    insertField key v fields = fields ++ [(key, v)] := by
  induction fields with
  | nil => rfl
  | cons field fields ih =>
    have hlt : field.1 < key := h field List.mem_cons_self
    have hne : key ≠ field.1 := by
      intro heq
      rw [heq] at hlt
      exact String.lt_irrefl _ hlt
    rw [insertField, if_neg (String.lt_asymm hlt), if_neg hne,
      ih fun other hother => h other (List.mem_cons_of_mem field hother)]
    rfl

theorem foldl_insertField {front fields : Fields} (hfields : ascends (fields.map (·.1)) = true)
    (hfront : ∀ field ∈ front, ∀ other ∈ fields, field.1 < other.1) :
    fields.foldl (fun sorted field => insertField field.1 field.2 sorted) front = front ++ fields := by
  induction fields generalizing front with
  | nil => rw [List.append_nil]; rfl
  | cons field fields ih =>
    rw [List.map_cons, ascends, Bool.and_eq_true, List.all_eq_true] at hfields
    have hinsert : insertField field.1 field.2 front = front ++ [field] :=
      insertField_append (fun other hother => hfront other hother field List.mem_cons_self) field.2
    rw [List.foldl_cons, hinsert, ih hfields.2]
    · rw [List.append_assoc, List.singleton_append]
    · intro earlier hearlier later hlater
      rcases List.mem_append.1 hearlier with hearlier | hearlier
      · exact hfront earlier hearlier later (List.mem_cons_of_mem field hlater)
      · rw [List.mem_singleton.1 hearlier]
        exact of_decide_eq_true (hfields.1 later.1 (List.mem_map_of_mem hlater))

/-- Fields in order stay as they are. -/
theorem ofFields_of_ascends {fields : Fields} (h : ascends (fields.map (·.1)) = true) :
    ofFields fields = .obj fields := by
  rw [ofFields, foldl_insertField h (by simp)]
  rfl

theorem map_fst_rereadFields (fields : List (String × Json)) :
    (rereadFields fields).map (·.1) = fields.map (·.1) := by
  induction fields with
  | nil => rfl
  | cons field fields ih =>
    rw [rereadFields, List.map_cons, List.map_cons, ih]

mutual

theorem reread_of_stable (v : Json) (hv : v.all isStable = true) : v.reread = v := by
  match v with
  | .null | .bool _ | .int _ | .str _ => rfl
  | .float _ => cases hv
  | .arr items =>
    rw [all, Bool.and_eq_true] at hv
    rw [reread, rereadItems_of_stable items hv.2]
  | .obj fields =>
    rw [all, Bool.and_eq_true] at hv
    rw [reread, rereadFields_of_stable fields hv.2]
    exact ofFields_of_ascends hv.1

theorem rereadItems_of_stable (items : List Json) (h : allItems isStable items = true) :
    rereadItems items = items := by
  match items with
  | [] => rfl
  | v :: items =>
    rw [allItems, Bool.and_eq_true] at h
    rw [rereadItems, reread_of_stable v h.1, rereadItems_of_stable items h.2]

theorem rereadFields_of_stable (fields : List (String × Json)) (h : allFields isStable fields = true) :
    rereadFields fields = fields := by
  match fields with
  | [] => rfl
  | (key, v) :: fields =>
    rw [allFields, Bool.and_eq_true] at h
    rw [rereadFields, reread_of_stable v h.1, rereadFields_of_stable fields h.2]

end

/-! ## The ends of written values -/

theorem exists_eq_append_of_digits {cs : List Char} (hne : cs ≠ []) (hcs : ∀ c ∈ cs, c.isDigit = true) :
    ∃ front c, cs = front ++ [c] ∧ c.isDigit = true :=
  ⟨_, _, (List.dropLast_append_getLast hne).symm, hcs _ (List.getLast_mem hne)⟩

/-- A numeral ends with a digit. -/
theorem Numeral.chars_end {n : Numeral} (hn : n.WellFormed) :
    ∃ front c, n.chars = front ++ [c] ∧ c.isDigit = true := by
  cases he : n.exponent with
  | some e =>
    obtain ⟨front, c, hcs, hc⟩ := exists_eq_append_of_digits Nat.toDigits_ne_nil (isDigit_toDigits e.natAbs)
    exact ⟨signChars n.negative ++ (n.whole ++ (fractionChars n.fraction ++
      'e' :: (if e < 0 then '-' else '+') :: front)), c, by simp [chars, he, exponentChars, hcs], hc⟩
  | none =>
    cases hf : n.fraction with
    | some ds =>
      obtain ⟨hne, hds⟩ := hn.fraction_digits ds hf
      obtain ⟨front, c, hcs, hc⟩ := exists_eq_append_of_digits hne hds
      exact ⟨signChars n.negative ++ (n.whole ++ '.' :: front), c,
        by simp [chars, he, hf, exponentChars, fractionChars, hcs], hc⟩
    | none =>
      obtain ⟨front, c, hcs, hc⟩ := exists_eq_append_of_digits hn.whole_ne_nil hn.whole_digits
      exact ⟨signChars n.negative ++ front, c, by simp [chars, he, hf, exponentChars, fractionChars, hcs], hc⟩

/-- A value ends with a visible character. -/
theorem chars_end (v : Json) : ∃ front c, v.chars = front ++ [c] ∧ Text.IsVisible c := by
  cases v with
  | null => exact ⟨"nul".toList, 'l', by decide, by decide⟩
  | bool b =>
    cases b with
    | true => exact ⟨"tru".toList, 'e', by decide, by decide⟩
    | false => exact ⟨"fals".toList, 'e', by decide, by decide⟩
  | int n =>
    obtain ⟨front, c, hcs, hc⟩ := Numeral.chars_end (Numeral.wellFormed_ofInt n)
    exact ⟨front, c, by rw [chars, ← Numeral.chars_ofInt, hcs], isVisible_digit hc⟩
  | float x =>
    obtain ⟨front, c, hcs, hc⟩ := Numeral.chars_end x.wellFormed_numeral
    exact ⟨front, c, by rw [chars, ← x.chars_numeral, hcs], isVisible_digit hc⟩
  | str s => exact ⟨_, '\x22', by rw [chars, quoted], by decide⟩
  | arr items => exact ⟨_, ']', by rw [chars], by decide⟩
  | obj fields => exact ⟨_, '\x7d', by rw [chars], by decide⟩

/-- Written values have no blanks at their ends. -/
theorem trim_text (v : Json) : Text.trim v.text = v.text := by
  obtain ⟨c, cs, hstart, hc, -⟩ := v.chars_start
  obtain ⟨front, d, hend, hd⟩ := v.chars_end
  have hchars : v.text.toList = v.chars := String.toList_ofList
  apply Text.trim_eq_self
  · intro x hx
    rw [hchars, hstart, List.head?_cons, Option.mem_some_iff] at hx
    rw [← hx]
    exact Text.isBlank_of_visible hc
  · intro x hx
    rw [hchars, hend, List.getLast?_append, List.getLast?_singleton, Option.some_or, Option.mem_some_iff] at hx
    rw [← hx]
    exact Text.isBlank_of_visible hd

theorem text_ne_empty (v : Json) : v.text ≠ "" := by
  obtain ⟨c, cs, hcs, -⟩ := v.chars_start
  intro h
  have hchars := congrArg String.toList h
  rw [text, String.toList_ofList, hcs] at hchars
  cases hchars

theorem isEmpty_text (v : Json) : v.text.isEmpty = false := by
  simpa using v.text_ne_empty

/-! ## No control characters -/

def IsPrinted (c : Char) : Prop :=
  0x20 ≤ c.toNat

instance : DecidablePred IsPrinted :=
  fun c => inferInstanceAs (Decidable (0x20 ≤ c.toNat))

theorem isPrinted_digit {c : Char} (h : c.isDigit = true) : IsPrinted c :=
  Nat.le_trans (by decide) (isVisible_digit h).1

theorem Numeral.isPrinted_chars {n : Numeral} (hn : n.WellFormed) : ∀ c ∈ n.chars, IsPrinted c := by
  intro c hc
  rw [Numeral.chars, List.mem_append, List.mem_append, List.mem_append] at hc
  rcases hc with hsign | hwhole | hfraction | hexponent
  · unfold signChars at hsign
    split at hsign
    · rw [List.mem_singleton.1 hsign]
      decide
    · cases hsign
  · exact isPrinted_digit (hn.whole_digits c hwhole)
  · cases hf : n.fraction with
    | none =>
      rw [hf] at hfraction
      cases hfraction
    | some ds =>
      rw [hf, fractionChars, List.mem_cons] at hfraction
      rcases hfraction with rfl | hc
      · decide
      · exact isPrinted_digit ((hn.fraction_digits ds hf).2 c hc)
  · cases he : n.exponent with
    | none =>
      rw [he] at hexponent
      cases hexponent
    | some e =>
      rw [he, exponentChars, List.mem_cons, List.mem_cons] at hexponent
      rcases hexponent with rfl | rfl | hc
      · decide
      · split <;> decide
      · exact isPrinted_digit (isDigit_toDigits _ c hc)

theorem isPrinted_hexDigit {n : Nat} (hn : n < 16) : IsPrinted (hexDigit n) := by
  unfold IsPrinted
  interval_cases n <;> decide

theorem isPrinted_escape (c : Char) : ∀ d ∈ escape c, IsPrinted d := by
  intro d hd
  have hpair : ∀ e, IsPrinted e → d ∈ ['\x5c', e] → IsPrinted d := by
    intro e he hmem
    rw [List.mem_cons, List.mem_singleton] at hmem
    rcases hmem with rfl | rfl
    · decide
    · exact he
  unfold escape at hd
  split_ifs at hd with hquote hslash hback htab hfeed hform hret hcontrol
  · exact hpair '\x22' (by decide) hd
  · exact hpair '\x5c' (by decide) hd
  · exact hpair 'b' (by decide) hd
  · exact hpair 't' (by decide) hd
  · exact hpair 'n' (by decide) hd
  · exact hpair 'f' (by decide) hd
  · exact hpair 'r' (by decide) hd
  · simp only [List.mem_cons, List.not_mem_nil, or_false] at hd
    rcases hd with rfl | rfl | rfl | rfl | rfl | rfl
    · decide
    · decide
    · decide
    · decide
    · exact isPrinted_hexDigit (by omega)
    · exact isPrinted_hexDigit (by omega)
  · rw [List.mem_singleton.1 hd]
    exact Nat.le_of_not_lt hcontrol

theorem isPrinted_quoted (s : String) : ∀ c ∈ quoted s, IsPrinted c := by
  intro c hc
  simp only [quoted, List.cons_append, List.mem_cons, List.mem_append, List.mem_flatMap, List.not_mem_nil,
    or_false] at hc
  rcases hc with rfl | ⟨d, -, hd⟩ | rfl
  · decide
  · exact isPrinted_escape d c hd
  · decide

mutual

/-- No text of a value holds a control character, so it is a part of one line. -/
theorem isPrinted_chars (v : Json) : ∀ c ∈ v.chars, IsPrinted c := by
  intro c hc
  match v with
  | .null => exact List.all_iff_forall_prop.1 (by decide : (chars .null).all (IsPrinted ·) = true) c hc
  | .bool true => exact List.all_iff_forall_prop.1 (by decide : (chars (.bool true)).all (IsPrinted ·) = true) c hc
  | .bool false => exact List.all_iff_forall_prop.1 (by decide : (chars (.bool false)).all (IsPrinted ·) = true) c hc
  | .int n =>
    rw [chars, ← Numeral.chars_ofInt] at hc
    exact Numeral.isPrinted_chars (Numeral.wellFormed_ofInt n) c hc
  | .float x =>
    rw [chars, ← x.chars_numeral] at hc
    exact Numeral.isPrinted_chars x.wellFormed_numeral c hc
  | .str s => exact isPrinted_quoted s c hc
  | .arr items =>
    rw [chars, List.cons_append, List.mem_cons, List.mem_append, List.mem_singleton] at hc
    rcases hc with rfl | hc | rfl
    · decide
    · exact isPrinted_itemChars items c hc
    · decide
  | .obj fields =>
    rw [chars, List.cons_append, List.mem_cons, List.mem_append, List.mem_singleton] at hc
    rcases hc with rfl | hc | rfl
    · decide
    · exact isPrinted_fieldChars fields c hc
    · decide

theorem isPrinted_itemChars (items : List Json) : ∀ c ∈ itemChars items, IsPrinted c := by
  intro c hc
  match items with
  | [] => cases hc
  | [v] => exact isPrinted_chars v c hc
  | v :: w :: items =>
    rw [itemChars_cons_cons, List.mem_append, List.mem_cons] at hc
    rcases hc with hc | rfl | hc
    · exact isPrinted_chars v c hc
    · decide
    · exact isPrinted_itemChars (w :: items) c hc

theorem isPrinted_fieldChars (fields : List (String × Json)) : ∀ c ∈ fieldChars fields, IsPrinted c := by
  intro c hc
  match fields with
  | [] => cases hc
  | [(key, v)] =>
    rw [fieldChars, List.mem_append, List.mem_cons] at hc
    rcases hc with hc | rfl | hc
    · exact isPrinted_quoted key c hc
    · decide
    · exact isPrinted_chars v c hc
  | (key, v) :: field :: fields =>
    rw [fieldChars_cons_cons, List.mem_append, List.mem_append, List.mem_cons, List.mem_cons] at hc
    rcases hc with (hc | rfl | hc) | rfl | hc
    · exact isPrinted_quoted key c hc
    · decide
    · exact isPrinted_chars v c hc
    · decide
    · exact isPrinted_fieldChars (field :: fields) c hc

end

end ModelContext.Json
