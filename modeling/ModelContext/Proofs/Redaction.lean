import ModelContext.Proofs.Encoding
import ModelContext.Server.Redaction

/-!
# Redacted parameters

A redacted value has the form of the value that was given: the same keys, the same lengths and the same
leaves, except that under each sensitive key there is one fixed text. So two values are shown alike exactly
if they differ in nothing but what is held under sensitive keys.
-/

namespace ModelContext

/-! ## Sensitive keys -/

namespace Text

theorem toNat_toLower_of_upper {c : Char} (h : 'A'.val ≤ c.val ∧ c.val ≤ 'Z'.val) :
    c.toLower.toNat = c.toNat + 0x20 := by
  have hhigh : c.val.toNat ≤ 0x5A := h.2
  have hshift : ('a'.val - 'A'.val).toNat = 0x20 := rfl
  have hval : c.toLower.toNat = (c.val + ('a'.val - 'A'.val)).toNat := congrArg Char.toNat (dif_pos h)
  rw [hval, UInt32.toNat_add, hshift]
  exact Nat.mod_eq_of_lt (by omega)

theorem isBlank_toLower (c : Char) : isBlank c.toLower = isBlank c := by
  by_cases hupper : 'A'.val ≤ c.val ∧ c.val ≤ 'Z'.val
  · have hlow : 0x41 ≤ c.toNat := hupper.1
    have hhigh : c.toNat ≤ 0x5A := hupper.2
    have hlower := toNat_toLower_of_upper hupper
    have hvisible : IsVisible c := ⟨by omega, by omega⟩
    have hvisible' : IsVisible c.toLower := ⟨by omega, by omega⟩
    rw [isBlank_of_visible hvisible, isBlank_of_visible hvisible']
  · have hsame : c.toLower = c := dif_neg hupper
    rw [hsame]

theorem trim_lowerAscii (s : String) : trim (lowerAscii s) = lowerAscii (trim s) := by
  have hblank : isBlank ∘ Char.toLower = isBlank := funext isBlank_toLower
  simp only [trim, lowerAscii, String.toList_ofList, strip_map, hblank]

end Text

theorem isSensitiveKey_eq_of_lower {key other : String} (h : Text.lowerAscii key = Text.lowerAscii other) :
    isSensitiveKey key = isSensitiveKey other := by
  have hfolded : Text.lowerAscii (Text.trim key) = Text.lowerAscii (Text.trim other) := by
    rw [← Text.trim_lowerAscii, ← Text.trim_lowerAscii, h]
  rw [isSensitiveKey, isSensitiveKey, hfolded]

theorem isSensitiveKey_pad {front back : String} (hfront : ∀ c ∈ front.toList, Text.isBlank c = true)
    (hback : ∀ c ∈ back.toList, Text.isBlank c = true) (key : String) :
    isSensitiveKey (front ++ key ++ back) = isSensitiveKey key := by
  rw [isSensitiveKey, Text.trim_pad hfront hback, isSensitiveKey]

theorem isSensitiveKey_of_part {key part : String} (hmem : part ∈ sensitiveParts)
    (hpart : part.toList <:+: key.toList.map Char.toLower) : isSensitiveKey key = true := by
  -- The part has no blanks, so it is still there when blanks are cut from both ends.
  have hparts : ∀ part ∈ sensitiveParts, part.toList ≠ [] ∧ part.toList.any Text.isBlank = false := by decide +kernel
  obtain ⟨hne, hblank⟩ := hparts part hmem
  simp only [List.any_eq_false, Bool.not_eq_true] at hblank
  have hhead : ∀ c ∈ part.toList.head?, Text.isBlank c = false := fun c hc => hblank c (List.mem_of_mem_head? hc)
  have hlast : ∀ c ∈ part.toList.getLast?, Text.isBlank c = false := fun c hc => hblank c (List.mem_of_getLast? hc)
  have hfolded : (Text.lowerAscii (Text.trim key)).toList = Text.strip Text.isBlank (key.toList.map Char.toLower) := by
    rw [← Text.trim_lowerAscii, Text.trim, Text.lowerAscii, String.toList_ofList, String.toList_ofList]
  have hoccurs : Text.occursIn part.toList (Text.lowerAscii (Text.trim key)).toList = true := by
    rw [Text.occursIn_iff, hfolded]
    exact Text.infix_strip hpart hne hhead hlast
  rw [isSensitiveKey, Bool.or_eq_true, List.any_eq_true]
  exact Or.inr ⟨part, hmem, hoccurs⟩

/-! ## Places in a value -/

/-- A step into a value: to the member under a key, or to the item at a place. -/
inductive Step where
  | key (name : String)
  | item (place : Nat)
  deriving DecidableEq

def Step.isSensitive : Step → Bool
  | key name => isSensitiveKey name
  | item _ => false

/-- A path that no sensitive key is on. -/
def IsPublic (path : List Step) : Prop :=
  ∀ step ∈ path, step.isSensitive = false

namespace Json

def follow? : Json → Step → Option Json
  | .obj fields, .key name => fields.lookup name
  | .arr items, .item place => items[place]?
  | _, _ => none

def at? (v : Json) : List Step → Option Json
  | [] => some v
  | step :: path => (v.follow? step).bind (·.at? path)

def IsLeaf (v : Json) : Prop :=
  (∀ items, v ≠ .arr items) ∧ ∀ fields, v ≠ .obj fields

theorem redact_of_isLeaf {v : Json} (h : v.IsLeaf) : v.redact = v := by
  cases v with
  | arr items => exact absurd rfl (h.1 items)
  | obj fields => exact absurd rfl (h.2 fields)
  | _ => rfl

theorem redactItems_eq_map (items : List Json) : redactItems items = items.map redact := by
  induction items with
  | nil => rfl
  | cons v items ih => rw [redactItems, ih, List.map_cons]

theorem map_fst_redactFields (fields : Fields) : (redactFields fields).map (·.1) = fields.map (·.1) := by
  induction fields with
  | nil => rfl
  | cons field fields ih => rw [redactFields, List.map_cons, List.map_cons, ih]

theorem lookup_redactFields (fields : Fields) (key : String) :
    (redactFields fields).lookup key =
      (fields.lookup key).map fun v => if isSensitiveKey key then redacted else v.redact := by
  induction fields with
  | nil => rfl
  | cons field fields ih =>
    rw [redactFields, List.lookup_cons, List.lookup_cons, ih]
    cases hkey : key == field.1 with
    | true => rw [beq_iff_eq.1 hkey]; rfl
    | false => rfl

/-- A step from a redacted value leads to the text for secrets, or to a redacted value. -/
theorem follow?_redact (v : Json) (step : Step) :
    v.redact.follow? step = (v.follow? step).map fun w => if step.isSensitive then redacted else w.redact := by
  cases v with
  | arr items =>
    cases step with
    | key name => rfl
    | item place =>
      rw [redact, follow?, follow?, redactItems_eq_map, List.getElem?_map]
      rfl
  | obj fields =>
    cases step with
    | key name => exact lookup_redactFields fields name
    | item place => rfl
  | _ => cases step <;> rfl

/-- Away from sensitive keys there is the redacted form of what was there. -/
theorem at?_redact {path : List Step} (h : IsPublic path) (v : Json) :
    v.redact.at? path = (v.at? path).map redact := by
  induction path generalizing v with
  | nil => rfl
  | cons step path ih =>
    obtain ⟨hstep, hpath⟩ := List.forall_mem_cons.1 h
    rw [at?, at?, follow?_redact, hstep]
    cases v.follow? step with
    | none => rfl
    | some w => exact ih hpath w

theorem at?_append (v : Json) (path later : List Step) : v.at? (path ++ later) = (v.at? path).bind (·.at? later) := by
  induction path generalizing v with
  | nil => rfl
  | cons step path ih =>
    rw [List.cons_append, at?, at?]
    cases v.follow? step with
    | none => rfl
    | some w => exact ih w

/-- A sensitive key that no other one hides is kept, and holds the text for secrets. -/
theorem at?_redact_secret {path : List Step} (h : IsPublic path) {key : String} (hkey : isSensitiveKey key = true)
    {v : Json} (hheld : (v.at? (path ++ [.key key])).isSome = true) :
    v.redact.at? (path ++ [.key key]) = some redacted := by
  rw [at?_append] at hheld
  rw [at?_append, at?_redact h]
  cases hv : v.at? path with
  | none => rw [hv] at hheld; cases hheld
  | some w =>
    rw [hv, Option.bind_some] at hheld
    cases hw : w.follow? (.key key) with
    | none => rw [at?, hw] at hheld; cases hheld
    | some u =>
      rw [Option.map_some, Option.bind_some, at?, follow?_redact, hw]
      have hstep : (Step.key key).isSensitive = true := hkey
      rw [hstep]
      rfl

/-- At no depth does a sensitive key hold anything else. -/
theorem eq_redacted_of_at? {key : String} (hkey : isSensitiveKey key = true) {path : List Step} {v w : Json}
    (h : v.redact.at? (path ++ [.key key]) = some w) : w = redacted := by
  induction path generalizing v with
  | nil =>
    have hstep : (Step.key key).isSensitive = true := hkey
    rw [List.nil_append, at?, follow?_redact, hstep] at h
    cases hv : v.follow? (.key key) with
    | none => rw [hv] at h; cases h
    | some u =>
      rw [hv] at h
      exact (Option.some.inj h).symm
  | cons step path ih =>
    rw [List.cons_append, at?, follow?_redact] at h
    cases hv : v.follow? step with
    | none => rw [hv] at h; cases h
    | some u =>
      rw [hv, Option.map_some, Option.bind_some] at h
      split at h
      · -- The text for secrets has no members.
        cases path with
        | nil => cases h
        | cons other path => cases other <;> cases h
      · exact ih h

example :
    (Json.obj [("Client_Secret", .int 1), ("steps", .arr [.obj [("a", .int 1), ("token", .obj [])]])]).redact =
      .obj [("Client_Secret", redacted), ("steps", .arr [.obj [("a", .int 1), ("token", redacted)]])] := by
  decide +kernel

mutual

/-- In a redacted value there is nothing left to redact. -/
theorem redact_redact (v : Json) : v.redact.redact = v.redact := by
  match v with
  | .null | .bool _ | .int _ | .float _ | .str _ => rfl
  | .arr items => rw [redact, redact, redactItems_redactItems items]
  | .obj fields => rw [redact, redact, redactFields_redactFields fields]

theorem redactItems_redactItems (items : List Json) : redactItems (redactItems items) = redactItems items := by
  match items with
  | [] => rfl
  | v :: items => rw [redactItems, redactItems, redact_redact v, redactItems_redactItems items]

theorem redactFields_redactFields (fields : List (String × Json)) :
    redactFields (redactFields fields) = redactFields fields := by
  match fields with
  | [] => rfl
  | (key, v) :: fields =>
    rw [redactFields, redactFields, redactFields_redactFields fields]
    split
    · rfl
    · rw [redact_redact v]

end

end Json

/-! ## Values that differ in secrets -/

mutual

/-- Two values that differ only in what is held under sensitive keys, at any depth. -/
inductive DifferInSecrets : Json → Json → Prop where
  | same (v : Json) : DifferInSecrets v v
  | arr {items others : List Json} (h : ItemsDifferInSecrets items others) : DifferInSecrets (.arr items) (.arr others)
  | obj {fields others : List (String × Json)} (h : FieldsDifferInSecrets fields others) :
      DifferInSecrets (.obj fields) (.obj others)

inductive ItemsDifferInSecrets : List Json → List Json → Prop where
  | nil : ItemsDifferInSecrets [] []
  | cons {v w : Json} {items others : List Json} (h : DifferInSecrets v w) (hs : ItemsDifferInSecrets items others) :
      ItemsDifferInSecrets (v :: items) (w :: others)

inductive FieldsDifferInSecrets : List (String × Json) → List (String × Json) → Prop where
  | nil : FieldsDifferInSecrets [] []
  | secret {key : String} (hkey : isSensitiveKey key = true) (v w : Json) {fields others : List (String × Json)}
      (hs : FieldsDifferInSecrets fields others) : FieldsDifferInSecrets ((key, v) :: fields) ((key, w) :: others)
  | member (key : String) {v w : Json} (h : DifferInSecrets v w) {fields others : List (String × Json)}
      (hs : FieldsDifferInSecrets fields others) : FieldsDifferInSecrets ((key, v) :: fields) ((key, w) :: others)

end

namespace Json

mutual

theorem redact_eq_of_differ {v w : Json} (h : DifferInSecrets v w) : v.redact = w.redact := by
  match h with
  | .same _ => rfl
  | .arr h => rw [redact, redact, redactItems_eq_of_differ h]
  | .obj h => rw [redact, redact, redactFields_eq_of_differ h]

theorem redactItems_eq_of_differ {items others : List Json} (h : ItemsDifferInSecrets items others) :
    redactItems items = redactItems others := by
  match h with
  | .nil => rfl
  | .cons h hs => rw [redactItems, redactItems, redact_eq_of_differ h, redactItems_eq_of_differ hs]

theorem redactFields_eq_of_differ {fields others : List (String × Json)} (h : FieldsDifferInSecrets fields others) :
    redactFields fields = redactFields others := by
  match h with
  | .nil => rfl
  | .secret hkey _ _ hs => rw [redactFields, redactFields, redactFields_eq_of_differ hs, if_pos hkey, if_pos hkey]
  | .member _ h hs => rw [redactFields, redactFields, redactFields_eq_of_differ hs, redact_eq_of_differ h]

end

mutual

theorem differ_of_redact_eq (v w : Json) (h : v.redact = w.redact) : DifferInSecrets v w := by
  match v, w with
  | .arr items, .arr others =>
    exact .arr (itemsDiffer_of_redactItems_eq items others (Json.arr.inj h))
  | .obj fields, .obj others =>
    exact .obj (fieldsDiffer_of_redactFields_eq fields others (Json.obj.inj h))
  | .null, .null => exact .same _
  | .bool a, .bool b => cases h; exact .same _
  | .int a, .int b => cases h; exact .same _
  | .float a, .float b => cases h; exact .same _
  | .str a, .str b => cases h; exact .same _

theorem itemsDiffer_of_redactItems_eq (items others : List Json) (h : redactItems items = redactItems others) :
    ItemsDifferInSecrets items others := by
  match items, others with
  | [], [] => exact .nil
  | v :: items, w :: others =>
    rw [redactItems, redactItems, List.cons.injEq] at h
    exact .cons (differ_of_redact_eq v w h.1) (itemsDiffer_of_redactItems_eq items others h.2)

theorem fieldsDiffer_of_redactFields_eq (fields others : List (String × Json))
    (h : redactFields fields = redactFields others) : FieldsDifferInSecrets fields others := by
  match fields, others with
  | [], [] => exact .nil
  | (key, v) :: fields, (_, w) :: others =>
    rw [redactFields, redactFields, List.cons.injEq, Prod.mk.injEq] at h
    obtain ⟨⟨rfl, hvalue⟩, hrest⟩ := h
    have hs := fieldsDiffer_of_redactFields_eq fields others hrest
    by_cases hkey : isSensitiveKey key = true
    · exact .secret hkey v w hs
    · rw [if_neg hkey, if_neg hkey] at hvalue
      exact .member key (differ_of_redact_eq v w hvalue) hs

end

/-- Two values are shown alike exactly if they differ in nothing but secrets. -/
theorem redact_eq_iff {v w : Json} : v.redact = w.redact ↔ DifferInSecrets v w :=
  ⟨differ_of_redact_eq v w, redact_eq_of_differ⟩

end Json

end ModelContext
