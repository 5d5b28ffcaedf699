import ModelContext.Json.Record

/-!
# Request ids and metadata
-/

namespace ModelContext

/-- The id of a request: a text or a signed 64-bit integer. Progress tokens have the same form. -/
inductive Id where
  | text (s : String)
  | number (n : Int)
  deriving DecidableEq

namespace Id

def ofJson? : Json → Option Id
  | .str s => some (.text s)
  | v => v.int64?.map .number

def toJson : Id → Json
  | text s => .str s
  | number n => .int n

theorem toJson_of_ofJson? {v : Json} {id : Id} (h : ofJson? v = some id) : id.toJson = v := by
  cases v with
  | str s => simp only [ofJson?, Option.some.injEq] at h; subst h; rfl
  | int n =>
    simp only [ofJson?, Json.int64?, Option.map_eq_some_iff] at h
    obtain ⟨m, hm, rfl⟩ := h
    split at hm
    · cases hm; rfl
    · cases hm
  | _ => simp [ofJson?, Json.int64?] at h

end Id

/-- The metadata of a request is an object that may hold a progress token; all else is free. -/
def RequestMeta.ofJson? (v : Json) : Option Fields := do
  let fields ← v.fields?
  let _ ← (Record.named fields).optional 0 "progressToken" Id.ofJson?
  some fields

end ModelContext
