/-!
# Sessions

A session has an id that no other session has. The store holds the ids of the sessions that were
opened and not closed.
-/

namespace ModelContext.Http

/-- The ids that a store hands out: pairwise different texts that can stand in a header. -/
structure SessionIds where
  text : Nat → String
  injective : ∀ {m n : Nat}, text m = text n → m = n
  ne_empty : ∀ n, text n ≠ ""
  visible : ∀ n, ∀ c ∈ (text n).toList, 0x21 ≤ c.toNat ∧ c.toNat ≤ 0x7E

/-- Ids that count the sessions. -/
def SessionIds.numbered : SessionIds where
  text n := String.ofList ("<session:".toList ++ (Nat.toDigits 10 n ++ ['>']))
  injective {m n} h := by
    have h := List.append_cancel_right (List.append_cancel_left (String.ofList_injective h))
    simpa using congrArg (Nat.ofDigitChars 10 · 0) h
  ne_empty n h := by
    have h := congrArg String.toList h
    simp at h
  visible n c hc := by
    rw [String.toList_ofList, List.mem_append, List.mem_append] at hc
    rcases hc with hc | hc | hc
    · have hall : "<session:".toList.all (fun c => 0x21 ≤ c.toNat && c.toNat ≤ 0x7E) = true := by decide
      simpa using List.all_eq_true.1 hall c hc
    · have hd := Nat.isDigit_of_mem_toDigits (by decide) (by decide) hc
      simp only [Char.isDigit, Bool.and_eq_true, decide_eq_true_eq] at hd
      exact ⟨Nat.le_trans (by decide) hd.1, Nat.le_trans hd.2 (by decide)⟩
    · rw [List.mem_singleton.1 hc]; decide

structure SessionStore where
  /-- How many ids were handed out. -/
  issued : Nat
  /-- The ids of the open sessions. -/
  live : List String
  deriving DecidableEq

namespace SessionStore

def empty : SessionStore :=
  { issued := 0, live := [] }

/-- Opens a session. -/
def create (ids : SessionIds) (store : SessionStore) : String × SessionStore :=
  (ids.text store.issued, { issued := store.issued + 1, live := ids.text store.issued :: store.live })

def contains (store : SessionStore) (id : String) : Bool :=
  store.live.contains id

/-- Closes a session; tells whether it was open. -/
def remove (store : SessionStore) (id : String) : Bool × SessionStore :=
  (store.contains id, { store with live := store.live.erase id })

def size (store : SessionStore) : Nat :=
  store.live.length

def isEmpty (store : SessionStore) : Bool :=
  store.size == 0

end SessionStore

/-- What one may do with a store. -/
inductive StoreCall where
  | create
  | contains (id : String)
  | remove (id : String)
  deriving DecidableEq

/-- What a store answers: the id of a new session, or whether a session was there. -/
@[reducible] def StoreCall.Answer : StoreCall → Type
  | create => String
  | contains _ => Bool
  | remove _ => Bool

/-- Carries out one call, the atomic step of a store. -/
def SessionStore.perform (ids : SessionIds) (store : SessionStore) :
    (call : StoreCall) → call.Answer × SessionStore
  | .create => store.create ids
  | .contains id => (store.contains id, store)
  | .remove id => store.remove id

end ModelContext.Http
