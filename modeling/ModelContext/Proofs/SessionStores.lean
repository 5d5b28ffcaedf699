import Mathlib.Data.List.Induction
import ModelContext.Http.Sessions

/-!
# What a session store holds

A store holds a set of ids: those that it has created and that were not removed since. What it answers to a call, and
how many ids it counts, follows from the calls before and their answers alone, whichever ids they name.
-/

namespace ModelContext.Http

structure StoreEntry where
  call : StoreCall
  answer : call.Answer

namespace StoreEntry

def creates : StoreEntry → Bool
  | ⟨.create, _⟩ => true
  | _ => false

def removes : StoreEntry → Bool
  | ⟨.remove _, there⟩ => there
  | _ => false

theorem countP_removes_singleton (id : String) (there : Bool) :
    [(⟨.remove id, there⟩ : StoreEntry)].countP removes = there.toNat := by
  cases there <;> rfl

end StoreEntry

/-- An id was created, and it was not removed since. -/
def IsHeld (past : List StoreEntry) (id : String) : Prop :=
  ∃ earlier later, past = earlier ++ ⟨.create, id⟩ :: later ∧ ∀ entry ∈ later, entry.call ≠ .remove id

/-- An entry that is right after a history: a created id is new, and all else is told by the ids that are held. -/
inductive Accords (past : List StoreEntry) : StoreEntry → Prop where
  | create {id : String} (hnew : ⟨.create, id⟩ ∉ past) : Accords past ⟨.create, id⟩
  | contains {id : String} {there : Bool} (h : there = true ↔ IsHeld past id) : Accords past ⟨.contains id, there⟩
  | remove {id : String} {there : Bool} (h : there = true ↔ IsHeld past id) : Accords past ⟨.remove id, there⟩

theorem isHeld_concat_iff {past : List StoreEntry} {entry : StoreEntry} {id : String} :
    IsHeld (past ++ [entry]) id ↔ entry = ⟨.create, id⟩ ∨ entry.call ≠ .remove id ∧ IsHeld past id := by
  constructor
  · rintro ⟨earlier, later, hpast, hlater⟩
    cases later using List.reverseRecOn with
    | nil => exact .inl (List.append_singleton_inj.1 hpast).2
    | append_singleton later last =>
      rw [← List.cons_append, ← List.append_assoc] at hpast
      obtain ⟨rfl, rfl⟩ := List.append_singleton_inj.1 hpast
      obtain ⟨hbefore, hlast⟩ := List.forall_mem_append.1 hlater
      exact .inr ⟨hlast entry List.mem_cons_self, earlier, later, rfl, hbefore⟩
  · rintro (rfl | ⟨hentry, earlier, later, rfl, hlater⟩)
    · exact ⟨past, [], rfl, List.forall_mem_nil _⟩
    · refine ⟨earlier, later ++ [entry], by rw [List.append_assoc, List.cons_append], ?_⟩
      exact List.forall_mem_append.2 ⟨hlater, List.forall_mem_singleton.2 hentry⟩

theorem IsHeld.created {past : List StoreEntry} {id : String} (h : IsHeld past id) : ⟨.create, id⟩ ∈ past := by
  obtain ⟨earlier, later, rfl, -⟩ := h
  exact List.mem_append_right _ List.mem_cons_self

/-! ## The invariant -/

/-- What a store has to do with the calls so far. The ids that were created are among those that were issued, so the
next one is new. -/
structure Agrees (ids : SessionIds) (past : List StoreEntry) (store : SessionStore) : Prop where
  live_iff : ∀ id, id ∈ store.live ↔ IsHeld past id
  nodup : store.live.Nodup
  issued : ∀ id, ⟨.create, id⟩ ∈ past → ∃ n < store.issued, id = ids.text n
  counted : store.live.length + past.countP StoreEntry.removes = past.countP StoreEntry.creates

section Step

variable {ids : SessionIds} {past : List StoreEntry} {store : SessionStore}

theorem agrees_empty (ids : SessionIds) : Agrees ids [] .empty where
  live_iff _ := iff_of_false List.not_mem_nil fun h => List.not_mem_nil h.created
  nodup := List.nodup_nil
  issued _ h := absurd h List.not_mem_nil
  counted := rfl

theorem Agrees.contains_iff (h : Agrees ids past store) (id : String) : store.contains id = true ↔ IsHeld past id :=
  List.contains_iff_mem.trans (h.live_iff id)

/-- The next id was not created before. -/
theorem Agrees.fresh (h : Agrees ids past store) : ⟨.create, ids.text store.issued⟩ ∉ past := by
  intro hmem
  obtain ⟨n, hn, heq⟩ := h.issued _ hmem
  exact absurd (ids.injective heq) (Nat.ne_of_gt hn)

theorem Agrees.accords (h : Agrees ids past store) (call : StoreCall) :
    Accords past ⟨call, (store.perform ids call).1⟩ := by
  cases call with
  | create => exact .create h.fresh
  | contains id => exact .contains (h.contains_iff id)
  | remove id => exact .remove (h.contains_iff id)

theorem Agrees.create (h : Agrees ids past store) :
    Agrees ids (past ++ [⟨.create, ids.text store.issued⟩]) (store.create ids).2 where
  live_iff id := by
    rw [isHeld_concat_iff, SessionStore.create, List.mem_cons, h.live_iff]
    refine or_congr ?_ (iff_and_self.2 fun _ => nofun)
    exact ⟨fun heq => by rw [heq], fun heq => by cases heq; rfl⟩
  nodup := List.nodup_cons.2 ⟨fun hmem => h.fresh ((h.live_iff _).1 hmem).created, h.nodup⟩
  issued id hmem := by
    rcases List.mem_append.1 hmem with hmem | hmem
    · obtain ⟨n, hn, heq⟩ := h.issued id hmem
      exact ⟨n, Nat.lt_succ_of_lt hn, heq⟩
    · cases List.mem_singleton.1 hmem
      exact ⟨store.issued, Nat.lt_succ_self _, rfl⟩
  counted := by
    have hcounted := h.counted
    rw [List.countP_append, List.countP_append]
    change store.live.length + 1 + (past.countP StoreEntry.removes + 0) = past.countP StoreEntry.creates + 1
    omega

theorem Agrees.contains (h : Agrees ids past store) (id : String) :
    Agrees ids (past ++ [⟨.contains id, store.contains id⟩]) store where
  live_iff other := by
    rw [isHeld_concat_iff, h.live_iff]
    exact ⟨fun hheld => .inr ⟨nofun, hheld⟩, fun hheld => (hheld.resolve_left nofun).2⟩
  nodup := h.nodup
  issued other hmem := h.issued other ((List.mem_append.1 hmem).resolve_right fun hmem => by
    cases List.mem_singleton.1 hmem)
  counted := by
    rw [List.countP_append, List.countP_append, ← h.counted]
    rfl

/-- One id fewer is counted exactly if it was there to be removed. -/
theorem length_remove (store : SessionStore) (id : String) :
    (store.remove id).2.live.length + (store.remove id).1.toNat = store.live.length := by
  have hlength : (store.remove id).2.live.length = (store.live.erase id).length := rfl
  cases hthere : (store.remove id).1 with
  | false =>
    have hmem : id ∉ store.live := fun hmem => Bool.eq_false_iff.1 hthere (List.contains_iff_mem.2 hmem)
    rw [hlength, List.erase_of_not_mem hmem]
    rfl
  | true =>
    have hmem : id ∈ store.live := List.contains_iff_mem.1 hthere
    rw [hlength, List.length_erase_of_mem hmem]
    exact Nat.sub_add_cancel (List.length_pos_of_mem hmem)

theorem Agrees.remove (h : Agrees ids past store) (id : String) :
    Agrees ids (past ++ [⟨.remove id, store.contains id⟩]) (store.remove id).2 where
  live_iff other := by
    rw [isHeld_concat_iff, SessionStore.remove, h.nodup.mem_erase_iff, h.live_iff]
    constructor
    · rintro ⟨hne, hheld⟩
      exact .inr ⟨fun heq => hne (StoreCall.remove.inj heq).symm, hheld⟩
    · rintro (heq | ⟨hne, hheld⟩)
      · cases heq
      · exact ⟨fun heq => hne (congrArg StoreCall.remove heq.symm), hheld⟩
  nodup := h.nodup.erase id
  issued other hmem := h.issued other ((List.mem_append.1 hmem).resolve_right fun hmem => by
    cases List.mem_singleton.1 hmem)
  counted := by
    have hlength : (store.live.erase id).length + (store.contains id).toNat = store.live.length :=
      length_remove store id
    have hcounted := h.counted
    rw [List.countP_append, List.countP_append, StoreEntry.countP_removes_singleton]
    change (store.live.erase id).length + (past.countP StoreEntry.removes + (store.contains id).toNat) =
      past.countP StoreEntry.creates + 0
    omega

/-- Every call keeps the store in agreement with the history. -/
theorem Agrees.step (h : Agrees ids past store) (call : StoreCall) :
    Agrees ids (past ++ [⟨call, (store.perform ids call).1⟩]) (store.perform ids call).2 := by
  cases call with
  | create => exact h.create
  | contains id => exact h.contains id
  | remove id => exact h.remove id

end Step

/-! ## Runs -/

namespace SessionStore

def performAll (ids : SessionIds) (store : SessionStore) : List StoreCall → List StoreEntry × SessionStore
  | [] => ([], store)
  | call :: later =>
    let (answer, store) := store.perform ids call
    let (entries, store) := store.performAll ids later
    (⟨call, answer⟩ :: entries, store)

theorem performAll_cons (ids : SessionIds) (store : SessionStore) (call : StoreCall) (later : List StoreCall) :
    store.performAll ids (call :: later) =
      (⟨call, (store.perform ids call).1⟩ :: ((store.perform ids call).2.performAll ids later).1,
        ((store.perform ids call).2.performAll ids later).2) := rfl

end SessionStore

section Runs

variable {ids : SessionIds} {past : List StoreEntry} {store : SessionStore}

theorem Agrees.performAll (h : Agrees ids past store) (calls : List StoreCall) :
    Agrees ids (past ++ (store.performAll ids calls).1) (store.performAll ids calls).2 := by
  induction calls generalizing past store with
  | nil =>
    rw [SessionStore.performAll, List.append_nil]
    exact h
  | cons call later ih =>
    have hlater := ih (h.step call)
    rw [List.append_assoc, List.singleton_append] at hlater
    exact hlater

/-- Each call in a run is answered as the ones before it tell. -/
theorem Agrees.accords_performAll (h : Agrees ids past store) {calls : List StoreCall} {earlier later : List StoreEntry}
    {entry : StoreEntry} (hrun : (store.performAll ids calls).1 = earlier ++ entry :: later) :
    Accords (past ++ earlier) entry := by
  induction calls generalizing past store earlier with
  | nil => exact absurd hrun.symm (by simp [SessionStore.performAll])
  | cons call rest ih =>
    rw [SessionStore.performAll_cons] at hrun
    cases earlier with
    | nil =>
      obtain ⟨rfl, -⟩ := List.cons.inj hrun
      rw [List.append_nil]
      exact h.accords call
    | cons first earlier =>
      obtain ⟨rfl, hrest⟩ := List.cons.inj hrun
      have hentry := ih (h.step call) hrest
      rw [List.append_assoc, List.singleton_append] at hentry
      exact hentry

theorem map_call_performAll (ids : SessionIds) (store : SessionStore) (calls : List StoreCall) :
    (store.performAll ids calls).1.map (·.call) = calls := by
  induction calls generalizing store with
  | nil => rfl
  | cons call later ih => rw [SessionStore.performAll_cons, List.map_cons, ih]

end Runs

structure HoldsSet (ids : SessionIds) (past : List StoreEntry) (store : SessionStore) : Prop where
  /-- Each call was answered as the ones before it tell. -/
  answered : ∀ earlier entry later, past = earlier ++ entry :: later → Accords earlier entry
  contains_iff : ∀ id, store.contains id = true ↔ IsHeld past id
  /-- Looking for an id changes nothing. -/
  looked : ∀ id, store.perform ids (.contains id) = (store.contains id, store)
  /-- A new id is there once it is created, and the others stay as they are. -/
  created : ¬IsHeld past (store.create ids).1 ∧
    ∀ id, (store.create ids).2.contains id = true ↔ id = (store.create ids).1 ∨ store.contains id = true
  /-- An id is told to be removed exactly if it was there just before, and the others stay as they are. -/
  removed : ∀ id, ((store.remove id).1 = true ↔ store.contains id = true) ∧
    ∀ other, (store.remove id).2.contains other = true ↔ other ≠ id ∧ store.contains other = true
  /-- There are as many ids as were created and not removed. -/
  counted : store.size + past.countP StoreEntry.removes = past.countP StoreEntry.creates
  isEmpty_iff : store.isEmpty = true ↔ past.countP StoreEntry.creates = past.countP StoreEntry.removes

theorem Agrees.isEmpty_iff {ids : SessionIds} {past : List StoreEntry} {store : SessionStore}
    (h : Agrees ids past store) :
    store.isEmpty = true ↔ past.countP StoreEntry.creates = past.countP StoreEntry.removes := by
  have hcounted := h.counted
  rw [SessionStore.isEmpty, SessionStore.size, beq_iff_eq]
  omega

/-- Whatever is asked of a store that is empty at first, it holds the ids that it created and that were not removed
since, and answers every call by them. -/
theorem store_holds_set (ids : SessionIds) (calls : List StoreCall) :
    (SessionStore.empty.performAll ids calls).1.map (·.call) = calls ∧
      HoldsSet ids (SessionStore.empty.performAll ids calls).1 (SessionStore.empty.performAll ids calls).2 := by
  refine ⟨map_call_performAll ids .empty calls, ?_⟩
  have hrun := (agrees_empty ids).performAll calls
  rw [List.nil_append] at hrun
  constructor
  case answered => exact fun earlier entry later hpast => (agrees_empty ids).accords_performAll hpast
  case contains_iff => exact hrun.contains_iff
  case looked => exact fun _ => rfl
  case created =>
    refine ⟨fun hheld => hrun.fresh hheld.created, fun id => ?_⟩
    rw [SessionStore.contains, SessionStore.contains, List.contains_iff_mem, List.contains_iff_mem]
    exact List.mem_cons
  case removed =>
    refine fun id => ⟨Iff.rfl, fun other => ?_⟩
    rw [SessionStore.contains, SessionStore.contains, List.contains_iff_mem, List.contains_iff_mem]
    exact hrun.nodup.mem_erase_iff
  case counted => exact hrun.counted
  case isEmpty_iff => exact hrun.isEmpty_iff

end ModelContext.Http
