import ModelContext.Proofs.ClientSessions
import Mathlib.Data.Finset.Card

/-!
# Walks over pages

A walk reads the pages of a listing one after the other, each at the cursor that the page before it has handed out. It
ends with the items of all pages if a page hands out no cursor, and with an error if a request fails or a cursor comes a
second time. So a server with few cursors gets few requests, whatever it answers.
-/

namespace ModelContext

namespace Session

/-! ## Pages -/

section Pages

variable {σ : Type} {t : Transport σ} {listing : Listing} {s now s' : Session σ} {cursor last : Option String}
  {pages : List (Page listing.Item)} {items front : List listing.Item} {seen more : List String} {budget : Nat}
  {outcome : Except ClientError (List listing.Item)}

def handedOut (pages : List (Page listing.Item)) : List String :=
  pages.filterMap (·.nextCursor)

def gathered (pages : List (Page listing.Item)) : List listing.Item :=
  pages.flatMap (·.items)

/-- Pages are read one after the other from a cursor on, and the last of them hands out the next cursor. -/
inductive Reads (t : Transport σ) (listing : Listing) :
    Session σ → Option String → List (Page listing.Item) → Session σ → Option String → Prop where
  | refl (s : Session σ) (cursor : Option String) : Reads t listing s cursor [] s cursor
  | next {s now s' : Session σ} {cursor last : Option String} {page : Page listing.Item} {next : String}
      {pages : List (Page listing.Item)} (hpage : s.page t listing cursor = (.ok page, now))
      (hnext : page.nextCursor = some next) (hrest : Reads t listing now (some next) pages s' last) :
      Reads t listing s cursor (page :: pages) s' last

/-- How a walk ends that has seen some cursors and gathered some items: with a page that hands out no cursor or one that
was seen, or with a request that fails. -/
inductive Stops (t : Transport σ) (listing : Listing) (seen : List String) (items : List listing.Item) (s : Session σ)
    (cursor : Option String) : Except ClientError (List listing.Item) → Session σ → Prop where
  | done {page : Page listing.Item} {s' : Session σ} (hpage : s.page t listing cursor = (.ok page, s'))
      (hnext : page.nextCursor = none) : Stops t listing seen items s cursor (.ok (items ++ page.items)) s'
  | repeated {page : Page listing.Item} {s' : Session σ} {next : String}
      (hpage : s.page t listing cursor = (.ok page, s')) (hnext : page.nextCursor = some next) (hseen : next ∈ seen) :
      Stops t listing seen items s cursor (.error (repeatedCursor listing next)) s'
  | failed {e : ClientError} {s' : Session σ} (hpage : s.page t listing cursor = (.error e, s')) :
      Stops t listing seen items s cursor (.error e) s'

theorem handedOut_cons {page : Page listing.Item} {next : String} (hnext : page.nextCursor = some next) :
    handedOut (page :: pages) = next :: handedOut pages :=
  List.filterMap_cons_some hnext

theorem Reads.length_handedOut (h : Reads t listing s cursor pages s' last) : (handedOut pages).length = pages.length := by
  induction h with
  | refl => rfl
  | next _ hnext _ ih => rw [handedOut_cons hnext, List.length_cons, List.length_cons, ih]

theorem gathered_concat (pages : List (Page listing.Item)) (page : Page listing.Item) :
    gathered (pages ++ [page]) = gathered pages ++ page.items := by
  rw [gathered, List.flatMap_append, List.flatMap_singleton, gathered]

theorem Stops.mono (h : Stops t listing seen items s cursor outcome s') (hsub : seen ⊆ more) :
    Stops t listing more items s cursor outcome s' := by
  cases h with
  | done hpage hnext => exact .done hpage hnext
  | repeated hpage hnext hseen => exact .repeated hpage hnext (hsub hseen)
  | failed hpage => exact .failed hpage

theorem stops_append_iff : Stops t listing seen (front ++ items) s cursor outcome s' ↔
    ∃ rest, Stops t listing seen items s cursor rest s' ∧ outcome = rest.map (front ++ ·) := by
  constructor
  · intro h
    cases h with
    | done hpage hnext => exact ⟨_, .done hpage hnext, by rw [Except.map, List.append_assoc]⟩
    | repeated hpage hnext hseen => exact ⟨_, .repeated hpage hnext hseen, rfl⟩
    | failed hpage => exact ⟨_, .failed hpage, rfl⟩
  · rintro ⟨rest, h, rfl⟩
    cases h with
    | done hpage hnext =>
      rw [Except.map, ← List.append_assoc]
      exact .done hpage hnext
    | repeated hpage hnext hseen => exact .repeated hpage hnext hseen
    | failed hpage => exact .failed hpage

/-! ## The pages of a walk -/

def Fresh (seen cursors : List String) : Prop :=
  cursors.Nodup ∧ cursors.Disjoint seen

theorem fresh_nil (seen : List String) : Fresh seen [] :=
  ⟨List.nodup_nil, List.disjoint_nil_left seen⟩

theorem fresh_cons_iff {next : String} {cursors : List String} :
    Fresh seen (next :: cursors) ↔ next ∉ seen ∧ Fresh (next :: seen) cursors := by
  rw [Fresh, Fresh, List.nodup_cons, List.disjoint_cons_left, List.disjoint_cons_right]
  tauto

/-- After a page a walk stops, or it goes on at a cursor that it has not seen. -/
theorem stops_or_next (t : Transport σ) (listing : Listing) (seen : List String) (s : Session σ) (cursor : Option String) :
    (∃ outcome s', Stops t listing seen [] s cursor outcome s') ∨
      ∃ page now next, s.page t listing cursor = (.ok page, now) ∧ page.nextCursor = some next ∧ next ∉ seen := by
  cases hpage : s.page t listing cursor with
  | mk answer now =>
    cases answer with
    | error e => exact .inl ⟨_, _, .failed hpage⟩
    | ok page =>
      cases hnext : page.nextCursor with
      | none => exact .inl ⟨_, _, .done hpage hnext⟩
      | some next =>
        by_cases hseen : next ∈ seen
        · exact .inl ⟨_, _, .repeated hpage hnext hseen⟩
        · exact .inr ⟨page, now, next, rfl, hnext, hseen⟩

theorem walk_of_stops (h : Stops t listing seen [] s cursor outcome s') :
    s.walk t listing seen cursor (budget + 1) = some (outcome, s') := by
  cases h with
  | done hpage hnext =>
    rw [walk, hpage]
    dsimp only
    rw [hnext]
    rfl
  | repeated hpage hnext hseen =>
    rw [walk, hpage]
    dsimp only
    rw [hnext]
    exact if_pos hseen
  | failed hpage => rw [walk, hpage]

theorem walk_of_next {page : Page listing.Item} {next : String} (hpage : s.page t listing cursor = (.ok page, now))
    (hnext : page.nextCursor = some next) (hseen : next ∉ seen) :
    s.walk t listing seen cursor (budget + 1) =
      (now.walk t listing (next :: seen) (some next) budget).map fun (rest, s) => (rest.map (page.items ++ ·), s) := by
  rw [walk, hpage]
  dsimp only
  rw [hnext]
  exact if_neg hseen

theorem walk_of_reads (hreads : Reads t listing s cursor pages now last) (hfresh : Fresh seen (handedOut pages))
    (hstops : Stops t listing (handedOut pages ++ seen) (gathered pages) now last outcome s')
    (hbudget : pages.length < budget) :
    s.walk t listing seen cursor budget = some (outcome, s') := by
  obtain ⟨budget, rfl⟩ := Nat.exists_eq_succ_of_ne_zero (Nat.ne_of_gt (Nat.zero_lt_of_lt hbudget))
  induction hreads generalizing seen budget outcome with
  | refl s cursor => exact walk_of_stops hstops
  | next hpage hnext _ ih =>
    rw [handedOut_cons hnext] at hfresh hstops
    obtain ⟨hseen, hfresh⟩ := fresh_cons_iff.1 hfresh
    obtain ⟨rest, hrest, rfl⟩ := stops_append_iff.1 hstops
    have hlength := Nat.lt_of_succ_lt_succ hbudget
    obtain ⟨budget, rfl⟩ := Nat.exists_eq_succ_of_ne_zero (Nat.ne_of_gt (Nat.zero_lt_of_lt hlength))
    rw [walk_of_next hpage hnext hseen, ih hfresh (hrest.mono List.perm_middle.symm.subset) budget hlength]
    rfl

/-- A walk reads fresh pages until it stops or its budget is spent. -/
theorem exists_reads_of_walk (t : Transport σ) (listing : Listing) (seen : List String) (s : Session σ)
    (cursor : Option String) (budget : Nat) :
    ∃ pages now last, Reads t listing s cursor pages now last ∧ Fresh seen (handedOut pages) ∧
      ((s.walk t listing seen cursor budget = none ∧ pages.length = budget) ∨
        ∃ outcome s', s.walk t listing seen cursor budget = some (outcome, s') ∧
          Stops t listing (handedOut pages ++ seen) (gathered pages) now last outcome s' ∧ pages.length < budget) := by
  induction budget generalizing s seen cursor with
  | zero => exact ⟨[], s, cursor, .refl s cursor, fresh_nil seen, .inl ⟨rfl, rfl⟩⟩
  | succ budget ih =>
    rcases stops_or_next t listing seen s cursor with ⟨outcome, s', hstops⟩ | ⟨page, now, next, hpage, hnext, hseen⟩
    · exact ⟨[], s, cursor, .refl s cursor, fresh_nil seen,
        .inr ⟨outcome, s', walk_of_stops hstops, hstops, Nat.succ_pos _⟩⟩
    · obtain ⟨pages, after, last, hreads, hfresh, hends⟩ := ih (next :: seen) now (some next)
      rw [walk_of_next hpage hnext hseen]
      refine ⟨page :: pages, after, last, .next hpage hnext hreads, ?_, ?_⟩
      · rw [handedOut_cons hnext]
        exact fresh_cons_iff.2 ⟨hseen, hfresh⟩
      · rw [handedOut_cons hnext]
        rcases hends with ⟨hnone, hlength⟩ | ⟨rest, s', hwalk, hstops, hlength⟩
        · exact .inl ⟨by rw [hnone]; rfl, congrArg Nat.succ hlength⟩
        · refine .inr ⟨rest.map (page.items ++ ·), s', by rw [hwalk]; rfl, ?_, Nat.succ_lt_succ hlength⟩
          exact stops_append_iff.2 ⟨rest, hstops.mono List.perm_middle.subset, rfl⟩

theorem listAll_eq_some_iff : s.listAll t listing budget = some (outcome, s') ↔
    ∃ pages now last, Reads t listing s none pages now last ∧ (handedOut pages).Nodup ∧
      Stops t listing (handedOut pages) (gathered pages) now last outcome s' ∧ pages.length < budget := by
  constructor
  · intro h
    obtain ⟨pages, now, last, hreads, hfresh, hends⟩ := exists_reads_of_walk t listing [] s none budget
    rw [listAll] at h
    rcases hends with ⟨hnone, -⟩ | ⟨rest, final, hwalk, hstops, hlength⟩
    · rw [h] at hnone
      cases hnone
    · rw [h] at hwalk
      cases hwalk
      rw [List.append_nil] at hstops
      exact ⟨pages, now, last, hreads, hfresh.1, hstops, hlength⟩
  · rintro ⟨pages, now, last, hreads, hnodup, hstops, hlength⟩
    rw [← List.append_nil (handedOut pages)] at hstops
    exact walk_of_reads hreads ⟨hnodup, List.disjoint_nil_right _⟩ hstops hlength

/-- A walk that does not end has been handed out as many cursors as it has read pages. -/
theorem exists_reads_of_listAll_eq_none (h : s.listAll t listing budget = none) :
    ∃ pages now last, Reads t listing s none pages now last ∧ (handedOut pages).Nodup ∧ pages.length = budget := by
  obtain ⟨pages, now, last, hreads, hfresh, hends⟩ := exists_reads_of_walk t listing [] s none budget
  rw [listAll] at h
  rcases hends with ⟨-, hlength⟩ | ⟨rest, final, hwalk, -, -⟩
  · exact ⟨pages, now, last, hreads, hfresh.1, hlength⟩
  · rw [h] at hwalk
    cases hwalk

end Pages

/-! ## The requests of a walk -/

section Requests

variable {σ : Type} {t : Transport σ} {listing : Listing} {s now s' : Session (List Json × σ)} {cursor last : Option String}
  {pages : List (Page listing.Item)} {items : List listing.Item} {seen : List String}
  {outcome : Except ClientError (List listing.Item)}

/-- The requests for the pages at cursors, with ids from a number on. -/
def requestsAt (listing : Listing) (id : Int64) : List (Option String) → List Json
  | [] => []
  | cursor :: later =>
    requestJson (.int id.toInt) listing.methodName (cursorParams cursor) :: requestsAt listing (id + 1) later

theorem requestsAt_cons (id : Int64) (cursor : Option String) (cursors : List (Option String)) :
    requestsAt listing id (cursor :: cursors) = requestsAt listing id [cursor] ++ requestsAt listing (id + 1) cursors := rfl

theorem length_requestsAt (id : Int64) (cursors : List (Option String)) :
    (requestsAt listing id cursors).length = cursors.length := by
  induction cursors generalizing id with
  | nil => rfl
  | cons cursor later ih => rw [requestsAt, List.length_cons, ih, List.length_cons]

/-- To read a page, one request is sent. -/
theorem sent_page (hknown : s.server.isSome = true) {answer : Except ClientError (Page listing.Item)}
    (hpage : s.page t.recording listing cursor = (answer, s')) :
    s'.server = s.server ∧ s'.nextId = s.nextId + 1 ∧ s'.link.1 = s.link.1 ++ requestsAt listing s.nextId [cursor] := by
  rw [page, request_eq hknown, send_eq] at hpage
  cases hpage
  exact ⟨rfl, rfl, rfl⟩

/-- The requests for pages that were read, and the one for the page that is read next. -/
theorem Reads.sent (h : Reads t.recording listing s cursor pages now last) (hknown : s.server.isSome = true) :
    now.server = s.server ∧ now.link.1 ++ requestsAt listing now.nextId [last] =
      s.link.1 ++ requestsAt listing s.nextId (cursor :: (handedOut pages).map some) := by
  induction h with
  | refl => exact ⟨rfl, rfl⟩
  | next hpage hnext _ ih =>
    obtain ⟨hserver, hid, hsent⟩ := sent_page hknown hpage
    obtain ⟨hserver', hsent'⟩ := ih (hserver ▸ hknown)
    refine ⟨hserver'.trans hserver, ?_⟩
    rw [hsent', hsent, hid, handedOut_cons hnext, List.map_cons, requestsAt_cons _ _ (_ :: _), List.append_assoc]

theorem Stops.sent (h : Stops t.recording listing seen items s cursor outcome s') (hknown : s.server.isSome = true) :
    s'.link.1 = s.link.1 ++ requestsAt listing s.nextId [cursor] := by
  cases h with
  | done hpage _ => exact (sent_page hknown hpage).2.2
  | repeated hpage _ _ => exact (sent_page hknown hpage).2.2
  | failed hpage => exact (sent_page hknown hpage).2.2

end Requests

structure WalksPages {σ : Type} (t : Transport σ) (listing : Listing) (s : Session (List Json × σ)) : Prop where
  /-- A walk reads pages at fresh cursors until it stops. It has an outcome if there is one page less than its
  budget. -/
  ends_iff : ∀ budget outcome s', s.listAll t.recording listing budget = some (outcome, s') ↔
    ∃ pages now last, Reads t.recording listing s none pages now last ∧ (handedOut pages).Nodup ∧
      Stops t.recording listing (handedOut pages) (gathered pages) now last outcome s' ∧ pages.length < budget
  /-- The items are those of all pages, none of which fails or hands out a cursor again, and the last of which hands out
  none. -/
  ok_iff : ∀ items, (∃ budget s', s.listAll t.recording listing budget = some (.ok items, s')) ↔
    ∃ pages page now last s', Reads t.recording listing s none pages now last ∧ (handedOut pages).Nodup ∧
      now.page t.recording listing last = (.ok page, s') ∧ page.nextCursor = none ∧ items = gathered (pages ++ [page])
  /-- The first page is asked for without a cursor, and every other page at the cursor that was handed out before it:
  the requests for the pages that were read, and the one that is made next, whether the walk ends or not. -/
  asks : s.server ≠ none → ∀ pages now last, Reads t.recording listing s none pages now last →
    now.link.1 ++ [requestJson (.int now.nextId.toInt) listing.methodName (cursorParams last)] =
      s.link.1 ++ requestsAt listing s.nextId (none :: (handedOut pages).map some)
  /-- A walk that stops sends no more than these. -/
  sent : s.server ≠ none → ∀ pages now last outcome s', Reads t.recording listing s none pages now last →
    Stops t.recording listing (handedOut pages) (gathered pages) now last outcome s' →
    s'.link.1 = s.link.1 ++ requestsAt listing s.nextId (none :: (handedOut pages).map some)
  /-- Without a handshake nothing is asked. -/
  early : s.server = none → ∀ budget, 0 < budget →
    s.listAll t.recording listing budget = some (.error .notInitialized, s)
  /-- If all cursors come from a set, a walk ends with at most one request more than the set has members. -/
  bounded : ∀ cursors : Finset String,
    (∀ pages now last, Reads t.recording listing s none pages now last → ∀ cursor ∈ handedOut pages, cursor ∈ cursors) →
    ∀ budget, cursors.card < budget → ∃ outcome s' requests, s.listAll t.recording listing budget = some (outcome, s') ∧
      s'.link.1 = s.link.1 ++ requests ∧ requests.length ≤ cursors.card + 1

theorem session_walks_pages {σ : Type} (t : Transport σ) (listing : Listing) (s : Session (List Json × σ)) :
    WalksPages t listing s := by
  have hsent : s.server ≠ none → ∀ pages now last outcome s', Reads t.recording listing s none pages now last →
      Stops t.recording listing (handedOut pages) (gathered pages) now last outcome s' →
      s'.link.1 = s.link.1 ++ requestsAt listing s.nextId (none :: (handedOut pages).map some) := by
    intro hknown pages now last outcome s' hreads hstops
    obtain ⟨hserver, hrequests⟩ := hreads.sent (Option.isSome_iff_ne_none.2 hknown)
    rw [hstops.sent (hserver ▸ Option.isSome_iff_ne_none.2 hknown), hrequests]
  constructor
  case ends_iff => exact fun _ _ _ => listAll_eq_some_iff
  case ok_iff =>
    intro items
    constructor
    · rintro ⟨budget, s', h⟩
      obtain ⟨pages, now, last, hreads, hnodup, hstops, -⟩ := listAll_eq_some_iff.1 h
      generalize hitems : Except.ok items = outcome at hstops
      cases hstops with
      | @done page s' hpage hnext =>
        refine ⟨pages, page, now, last, s', hreads, hnodup, hpage, hnext, ?_⟩
        cases hitems
        exact (gathered_concat pages page).symm
      | repeated => cases hitems
      | failed => cases hitems
    · rintro ⟨pages, page, now, last, s', hreads, hnodup, hpage, hnext, rfl⟩
      refine ⟨pages.length + 1, s', listAll_eq_some_iff.2 ⟨pages, now, last, hreads, hnodup, ?_, Nat.lt_succ_self _⟩⟩
      rw [gathered_concat]
      exact .done hpage hnext
  case asks => exact fun hknown pages now last hreads => (hreads.sent (Option.isSome_iff_ne_none.2 hknown)).2
  case sent => exact hsent
  case early => exact fun hnone budget hbudget => listAll_early hnone listing hbudget
  case bounded =>
    intro cursors hcursors budget hbudget
    -- Pages that are read hand out as many cursors, all of them different.
    have hlength : ∀ {pages now last}, Reads t.recording listing s none pages now last → (handedOut pages).Nodup →
        pages.length ≤ cursors.card := by
      intro pages now last hreads hnodup
      rw [← hreads.length_handedOut, ← List.toFinset_card_of_nodup hnodup]
      exact Finset.card_le_card fun cursor hmem => hcursors _ _ _ hreads _ (List.mem_toFinset.1 hmem)
    cases hwalk : s.listAll t.recording listing budget with
    | none =>
      obtain ⟨pages, now, last, hreads, hnodup, heq⟩ := exists_reads_of_listAll_eq_none hwalk
      exact absurd (heq ▸ hlength hreads hnodup) (Nat.not_le.2 hbudget)
    | some result =>
      obtain ⟨outcome, s'⟩ := result
      by_cases hknown : s.server = none
      · rw [listAll_early hknown listing (Nat.zero_lt_of_lt hbudget)] at hwalk
        cases hwalk
        exact ⟨_, _, [], rfl, (List.append_nil _).symm, Nat.zero_le _⟩
      · obtain ⟨pages, now, last, hreads, hnodup, hstops, -⟩ := listAll_eq_some_iff.1 hwalk
        refine ⟨outcome, s', _, rfl, hsent hknown _ _ _ _ _ hreads hstops, ?_⟩
        rw [length_requestsAt, List.length_cons, List.length_map, hreads.length_handedOut]
        exact Nat.succ_le_succ (hlength hreads hnodup)

end Session
end ModelContext
