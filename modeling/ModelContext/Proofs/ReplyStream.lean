import ModelContext.Proofs.Delivery
import ModelContext.Proofs.Outcomes
import Mathlib.Data.List.Flatten

/-!
# The output of a process, read send by send

A send to a process reads lines from where the send before has stopped, up to the answer to its message or to a line
that cannot be read. So no line is read twice, whatever the process writes and whichever sends fail, and the answers
come in the order of the lines. A message with a new id never gets the late answer to an earlier one.
-/

namespace ModelContext

/-! ## Equal values -/

theorem Double.same_iff {x y : Double} : x.same y = true ↔ x = y ∨ x.isZero = true ∧ y.isZero = true := by
  simp only [same, isZero, Bool.and_eq_true, Bool.or_eq_true, beq_iff_eq]
  constructor
  · rintro ⟨hmagnitude, hsign | hzero⟩
    · left
      cases x
      cases y
      cases hmagnitude
      cases hsign
      rfl
    · exact .inr ⟨hzero, hmagnitude ▸ hzero⟩
  · rintro (rfl | ⟨hx, hy⟩)
    · exact ⟨rfl, .inl rfl⟩
    · exact ⟨Fin.ext (hx.trans hy.symm), .inr hx⟩

theorem Double.same_of_same {x y z : Double} (hy : x.same y = true) (hz : x.same z = true) : y.same z = true := by
  rw [same_iff] at *
  rcases hy with rfl | ⟨hx, hy⟩
  · exact hz
  · rcases hz with rfl | ⟨-, hz⟩
    · exact .inr ⟨hy, hx⟩
    · exact .inr ⟨hy, hz⟩

namespace Json

theorem exists_float_of_same {x : Double} {v : Json} (h : same (.float x) v = true) :
    ∃ y, v = .float y ∧ x.same y = true := by
  cases v <;> simp_all [same]

theorem exists_arr_of_same {items : List Json} {v : Json} (h : same (.arr items) v = true) :
    ∃ others, v = .arr others ∧ sameItems items others = true := by
  cases v <;> simp_all [same]

theorem exists_obj_of_same {fields : Fields} {v : Json} (h : same (.obj fields) v = true) :
    ∃ others, v = .obj others ∧ sameFields fields others = true := by
  cases v <;> simp_all [same]

/-- Values without parts are equal as they stand. -/
theorem eq_of_same {w v : Json} (hfloat : ∀ x, w ≠ .float x) (harr : ∀ items, w ≠ .arr items)
    (hobj : ∀ fields, w ≠ .obj fields) (h : w.same v = true) : v = w := by
  cases w <;> cases v <;> simp_all [same]

mutual

/-- Values that equal one value are equal. -/
theorem same_of_same : ∀ (w : Json) {v v' : Json}, w.same v = true → w.same v' = true → v.same v' = true
  | .float x, v, v', h, h' => by
    obtain ⟨y, rfl, hy⟩ := exists_float_of_same h
    obtain ⟨z, rfl, hz⟩ := exists_float_of_same h'
    exact Double.same_of_same hy hz
  | .arr items, v, v', h, h' => by
    obtain ⟨vs, rfl, hvs⟩ := exists_arr_of_same h
    obtain ⟨vs', rfl, hvs'⟩ := exists_arr_of_same h'
    exact sameItems_of_same items hvs hvs'
  | .obj fields, v, v', h, h' => by
    obtain ⟨fs, rfl, hfs⟩ := exists_obj_of_same h
    obtain ⟨fs', rfl, hfs'⟩ := exists_obj_of_same h'
    exact sameFields_of_same fields hfs hfs'
  | .null, v, v', h, h' => by
    cases eq_of_same (by simp) (by simp) (by simp) h
    exact h'
  | .bool b, v, v', h, h' => by
    cases eq_of_same (by simp) (by simp) (by simp) h
    exact h'
  | .int n, v, v', h, h' => by
    cases eq_of_same (by simp) (by simp) (by simp) h
    exact h'
  | .str s, v, v', h, h' => by
    cases eq_of_same (by simp) (by simp) (by simp) h
    exact h'

theorem sameItems_of_same : ∀ (ws : List Json) {vs vs' : List Json},
    sameItems ws vs = true → sameItems ws vs' = true → sameItems vs vs' = true
  | [], [], _, _, h' => h'
  | w :: ws, v :: vs, v' :: vs', h, h' => by
    rw [sameItems, Bool.and_eq_true] at *
    exact ⟨same_of_same w h.1 h'.1, sameItems_of_same ws h.2 h'.2⟩

theorem sameFields_of_same : ∀ (ws : Fields) {vs vs' : Fields},
    sameFields ws vs = true → sameFields ws vs' = true → sameFields vs vs' = true
  | [], [], _, _, h' => h'
  | (k, w) :: ws, (l, v) :: vs, (l', v') :: vs', h, h' => by
    rw [sameFields, Bool.and_eq_true, Bool.and_eq_true, beq_iff_eq] at *
    exact ⟨⟨h.1.1.symm.trans h'.1.1, same_of_same w h.1.2 h'.1.2⟩, sameFields_of_same ws h.2 h'.2⟩

end

end Json

/-- The pieces of a stream end their lines, but for the last that is not empty. So the lines of the stream are
theirs. -/
theorem Text.lines_flatten {α : Type} [DecidableEq α] {ret feed : α} {pieces : List (List α)}
    (h : pieces.Pairwise fun piece later => EndsLine feed piece ∨ later = []) :
    lines ret feed pieces.flatten = pieces.flatMap (lines ret feed) := by
  induction h with
  | nil => rfl
  | @cons piece later hpiece _ ih =>
    rw [List.flatten_cons, List.flatMap_cons, ← ih]
    by_cases hends : EndsLine feed piece
    · exact lines_append hends later.flatten
    · have hnone : later.flatten = [] :=
        List.flatten_eq_nil_iff.2 fun other hother => (hpiece other hother).resolve_left hends
      rw [hnone, List.append_nil]
      exact (List.append_nil _).symm

namespace ChildLink

variable {π : Type} {id v : Json} {line : Bytes} {lines unread left : List Bytes} {answer : Except ClientError Json}

/-! ## One line -/

/-- The value that a line says, if it is the text of one with blanks around it. -/
def valueIn? (line : Bytes) : Option Json :=
  line.toText?.bind fun text => Json.parse? (Text.trim text)

/-- A value answers the request with an id: it is an object with a result or an error, and its id equals that id. -/
def IsAnswerTo (id v : Json) : Prop :=
  (v.get? "result" ≠ none ∨ v.get? "error" ≠ none) ∧ ∃ i, v.get? "id" = some i ∧ i.same id = true

theorem isAnswer_iff : isAnswer id v = true ↔ IsAnswerTo id v := by
  simp only [isAnswer, IsAnswerTo, Json.has, Bool.and_eq_true, Bool.or_eq_true, Option.isSome_iff_ne_none,
    Option.any_eq_true]

/-- What answers one id answers none that is not equal to it. -/
theorem not_isAnswerTo_of_other {other : Json} (h : IsAnswerTo id v) (hother : other.same id = false) :
    ¬IsAnswerTo other v := by
  rintro ⟨-, answered', hanswered', hsame'⟩
  obtain ⟨-, answered, hanswered, hsame⟩ := h
  rw [hanswered] at hanswered'
  cases hanswered'
  have hequal := Json.same_of_same _ hsame' hsame
  rw [hother] at hequal
  cases hequal

/-- The lines that are passed over in search of an answer: blank ones, and values that are no answer. -/
inductive Skips (id : Json) : Bytes → Prop where
  | blank {text : String} (hblank : IsBlank text) : Skips id (Bytes.ofText text)
  | other {line : Bytes} {v : Json} (hvalue : valueIn? line = some v) (hother : ¬IsAnswerTo id v) : Skips id line

/-- The lines that end the search for an answer, and what comes of it. -/
inductive StopsAt (id : Json) : Bytes → Except ClientError Json → Prop where
  | answer {line : Bytes} {v : Json} (hvalue : valueIn? line = some v) (hanswer : IsAnswerTo id v) :
      StopsAt id line (.ok v)
  | noText {line : Bytes} (htext : ¬Bytes.IsText line) : StopsAt id line (.error (.stream .invalidData))
  | noJson {text : String} (hblank : ¬IsBlank text) (hvalue : valueIn? (Bytes.ofText text) = none) :
      StopsAt id (Bytes.ofText text) (.error .json)

theorem valueIn?_ofText (text : String) : valueIn? (Bytes.ofText text) = Json.parse? (Text.trim text) := by
  rw [valueIn?, Bytes.toText?_ofText, Option.bind_some]

/-- A blank line says nothing. -/
theorem valueIn?_of_blank {text : String} (hblank : IsBlank text) : valueIn? (Bytes.ofText text) = none := by
  rw [valueIn?_ofText, String.isEmpty_iff.1 (isEmpty_trim_iff.2 hblank)]
  decide

theorem exists_ofText_of_value (hvalue : valueIn? line = some v) :
    ∃ text, line = Bytes.ofText text ∧ Json.parse? (Text.trim text) = some v := by
  obtain ⟨text, htext, hread⟩ := Option.bind_eq_some_iff.1 hvalue
  exact ⟨text, Bytes.toText?_eq_some_iff.1 htext, hread⟩

theorem readAnswer_value (hvalue : valueIn? line = some v) (later : List Bytes) :
    readAnswer id (line :: later) = if isAnswer id v then (.ok v, later) else readAnswer id later := by
  obtain ⟨text, rfl, hread⟩ := exists_ofText_of_value hvalue
  have hblank : ¬(Text.trim text).isEmpty = true := by
    intro hempty
    rw [valueIn?_of_blank (isEmpty_trim_iff.1 hempty)] at hvalue
    cases hvalue
  rw [readAnswer, Bytes.toText?_ofText]
  dsimp only
  rw [if_neg hblank, hread]

theorem Skips.readAnswer_eq (h : Skips id line) (later : List Bytes) :
    readAnswer id (line :: later) = readAnswer id later := by
  cases h with
  | blank hblank =>
    rw [readAnswer, Bytes.toText?_ofText]
    exact if_pos (isEmpty_trim_iff.2 hblank)
  | other hvalue hother =>
    rw [readAnswer_value hvalue]
    exact if_neg (mt isAnswer_iff.1 hother)

theorem StopsAt.readAnswer_eq (h : StopsAt id line answer) (later : List Bytes) :
    readAnswer id (line :: later) = (answer, later) := by
  cases h with
  | answer hvalue hanswer =>
    rw [readAnswer_value hvalue]
    exact if_pos (isAnswer_iff.2 hanswer)
  | noText htext => rw [readAnswer, Bytes.toText?_eq_none_iff.2 htext]
  | noJson hblank hvalue =>
    rw [valueIn?_ofText] at hvalue
    rw [readAnswer, Bytes.toText?_ofText]
    dsimp only
    rw [if_neg (mt isEmpty_trim_iff.1 hblank), hvalue]

theorem skips_or_stopsAt (id : Json) (line : Bytes) : Skips id line ∨ ∃ answer, StopsAt id line answer := by
  by_cases htext : Bytes.IsText line
  · obtain ⟨text, rfl⟩ := htext
    cases hvalue : valueIn? (Bytes.ofText text) with
    | none =>
      by_cases hblank : IsBlank text
      · exact .inl (.blank hblank)
      · exact .inr ⟨_, .noJson hblank hvalue⟩
    | some v =>
      by_cases hanswer : IsAnswerTo id v
      · exact .inr ⟨_, .answer hvalue hanswer⟩
      · exact .inl (.other hvalue hanswer)
  · exact .inr ⟨_, .noText htext⟩

/-! ## One send -/

/-- What a search for an answer reads and what it leaves: it ends with the first line that stops it, or with the
stream. -/
inductive Searches (id : Json) : List Bytes → Except ClientError Json → List Bytes → Prop where
  | stop {skipped : List Bytes} {line : Bytes} {answer : Except ClientError Json} {left : List Bytes}
      (hskipped : ∀ other ∈ skipped, Skips id other) (hstop : StopsAt id line answer) :
      Searches id (skipped ++ [line]) answer left
  | ended {skipped : List Bytes} (hskipped : ∀ other ∈ skipped, Skips id other) :
      Searches id skipped (.error .closed) []

theorem Searches.cons {read : List Bytes} (hline : Skips id line) (h : Searches id read answer left) :
    Searches id (line :: read) answer left := by
  cases h with
  | stop hskipped hstop => exact .stop (List.forall_mem_cons.2 ⟨hline, hskipped⟩) hstop
  | ended hskipped => exact .ended (List.forall_mem_cons.2 ⟨hline, hskipped⟩)

theorem exists_searches (id : Json) (lines : List Bytes) : ∃ read,
    lines = read ++ (readAnswer id lines).2 ∧ Searches id read (readAnswer id lines).1 (readAnswer id lines).2 := by
  induction lines with
  | nil => exact ⟨[], rfl, .ended (List.forall_mem_nil _)⟩
  | cons line later ih =>
    rcases skips_or_stopsAt id line with hskips | ⟨answer, hstop⟩
    · obtain ⟨read, hlines, hsearches⟩ := ih
      rw [hskips.readAnswer_eq]
      exact ⟨line :: read, congrArg (line :: ·) hlines, hsearches.cons hskips⟩
    · rw [hstop.readAnswer_eq]
      exact ⟨[line], rfl, .stop (List.forall_mem_nil _) hstop⟩

structure Turn where
  message : Json
  /-- What the process writes on hearing the message. -/
  written : Bytes
  /-- The lines that the send reads. -/
  read : List Bytes
  outcome : Except ClientError (Option Json)
  /-- The lines that were written and that no send has read. -/
  left : List Bytes

namespace Turn

def reply? (turn : Turn) : Option Json :=
  turn.outcome.toOption.join

/-- A send reads what its message asks for: nothing, or the lines up to the answer. -/
inductive Reads (turn : Turn) : Prop where
  | nothing (hid : turn.message.get? "id" = none) (hread : turn.read = []) (houtcome : turn.outcome = .ok none)
  | answer {id : Json} {answer : Except ClientError Json} (hid : turn.message.get? "id" = some id)
      (hread : Searches id turn.read answer turn.left) (houtcome : turn.outcome = answer.map some)

variable {turn : Turn} {reply : Json}

/-- A reply is the value in the last line that was read, and it answers the message. -/
theorem Reads.exists_of_reply (h : turn.Reads) (hreply : turn.reply? = some reply) : ∃ id skipped line,
    turn.message.get? "id" = some id ∧ turn.read = skipped ++ [line] ∧ valueIn? line = some reply ∧
      IsAnswerTo id reply := by
  cases h with
  | nothing _ _ houtcome =>
    rw [reply?, houtcome] at hreply
    cases hreply
  | answer hid hread houtcome =>
    rw [reply?, houtcome] at hreply
    generalize turn.read = read, turn.left = left at hread ⊢
    cases hread with
    | ended => cases hreply
    | stop _ hstop =>
      cases hstop with
      | answer hvalue hanswer =>
        cases hreply
        exact ⟨_, _, _, hid, rfl, hvalue, hanswer⟩
      | noText => cases hreply
      | noJson => cases hreply

theorem Reads.reply_sublist (h : turn.Reads) : turn.reply?.toList.Sublist (turn.read.filterMap valueIn?) := by
  cases hreply : turn.reply? with
  | none => exact List.nil_sublist _
  | some reply =>
    obtain ⟨id, skipped, line, -, hread, hvalue, -⟩ := h.exists_of_reply hreply
    rw [hread, List.filterMap_append, List.filterMap_cons_some hvalue]
    exact List.sublist_append_right _ _

end Turn

/-- The turn of a message: the lines that were waiting and those that the process writes are the ones to read from. -/
def takeTurn (peer : Peer π) (message : Json) (link : ChildLink π) : Turn × ChildLink π :=
  let written := (peer.hear (frame message) link.peer).1
  let (outcome, after) := send peer message link
  let waiting := link.unread ++ written.lines
  let read := waiting.take (waiting.length - after.unread.length)
  ({ message, written, read, outcome, left := after.unread }, after)

def takeTurns (peer : Peer π) : List Json → ChildLink π → List Turn × ChildLink π
  | [], link => ([], link)
  | message :: later, link =>
    let (turn, link) := takeTurn peer message link
    let (turns, link) := takeTurns peer later link
    (turn :: turns, link)

theorem take_length_sub_eq {read lines : List Bytes} (h : lines = read ++ left) :
    lines.take (lines.length - left.length) = read := by
  rw [h, List.length_append, Nat.add_sub_cancel, List.take_left]

/-- A send to an open process leaves it open, and reads from the lines that wait for it. -/
theorem takeTurn_reads (peer : Peer π) (message : Json) {link : ChildLink π} (hopen : link.isOpen = true) {turn : Turn}
    {after : ChildLink π} (hturn : takeTurn peer message link = (turn, after)) :
    turn.message = message ∧ turn.Reads ∧ link.unread ++ turn.written.lines = turn.read ++ turn.left ∧
      turn.left = after.unread ∧ after.isOpen = true := by
  have hnot : ¬link.isOpen = false := by
    rw [hopen]
    decide
  obtain ⟨⟨written, state⟩, hheard⟩ : ∃ heard, peer.hear (frame message) link.peer = heard := ⟨_, rfl⟩
  rw [takeTurn, send, if_neg hnot, hheard] at hturn
  dsimp only at hturn
  cases hid : message.get? "id" with
  | none =>
    rw [hid] at hturn
    dsimp only at hturn
    rw [Nat.sub_self, List.take_zero] at hturn
    cases hturn
    exact ⟨rfl, .nothing hid rfl rfl, rfl, rfl, hopen⟩
  | some id =>
    obtain ⟨read, hlines, hsearches⟩ := exists_searches id (link.unread ++ written.lines)
    rw [hid] at hturn
    dsimp only at hturn
    rw [take_length_sub_eq hlines] at hturn
    cases hturn
    exact ⟨rfl, .answer hid hsearches rfl, hlines, rfl, hopen⟩

/-! ## All sends -/

/-- Turns follow each other: each reads the lines that the one before has left, and those that were written
meanwhile. -/
inductive Chained : List Bytes → List Turn → List Bytes → Prop where
  | nil (unread : List Bytes) : Chained unread [] unread
  | cons {unread left : List Bytes} {turn : Turn} {turns : List Turn} (hreads : turn.Reads)
      (hlines : unread ++ turn.written.lines = turn.read ++ turn.left) (hrest : Chained turn.left turns left) :
      Chained unread (turn :: turns) left

variable {turns : List Turn}

theorem chained_takeTurns (peer : Peer π) (messages : List Json) {link : ChildLink π} (hopen : link.isOpen = true) :
    Chained link.unread (takeTurns peer messages link).1 (takeTurns peer messages link).2.unread ∧
      (takeTurns peer messages link).1.map (·.message) = messages := by
  induction messages generalizing link with
  | nil => exact ⟨.nil link.unread, rfl⟩
  | cons message later ih =>
    cases hturn : takeTurn peer message link with
    | mk turn after =>
      obtain ⟨hmessage, hreads, hlines, hleft, hafter⟩ := takeTurn_reads peer message hopen hturn
      obtain ⟨hrest, hmessages⟩ := ih hafter
      rw [← hleft] at hrest
      rw [takeTurns, hturn]
      exact ⟨.cons hreads hlines hrest, by rw [List.map_cons, hmessage, hmessages]⟩

namespace Chained

theorem reads (h : Chained unread turns left) : ∀ turn ∈ turns, turn.Reads := by
  induction h with
  | nil => exact List.forall_mem_nil _
  | cons hreads _ _ ih => exact List.forall_mem_cons.2 ⟨hreads, ih⟩

/-- No line is lost, and none is read twice. -/
theorem lines_eq (h : Chained unread turns left) :
    unread ++ turns.flatMap (·.written.lines) = turns.flatMap (·.read) ++ left := by
  induction h with
  | nil unread => exact List.append_nil unread
  | @cons unread left turn turns _ hlines _ ih =>
    calc unread ++ (turn :: turns).flatMap (·.written.lines)
        = (unread ++ turn.written.lines) ++ turns.flatMap (·.written.lines) := by
          rw [List.flatMap_cons, List.append_assoc]
      _ = turn.read ++ (turn.left ++ turns.flatMap (·.written.lines)) := by rw [hlines, List.append_assoc]
      _ = (turn :: turns).flatMap (·.read) ++ left := by rw [ih, List.flatMap_cons, List.append_assoc]

/-- The replies stand in the lines that were read, in the order of these. -/
theorem replies_sublist (h : Chained unread turns left) :
    (turns.filterMap (·.reply?)).Sublist ((turns.flatMap (·.read)).filterMap valueIn?) := by
  rw [List.filterMap_eq_flatMap_toList, List.filterMap_flatMap]
  exact List.Sublist.flatMap_right turns fun turn hturn => (h.reads turn hturn).reply_sublist

end Chained

/-- The sends to a process read its output in step: `written` is what it had written at the start, `turns` are the turns
of the messages, and `left` is what was not read. -/
structure ReadsInStep (written : Bytes) (messages : List Json) (turns : List Turn) (left : List Bytes) : Prop where
  messages : turns.map (·.message) = messages
  chained : Chained written.lines turns left
  lines : written.lines ++ turns.flatMap (·.written.lines) = turns.flatMap (·.read) ++ left
  /-- If the process writes whole lines, these are the lines of all that it has written. -/
  stream : ((written :: turns.map (·.written)).Pairwise fun piece later => Text.EndsLine lineFeed piece ∨ later = []) →
    (written ++ turns.flatMap (·.written)).lines = turns.flatMap (·.read) ++ left
  replies : (turns.filterMap (·.reply?)).Sublist ((turns.flatMap (·.read)).filterMap valueIn?)
  /-- A message with an id that none before it had never gets what answers one of these. -/
  fresh : ∀ earlier turn later, turns = earlier ++ turn :: later → ∀ id reply, turn.message.get? "id" = some id →
    turn.reply? = some reply →
    (∀ past ∈ earlier, ∀ pastId, past.message.get? "id" = some pastId → pastId.same id = false) →
    ∀ past ∈ earlier, ∀ pastId, past.message.get? "id" = some pastId → ¬IsAnswerTo pastId reply

theorem sends_read_in_step (peer : Peer π) (state : π) (written : Bytes) (messages : List Json) :
    ReadsInStep written messages (takeTurns peer messages (start state written)).1
      (takeTurns peer messages (start state written)).2.unread := by
  obtain ⟨hchained, hmessages⟩ := chained_takeTurns peer messages (rfl : (start state written).isOpen = true)
  refine ⟨hmessages, hchained, hchained.lines_eq, fun hwhole => ?_, hchained.replies_sublist, ?_⟩
  · have hlines : Bytes.lines _ = _ := Text.lines_flatten hwhole
    rw [List.flatten_cons, ← List.flatMap_def, List.flatMap_cons, List.flatMap_map] at hlines
    exact hlines.trans hchained.lines_eq
  · intro earlier turn later hturns id reply hid hreply hnew past hpast pastId hpastId hstale
    have hturn : turn ∈ (takeTurns peer messages (start state written)).1 := hturns ▸ by simp
    obtain ⟨id', -, -, hid', -, -, hanswer⟩ := (hchained.reads turn hturn).exists_of_reply hreply
    rw [hid] at hid'
    cases hid'
    exact not_isAnswerTo_of_other hanswer (hnew past hpast pastId hpastId) hstale

end ChildLink

end ModelContext
