import ModelContext.Proofs.Framing

/-!
# Streams of events

A stream is sent event by event, each of them line by line and with an empty line after it. What a client reads of it is
the data of the first message, and nothing else matters: no event before it and nothing that follows. Of a stream whose
line ends have carriage returns no empty line is seen, and the client takes it for one event.
-/

namespace ModelContext

/-! ## Streams as they are sent -/

/-- A line of an event: its name, data, a comment or any other field. -/
inductive StreamLine where
  | name (value : List Char)
  | data (value : List Char)
  | comment (text : List Char)
  | field (key value : List Char)

namespace StreamLine

/-- The characters of a line. One space follows the colon of a field. -/
def chars : StreamLine → List Char
  | name value => "event: ".toList ++ value
  | data value => "data: ".toList ++ value
  | comment text => ':' :: text
  | field key value => key ++ ": ".toList ++ value

def name? : StreamLine → Option (List Char)
  | name value => some value
  | _ => none

def data? : StreamLine → Option (List Char)
  | data value => some value
  | _ => none

/-- A line holds no line end. The key of another field is neither of the two known ones, and it ends at the colon. -/
structure WellFormed (line : StreamLine) : Prop where
  unbroken : '\r' ∉ line.chars ∧ '\n' ∉ line.chars
  key : ∀ key value, line = field key value → ':' ∉ key ∧ key ≠ "event".toList ∧ key ≠ "data".toList

end StreamLine

structure SentEvent where
  lines : List StreamLine
  wellFormed : ∀ line ∈ lines, line.WellFormed

namespace SentEvent

/-- The name of an event, if it has one; of several the last counts. -/
def name? (event : SentEvent) : Option (List Char) :=
  (event.lines.filterMap (·.name?)).getLast?

def data (event : SentEvent) : List (List Char) :=
  event.lines.filterMap (·.data?)

/-- An event with data is a message by its name, blanks around it apart, or for want of one. -/
def IsMessage (event : SentEvent) : Prop :=
  event.data ≠ [] ∧ ∀ name, event.name? = some name → Text.strip Text.isBlank name = ServerEvent.messageName

/-- What the data of an event is read as: the value of its lines with line feeds between them. -/
def outcome (event : SentEvent) : Except ClientError Json :=
  match Json.parse? (String.ofList (['\n'].intercalate event.data)) with
  | some v => .ok v
  | none => .error .json

/-- Every line is ended by a line feed, and an empty line ends the event. -/
def chars (event : SentEvent) : List Char :=
  (event.lines.map (·.chars)).flatMap (· ++ ['\n']) ++ ['\n']

end SentEvent

def streamText (events : List SentEvent) : String :=
  String.ofList (events.flatMap (·.chars))

/-! ## Lines of an event -/

namespace StreamLine

theorem chars_ne_nil (line : StreamLine) : line.chars ≠ [] := by
  cases line with
  | name value => exact List.append_ne_nil_of_left_ne_nil (by decide) value
  | data value => exact List.append_ne_nil_of_left_ne_nil (by decide) value
  | comment text => exact List.cons_ne_nil ':' text
  | field key value => exact List.append_ne_nil_of_left_ne_nil (List.append_ne_nil_of_right_ne_nil key (by decide)) value

/-- A field with another key does not begin like one with a known key. -/
theorem after?_eq_none {known key : List Char} (hknown : ':' ∉ known) (hkey : ':' ∉ key) (hne : key ≠ known)
    (rest : List Char) : Text.after? (known ++ [':']) (key ++ ':' :: rest) = none := by
  have htake : ∀ front back : List Char, ':' ∉ front → (front ++ ':' :: back).takeWhile (· ≠ ':') = front := by
    intro front back hfront
    rw [List.takeWhile_append_of_pos (by simpa using fun c hc => ne_of_mem_of_not_mem hc hfront)]
    simp
  refine Option.eq_none_iff_forall_ne_some.2 fun back h => hne ?_
  rw [Text.after?_eq_some_iff, List.append_assoc, List.singleton_append] at h
  rw [← htake key rest hkey, h, htake known back hknown]

/-- What a line says of the event: a name takes the place of the one before, and data comes after the data before. -/
theorem WellFormed.addLine_eq {line : StreamLine} (h : line.WellFormed) (event : ServerEvent) :
    event.addLine line.chars =
      { name := (line.name?.map (Text.strip Text.isBlank)).getD event.name
        data := event.data ++ line.data?.toList } := by
  cases line with
  | name value =>
    have hname : Text.after? "event:".toList (name value).chars = some (' ' :: value) := rfl
    have hstrip : Text.strip Text.isBlank (' ' :: value) = Text.strip Text.isBlank value := rfl
    rw [ServerEvent.addLine, hname]
    dsimp only
    rw [hstrip]
    simp [name?, data?]
  | data value =>
    have hname : Text.after? "event:".toList (data value).chars = none := rfl
    have hdata : Text.after? "data:".toList (data value).chars = some (' ' :: value) := rfl
    have hspace : Text.after? [' '] (' ' :: value) = some value := rfl
    rw [ServerEvent.addLine, hname, hdata]
    dsimp only
    rw [hspace]
    rfl
  | comment text =>
    have hname : Text.after? "event:".toList (comment text).chars = none := rfl
    have hdata : Text.after? "data:".toList (comment text).chars = none := rfl
    rw [ServerEvent.addLine, hname, hdata]
    simp [name?, data?]
  | field key value =>
    obtain ⟨hkey, hevent, hdata⟩ := h.key key value rfl
    have hcolon : ": ".toList = [':', ' '] := by decide
    have hchars : (field key value).chars = key ++ ": ".toList ++ value := rfl
    rw [hcolon, List.append_assoc, List.cons_append, List.singleton_append] at hchars
    have hnames : "event:".toList = "event".toList ++ [':'] ∧ "data:".toList = "data".toList ++ [':'] := by decide
    rw [ServerEvent.addLine, hchars, hnames.1, hnames.2, after?_eq_none (by decide) hkey hevent,
      after?_eq_none (by decide) hkey hdata]
    simp [name?, data?]

end StreamLine

/-! ## Parts of a stream -/

def messageIn? (cs : List Char) : Option ServerEvent :=
  ((Text.paragraphs '\n' cs).map fun part => .ofLines (Text.lines '\r' '\n' part)).find? ServerEvent.isMessage

def ServerEvent.outcome (event : ServerEvent) : Except ClientError Json :=
  match Json.parse? event.text with
  | some v => .ok v
  | none => .error .json

theorem messageOf_eq (body : String) :
    messageOf body =
      ((messageIn? body.toList).map ServerEvent.outcome).getD
        (.error (.protocol "event stream carried no message event")) := by
  rw [messageOf, eventsOf, messageIn?]
  cases List.find? _ _ <;> rfl

theorem messageIn?_cons {cs part rest : List Char}
    (h : Text.paragraphs '\n' cs = part :: Text.paragraphs '\n' rest) :
    messageIn? cs =
      if (ServerEvent.ofLines (Text.lines '\r' '\n' part)).isMessage then
        some (ServerEvent.ofLines (Text.lines '\r' '\n' part))
      else messageIn? rest := by
  rw [messageIn?, h, List.map_cons, List.find?_cons]
  cases (ServerEvent.ofLines (Text.lines '\r' '\n' part)).isMessage <;> rfl

/-- An empty line in front of an event is no part of what it says. -/
theorem messageIn?_feed (cs : List Char) : messageIn? ('\n' :: cs) = messageIn? cs := by
  induction cs with
  | nil => decide
  | cons c cs ih =>
    by_cases hc : c = '\n'
    · subst hc
      have hparts : Text.paragraphs '\n' ('\n' :: '\n' :: cs) = [] :: Text.paragraphs '\n' cs := if_pos ⟨rfl, rfl⟩
      rw [messageIn?_cons hparts, ih]
      rfl
    · have hhead : ¬('\n' = '\n' ∧ (c :: cs).head? = some '\n') := fun h => hc (Option.some.inj h.2)
      obtain ⟨part, later, hparts⟩ := List.exists_cons_of_ne_nil (Text.paragraphs_ne_nil '\n' (c :: cs))
      have hlines : Text.lines '\r' '\n' ('\n' :: part) = [] :: Text.lines '\r' '\n' part :=
        Text.lines_line List.not_mem_nil List.not_mem_nil part
      rw [messageIn?, Text.paragraphs_cons hhead, messageIn?, hparts, List.modifyHead_cons, List.map_cons, List.map_cons,
        hlines]
      rfl

/-! ## Events as they are read -/

namespace SentEvent

def said (event : SentEvent) : ServerEvent where
  name := (event.name?.map (Text.strip Text.isBlank)).getD ServerEvent.messageName
  data := event.data

theorem foldl_addLine {lines : List StreamLine} (h : ∀ line ∈ lines, line.WellFormed) (event : ServerEvent) :
    (lines.map (·.chars)).foldl ServerEvent.addLine event =
      { name := ((lines.filterMap (·.name?)).getLast?.map (Text.strip Text.isBlank)).getD event.name
        data := event.data ++ lines.filterMap (·.data?) } := by
  induction lines generalizing event with
  | nil => simp
  | cons line lines ih =>
    obtain ⟨hline, hlines⟩ := List.forall_mem_cons.1 h
    rw [List.map_cons, List.foldl_cons, hline.addLine_eq, ih hlines]
    cases line with
    | name value =>
      have hlast : (List.filterMap (·.name?) (StreamLine.name value :: lines)).getLast? =
          some ((List.filterMap (·.name?) lines).getLast?.getD value) := List.getLast?_cons
      rw [hlast]
      cases (List.filterMap (·.name?) lines).getLast? <;> simp [StreamLine.name?, StreamLine.data?]
    | data value => simp [StreamLine.name?, StreamLine.data?]
    | comment text => simp [StreamLine.name?, StreamLine.data?]
    | field key value => simp [StreamLine.name?, StreamLine.data?]

theorem ofLines_eq (event : SentEvent) : ServerEvent.ofLines (event.lines.map (·.chars)) = event.said :=
  foldl_addLine event.wellFormed .blank

theorem isMessage_said_iff (event : SentEvent) : event.said.isMessage = true ↔ event.IsMessage := by
  rw [ServerEvent.isMessage, decide_eq_true_iff, and_comm, IsMessage]
  refine and_congr_right fun _ => ?_
  rw [said]
  cases event.name? with
  | none => simp
  | some name => simp

/-- An event is read by itself, whatever follows it. -/
theorem messageIn?_chars (event : SentEvent) (rest : List Char) :
    messageIn? (event.chars ++ rest) = if event.said.isMessage then some event.said else messageIn? rest := by
  have hlines : ∀ l ∈ event.lines.map (·.chars), '\r' ∉ l ∧ '\n' ∉ l ∧ l ≠ [] := by
    intro l hl
    obtain ⟨line, hmem, rfl⟩ := List.mem_map.1 hl
    exact ⟨(event.wellFormed line hmem).unbroken.1, (event.wellFormed line hmem).unbroken.2, line.chars_ne_nil⟩
  rw [← ofLines_eq, chars, List.append_assoc, List.singleton_append]
  generalize event.lines.map (·.chars) = lines at hlines
  cases lines with
  | nil => exact messageIn?_feed rest
  | cons line lines =>
    rw [messageIn?_cons (Text.paragraphs_lines (fun l hl => (hlines l hl).2) rest), Text.lines_intercalate hlines]

end SentEvent

theorem messageIn?_events (events : List SentEvent) (rest : List Char) :
    messageIn? (events.flatMap (·.chars) ++ rest) =
      ((events.find? (·.said.isMessage)).map (·.said)).or (messageIn? rest) := by
  induction events with
  | nil => rfl
  | cons event events ih =>
    rw [List.flatMap_cons, List.append_assoc, SentEvent.messageIn?_chars, ih, List.find?_cons]
    cases event.said.isMessage <;> rfl

theorem messageOf_streamText_append (events : List SentEvent) (rest : String) :
    messageOf (streamText events ++ rest) =
      ((((events.find? (·.said.isMessage)).map (·.said)).or (messageIn? rest.toList)).map ServerEvent.outcome).getD
        (.error (.protocol "event stream carried no message event")) := by
  rw [messageOf_eq, String.toList_append, streamText, String.toList_ofList, messageIn?_events]

theorem messageOf_streamText (events : List SentEvent) :
    messageOf (streamText events) =
      ((events.find? (·.said.isMessage)).map (·.outcome)).getD
        (.error (.protocol "event stream carried no message event")) := by
  have h := messageOf_streamText_append events ""
  rw [String.append_empty] at h
  rw [h]
  cases events.find? _ <;> rfl

/-- The search stops at the first message. -/
theorem find?_isMessage {before : List SentEvent} {event : SentEvent}
    (hbefore : ∀ skipped ∈ before, ¬skipped.IsMessage) (hevent : event.IsMessage) (later : List SentEvent) :
    (before ++ event :: later).find? (·.said.isMessage) = some event := by
  refine List.find?_eq_some_iff_append.2 ⟨event.isMessage_said_iff.2 hevent, before, later, rfl, ?_⟩
  intro skipped hmem
  rw [Bool.not_eq_true', Bool.eq_false_iff]
  exact mt skipped.isMessage_said_iff.1 (hbefore skipped hmem)

/-- An event comes to a value or to data that is no value. -/
theorem SentEvent.outcome_ne_protocol (event : SentEvent) (message : String) :
    event.outcome ≠ .error (.protocol message) := by
  rw [outcome]
  cases Json.parse? _ <;> simp

/-- How a stream is read: by its first message, and by nothing else that it holds. -/
structure ReadsFirstMessage (events : List SentEvent) : Prop where
  /-- The events before the first message do not count, nor does anything that follows it. -/
  read : ∀ before event later, events = before ++ event :: later → (∀ skipped ∈ before, ¬skipped.IsMessage) →
    event.IsMessage →
    messageOf (streamText events) = event.outcome ∧
      ∀ rest : String, messageOf (streamText (before ++ [event]) ++ rest) = event.outcome
  /-- Nothing is read exactly if there is no message. -/
  unread : messageOf (streamText events) = .error (.protocol "event stream carried no message event") ↔
    ∀ event ∈ events, ¬event.IsMessage

theorem first_message_read (events : List SentEvent) : ReadsFirstMessage events where
  read := by
    intro before event later hevents hbefore hevent
    constructor
    · rw [messageOf_streamText, hevents, find?_isMessage hbefore hevent]
      rfl
    · intro rest
      rw [messageOf_streamText_append, find?_isMessage hbefore hevent]
      rfl
  unread := by
    rw [messageOf_streamText]
    constructor
    · intro h event hmem hevent
      cases hfind : events.find? (·.said.isMessage) with
      | none => exact List.find?_eq_none.1 hfind event hmem (event.isMessage_said_iff.2 hevent)
      | some first =>
        rw [hfind] at h
        exact first.outcome_ne_protocol _ h
    · intro h
      have hfind : events.find? (·.said.isMessage) = none :=
        List.find?_eq_none.2 fun event hmem => mt event.isMessage_said_iff.1 (h event hmem)
      rw [hfind]
      rfl

/-! ## Line ends with carriage returns -/

namespace Text

variable {α : Type} [DecidableEq α] {ret feed : α}

/-- A list with `ret` before every `feed`. -/
def returned (ret feed : α) (cs : List α) : List α :=
  cs.flatMap fun c => if c = feed then [ret, feed] else [c]

theorem returned_cons {c : α} (hc : c ≠ feed) (cs : List α) :
    returned ret feed (c :: cs) = c :: returned ret feed cs := by
  rw [returned, List.flatMap_cons, if_neg hc, List.singleton_append, ← returned]

theorem returned_feed (cs : List α) : returned ret feed (feed :: cs) = ret :: feed :: returned ret feed cs := by
  rw [returned, List.flatMap_cons, if_pos rfl, List.cons_append, List.singleton_append, ← returned]

theorem returned_line {line : List α} (hline : feed ∉ line) (cs : List α) :
    returned ret feed (line ++ cs) = line ++ returned ret feed cs := by
  induction line with
  | nil => rfl
  | cons c line ih =>
    rw [List.mem_cons, not_or] at hline
    rw [List.cons_append, returned_cons (Ne.symm hline.1), ih hline.2, List.cons_append]

/-- The lines stay what they are, since the carriage return belongs to the line end. -/
theorem lines_returned (hne : ret ≠ feed) {cs : List α} (hret : ret ∉ cs) :
    lines ret feed (returned ret feed cs) = lines ret feed cs := by
  induction cs using lineInduction with
  | last line hline =>
    have hsame : returned ret feed (line ++ []) = line ++ returned ret feed [] := returned_line hline []
    rw [List.append_nil] at hsame
    rw [hsame, returned, List.flatMap_nil, List.append_nil]
  | line line rest hline ih =>
    rw [List.mem_append, not_or, List.mem_cons, not_or] at hret
    have hreturn : feed ∉ line ++ [ret] := by simp [hline, Ne.symm hne]
    have hdrop : dropLineEnd ret feed (line ++ [ret] ++ [feed]) = line := by simp [dropLineEnd]
    rw [returned_line hline, returned_feed, List.append_cons line ret, lines_cons hreturn, hdrop, ih hret.2.2,
      lines_line hret.1 hline]

theorem head?_returned (hne : ret ≠ feed) (cs : List α) : (returned ret feed cs).head? ≠ some feed := by
  cases cs with
  | nil => simp [returned]
  | cons c cs =>
    by_cases hc : c = feed
    · rw [hc, returned_feed, List.head?_cons]
      exact fun h => hne (Option.some.inj h)
    · rw [returned_cons hc, List.head?_cons]
      exact fun h => hc (Option.some.inj h)

/-- No two line feeds follow each other any more, so there is one part. -/
theorem paragraphs_returned (hne : ret ≠ feed) (cs : List α) :
    paragraphs feed (returned ret feed cs) = [returned ret feed cs] := by
  induction cs with
  | nil => rfl
  | cons c cs ih =>
    by_cases hc : c = feed
    · rw [hc, returned_feed, paragraphs_cons fun h => hne h.1, paragraphs_cons fun h => head?_returned hne cs h.2, ih,
        List.modifyHead_cons, List.modifyHead_cons]
    · rw [returned_cons hc, paragraphs_cons fun h => hc h.1, ih, List.modifyHead_cons]

theorem paragraphs_eq_or (feed : α) (cs : List α) :
    paragraphs feed cs = [cs] ∨
      ∃ part rest, cs = part ++ feed :: feed :: rest ∧ paragraphs feed cs = part :: paragraphs feed rest := by
  induction cs with
  | nil => exact Or.inl rfl
  | cons c cs ih =>
    by_cases h : c = feed ∧ cs.head? = some feed
    · obtain ⟨rfl, hhead⟩ := h
      obtain ⟨rest, rfl⟩ := List.head?_eq_some_iff.1 hhead
      exact Or.inr ⟨[], rest, rfl, if_pos ⟨rfl, rfl⟩⟩
    · rw [paragraphs_cons h]
      rcases ih with ih | ⟨part, rest, rfl, ih⟩
      · rw [ih]
        exact Or.inl rfl
      · rw [ih]
        exact Or.inr ⟨c :: part, rest, rfl, rfl⟩

end Text

theorem ServerEvent.addLine_nil (event : ServerEvent) : event.addLine [] = event :=
  rfl

/-- A line end at the end of a part adds nothing to what the part says. -/
theorem foldl_addLine_feed {part : List Char} (hret : '\r' ∉ part) (event : ServerEvent) :
    (Text.lines '\r' '\n' (part ++ ['\n'])).foldl ServerEvent.addLine event =
      (Text.lines '\r' '\n' part).foldl ServerEvent.addLine event := by
  obtain ⟨front, line, rfl, hfront, hline⟩ := Text.exists_endsLine_append '\n' part
  rw [List.mem_append, not_or] at hret
  rw [List.append_assoc, Text.lines_append hfront, Text.lines_append hfront, Text.lines_line hret.2 hline [],
    List.foldl_append, List.foldl_append]
  cases line with
  | nil => rfl
  | cons c line => rw [Text.lines_last hline (List.cons_ne_nil c line)]; rfl

/-- The lines of a text say what the lines of its parts say. -/
theorem foldl_addLine_paragraphs {cs : List Char} (hret : '\r' ∉ cs) (event : ServerEvent) :
    (Text.lines '\r' '\n' cs).foldl ServerEvent.addLine event =
      ((Text.paragraphs '\n' cs).flatMap (Text.lines '\r' '\n')).foldl ServerEvent.addLine event := by
  rcases Text.paragraphs_eq_or '\n' cs with hparts | ⟨part, rest, hcs, hparts⟩
  · rw [hparts, List.flatMap_singleton]
  · have hshorter : rest.length < cs.length := by
      rw [hcs, List.length_append, List.length_cons, List.length_cons]
      omega
    rw [hparts, List.flatMap_cons, List.foldl_append]
    rw [hcs, List.mem_append, not_or, List.mem_cons, not_or, List.mem_cons, not_or] at hret
    have hends : Text.EndsLine '\n' (part ++ ['\n']) := Or.inr List.getLast?_concat
    have hempty : Text.lines '\r' '\n' ('\n' :: rest) = [] :: Text.lines '\r' '\n' rest :=
      Text.lines_line List.not_mem_nil List.not_mem_nil rest
    rw [hcs, List.append_cons, Text.lines_append hends, hempty, List.foldl_append, foldl_addLine_feed hret.1,
      List.foldl_cons, ServerEvent.addLine_nil, foldl_addLine_paragraphs hret.2.2.2]
termination_by cs.length

theorem ofLines_paragraphs {cs : List Char} (hret : '\r' ∉ cs) :
    ServerEvent.ofLines ((Text.paragraphs '\n' cs).flatMap (Text.lines '\r' '\n')) =
      ServerEvent.ofLines (Text.lines '\r' '\n' cs) :=
  (foldl_addLine_paragraphs hret .blank).symm

/-- Does a line of the part name the event or give data? -/
def tells (part : List Char) : Bool :=
  (Text.lines '\r' '\n' part).any fun line =>
    (Text.after? "event:".toList line).isSome || (Text.after? "data:".toList line).isSome

theorem foldl_addLine_of_silent {part : List Char} (h : tells part = false) (event : ServerEvent) :
    (Text.lines '\r' '\n' part).foldl ServerEvent.addLine event = event := by
  rw [tells, List.any_eq_false] at h
  generalize Text.lines '\r' '\n' part = lines at h
  induction lines with
  | nil => rfl
  | cons line lines ih =>
    obtain ⟨hline, hlines⟩ := List.forall_mem_cons.1 h
    rw [Bool.not_eq_true, Bool.or_eq_false_iff, Option.isSome_eq_false_iff, Option.isNone_iff_eq_none,
      Option.isSome_eq_false_iff, Option.isNone_iff_eq_none] at hline
    have hsame : event.addLine line = event := by
      rw [ServerEvent.addLine, hline.1, hline.2]
    rw [List.foldl_cons, hsame, ih hlines]

theorem foldl_addLine_of_all_silent {parts : List (List Char)} (h : ∀ part ∈ parts, tells part = false)
    (event : ServerEvent) : (parts.flatMap (Text.lines '\r' '\n')).foldl ServerEvent.addLine event = event := by
  induction parts with
  | nil => rfl
  | cons part parts ih =>
    obtain ⟨hpart, hparts⟩ := List.forall_mem_cons.1 h
    rw [List.flatMap_cons, List.foldl_append, foldl_addLine_of_silent hpart, ih hparts]

/-- A body of which one event at most is told anything. -/
def TellsOnce (body : String) : Prop :=
  ((Text.paragraphs '\n' body.toList).filter tells).length ≤ 1

/-- If only one part tells anything, it is the one that all lines together tell. -/
theorem find?_isMessage_parts {parts : List (List Char)} (h : (parts.filter tells).length ≤ 1) :
    (parts.map fun part => ServerEvent.ofLines (Text.lines '\r' '\n' part)).find? ServerEvent.isMessage =
      (some (ServerEvent.ofLines (parts.flatMap (Text.lines '\r' '\n')))).filter ServerEvent.isMessage := by
  induction parts with
  | nil => rfl
  | cons part parts ih =>
    rw [List.map_cons, List.flatMap_cons, ServerEvent.ofLines, ServerEvent.ofLines, List.foldl_append]
    by_cases hpart : tells part = true
    · rw [List.filter_cons_of_pos hpart, List.length_cons] at h
      have hnone : parts.filter tells = [] := List.length_eq_zero_iff.1 (by omega)
      have hsilent : ∀ later ∈ parts, tells later = false := by
        simpa only [List.filter_eq_nil_iff, Bool.not_eq_true] using hnone
      rw [foldl_addLine_of_all_silent hsilent, List.find?_cons, ih (by rw [hnone]; exact Nat.zero_le 1),
        ServerEvent.ofLines, foldl_addLine_of_all_silent hsilent, ← ServerEvent.ofLines, Option.filter_some,
        Option.filter_some, if_neg (by decide)]
      cases (ServerEvent.ofLines (Text.lines '\r' '\n' part)).isMessage <;> rfl
    · rw [List.filter_cons_of_neg hpart] at h
      rw [Bool.not_eq_true] at hpart
      rw [foldl_addLine_of_silent hpart, List.find?_cons_of_neg (by decide), ih h]
      rfl

def withReturns (body : String) : String :=
  String.ofList (Text.returned '\r' '\n' body.toList)

theorem messageIn?_returned {cs : List Char} (hret : '\r' ∉ cs) :
    messageIn? (Text.returned '\r' '\n' cs) =
      (some (ServerEvent.ofLines (Text.lines '\r' '\n' cs))).filter ServerEvent.isMessage := by
  rw [messageIn?, Text.paragraphs_returned (by decide), List.map_singleton, Text.lines_returned (by decide) hret,
    List.find?_singleton]
  rfl

/-- How a body is read whose line ends have carriage returns: none of its empty lines ends an event. -/
structure ReadAsOneEvent (body : String) : Prop where
  /-- All lines tell of one event. -/
  whole : messageOf (withReturns body) =
    if (ServerEvent.ofLines (Text.lines '\r' '\n' body.toList)).isMessage then
      (ServerEvent.ofLines (Text.lines '\r' '\n' body.toList)).outcome
    else .error (.protocol "event stream carried no message event")
  /-- This makes no difference if nothing is told of the other events. -/
  alike : TellsOnce body → messageOf (withReturns body) = messageOf body

theorem returned_read_as_one_event (body : String) (hret : '\r' ∉ body.toList) : ReadAsOneEvent body where
  whole := by
    rw [messageOf_eq, withReturns, String.toList_ofList, messageIn?_returned hret, Option.filter_some]
    generalize ServerEvent.ofLines (Text.lines '\r' '\n' body.toList) = event
    cases event.isMessage <;> rfl
  alike := by
    intro hbody
    rw [messageOf_eq, messageOf_eq, withReturns, String.toList_ofList, messageIn?_returned hret, messageIn?,
      find?_isMessage_parts hbody, ofLines_paragraphs hret]

theorem returned_read_as_one_event_number :
    '\r' ∉ "event: message\ndata: 6\n\n".toList ∧ TellsOnce "event: message\ndata: 6\n\n" ∧
      messageOf (withReturns "event: message\ndata: 6\n\n") = messageOf "event: message\ndata: 6\n\n" := by
  have honce : TellsOnce "event: message\ndata: 6\n\n" := by
    unfold TellsOnce
    decide
  exact ⟨by decide, honce, (returned_read_as_one_event _ (by decide)).alike honce⟩

/-- Two events that are read as one have data that is no value. -/
theorem not_returned_alike :
    ¬∀ body : String, '\r' ∉ body.toList → messageOf (withReturns body) = messageOf body := by
  intro h
  have hbody := h "event: other\ndata: 5\n\nevent: message\ndata: 6\n\n" (by decide)
  revert hbody
  decide +kernel

end ModelContext
