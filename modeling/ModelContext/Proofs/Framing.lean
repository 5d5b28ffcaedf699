import ModelContext.Client.EventStream
import ModelContext.Http.Endpoint
import ModelContext.Proofs.JsonText
import ModelContext.Server.Stdio

/-!
# Lines and events

A written value holds no line end, so the line that carries it is cut off again as it was, and the event
that carries it is taken apart into its name and the value.
-/

namespace ModelContext

namespace Text

variable {α : Type} [DecidableEq α] {ret feed : α}

/-! ## Lines of a list -/

theorem splitAfter_line {line : List α} (hline : feed ∉ line) (rest : List α) :
    splitAfter feed (line ++ feed :: rest) = (line ++ [feed]) :: splitAfter feed rest := by
  induction line with
  | nil => rw [List.nil_append, splitAfter, if_pos rfl, List.nil_append]
  | cons c line ih =>
    have hc : c ≠ feed := fun h => hline (h ▸ List.mem_cons_self)
    rw [List.cons_append, splitAfter, if_neg hc, ih fun h => hline (List.mem_cons_of_mem c h), List.cons_append]

theorem splitAfter_last {line : List α} (hline : feed ∉ line) (hne : line ≠ []) : splitAfter feed line = [line] := by
  induction line with
  | nil => exact absurd rfl hne
  | cons c line ih =>
    have hc : c ≠ feed := fun h => hline (h ▸ List.mem_cons_self)
    rw [splitAfter, if_neg hc]
    cases line with
    | nil => rfl
    | cons d line => rw [ih (fun h => hline (List.mem_cons_of_mem c h)) (List.cons_ne_nil d line)]

theorem dropLineEnd_line {line : List α} (hline : ret ∉ line) : dropLineEnd ret feed (line ++ [feed]) = line := by
  have hlast : line.getLast? ≠ some ret := fun h => hline (List.mem_of_getLast? h)
  rw [dropLineEnd, if_pos List.getLast?_concat, List.dropLast_concat]
  exact if_neg hlast

theorem dropLineEnd_last {line : List α} (hline : feed ∉ line) : dropLineEnd ret feed line = line :=
  if_neg fun h => hline (List.mem_of_getLast? h)

theorem lines_line {line : List α} (hret : ret ∉ line) (hfeed : feed ∉ line) (rest : List α) :
    lines ret feed (line ++ feed :: rest) = line :: lines ret feed rest := by
  rw [lines, splitAfter_line hfeed, List.map_cons, dropLineEnd_line hret]
  rfl

theorem lines_last {line : List α} (hfeed : feed ∉ line) (hne : line ≠ []) : lines ret feed line = [line] := by
  rw [lines, splitAfter_last hfeed hne, List.map_singleton, dropLineEnd_last hfeed]

theorem lines_cons {line : List α} (hfeed : feed ∉ line) (rest : List α) :
    lines ret feed (line ++ feed :: rest) = dropLineEnd ret feed (line ++ [feed]) :: lines ret feed rest := by
  rw [lines, splitAfter_line hfeed, List.map_cons, lines]

/-- Any list is a last line without an end, or a line with its end before a list. -/
@[elab_as_elim]
theorem lineInduction {motive : List α → Prop} (last : ∀ line, feed ∉ line → motive line)
    (line : ∀ line rest, feed ∉ line → motive rest → motive (line ++ feed :: rest)) (cs : List α) : motive cs := by
  by_cases hfeed : feed ∈ cs
  · obtain ⟨front, rest, hcs, hfront⟩ := List.eq_append_cons_of_mem hfeed
    have hshorter : rest.length < cs.length := by
      rw [hcs, List.length_append, List.length_cons]
      omega
    exact hcs ▸ line front rest hfront (lineInduction last line rest)
  · exact last cs hfeed
termination_by cs.length

def EndsLine (feed : α) (cs : List α) : Prop :=
  cs = [] ∨ cs.getLast? = some feed

omit [DecidableEq α] in
theorem endsLine_line_iff {line rest : List α} : EndsLine feed (line ++ feed :: rest) ↔ EndsLine feed rest := by
  cases rest with
  | nil => simp [EndsLine]
  | cons c rest => simp [EndsLine, List.getLast?_append, List.getLast?_cons_cons]

/-- The lines of a list that ends a line are not changed by what follows. -/
theorem lines_append {front : List α} (h : EndsLine feed front) (cs : List α) :
    lines ret feed (front ++ cs) = lines ret feed front ++ lines ret feed cs := by
  induction front using lineInduction with
  | last line hline =>
    rcases h with rfl | hlast
    · rfl
    · exact absurd (List.mem_of_getLast? hlast) hline
  | line line rest hline ih =>
    rw [List.append_assoc, List.cons_append, lines_cons hline, lines_cons hline, ih (endsLine_line_iff.1 h),
      List.cons_append]

/-- What is left after the last line end is a line of its own. -/
theorem exists_endsLine_append (feed : α) (cs : List α) :
    ∃ front line, cs = front ++ line ∧ EndsLine feed front ∧ feed ∉ line := by
  induction cs using lineInduction with
  | last line hline => exact ⟨[], line, rfl, Or.inl rfl, hline⟩
  | line first rest hfirst ih =>
    obtain ⟨front, line, rfl, hfront, hline⟩ := ih
    refine ⟨first ++ feed :: front, line, ?_, endsLine_line_iff.2 hfront, hline⟩
    rw [List.append_assoc, List.cons_append]

/-! ## Paragraphs of a list -/

theorem paragraphs_ne_nil (feed : α) (cs : List α) : paragraphs feed cs ≠ [] := by
  fun_cases paragraphs feed cs <;> simp

/-- A part goes on wherever no two line feeds follow each other. -/
theorem paragraphs_cons {c : α} {cs : List α} (h : ¬(c = feed ∧ cs.head? = some feed)) :
    paragraphs feed (c :: cs) = (paragraphs feed cs).modifyHead (c :: ·) := by
  cases cs with
  | nil => rfl
  | cons d cs =>
    rw [List.head?_cons, Option.some_inj] at h
    rw [paragraphs, if_neg h]
    obtain ⟨part, later, hparts⟩ := List.exists_cons_of_ne_nil (paragraphs_ne_nil feed (d :: cs))
    rw [hparts]
    rfl

theorem paragraphs_line {line : List α} (hline : feed ∉ line) (cs : List α) :
    paragraphs feed (line ++ cs) = (paragraphs feed cs).modifyHead (line ++ ·) := by
  induction line with
  | nil => exact (congrFun List.modifyHead_id _).symm
  | cons c line ih =>
    rw [List.mem_cons, not_or] at hline
    rw [List.cons_append, paragraphs_cons fun h => hline.1 h.1.symm, ih hline.2, List.modifyHead_modifyHead]
    rfl

/-- Lines that are not empty stand in one part, which the next empty line ends. -/
theorem paragraphs_lines {line : List α} {lines : List (List α)} (h : ∀ l ∈ line :: lines, feed ∉ l ∧ l ≠ [])
    (rest : List α) :
    paragraphs feed ((line :: lines).flatMap (· ++ [feed]) ++ feed :: rest) =
      [feed].intercalate (line :: lines) :: paragraphs feed rest := by
  induction lines generalizing line with
  | nil =>
    have hline := (h line List.mem_cons_self).1
    rw [List.flatMap_singleton, List.append_assoc, List.singleton_append, paragraphs_line hline, paragraphs,
      if_pos ⟨rfl, rfl⟩, List.modifyHead_cons, List.append_nil, List.intercalate_singleton]
  | cons next lines ih =>
    obtain ⟨⟨hline, -⟩, hlater⟩ := List.forall_mem_cons.1 h
    have hhead : ((next :: lines).flatMap (· ++ [feed]) ++ feed :: rest).head? ≠ some feed := by
      obtain ⟨hnext, hne⟩ := hlater next List.mem_cons_self
      obtain ⟨d, ds, rfl⟩ := List.exists_cons_of_ne_nil hne
      exact fun hd => hnext (Option.some.inj hd ▸ List.mem_cons_self)
    rw [List.flatMap_cons, List.append_assoc, List.append_assoc, List.singleton_append, paragraphs_line hline,
      paragraphs_cons fun h => hhead h.2, ih hlater, List.modifyHead_cons, List.modifyHead_cons,
      List.intercalate_cons_cons, List.append_assoc, List.singleton_append]

/-- The lines of such a part are those of which it is made. -/
theorem lines_intercalate {ls : List (List α)} (h : ∀ l ∈ ls, ret ∉ l ∧ feed ∉ l ∧ l ≠ []) :
    lines ret feed ([feed].intercalate ls) = ls := by
  induction ls with
  | nil => rfl
  | cons l ls ih =>
    obtain ⟨⟨hret, hfeed, hne⟩, hls⟩ := List.forall_mem_cons.1 h
    cases ls with
    | nil => rw [List.intercalate_singleton, lines_last hfeed hne]
    | cons next ls =>
      rw [List.intercalate_cons_cons, List.append_assoc, List.singleton_append, lines_line hret hfeed, ih hls]

end Text

/-! ## The line of a value -/

theorem isPrinted_text (v : Json) : ∀ c ∈ v.text.toList, Json.IsPrinted c := by
  rw [Json.text, String.toList_ofList]
  exact Json.isPrinted_chars v

/-- No byte of a written value is a control character. -/
theorem le_toNat_of_mem_text (v : Json) : ∀ b ∈ Bytes.ofText v.text, 0x20 ≤ b.toNat :=
  Bytes.le_toNat_of_mem_ofText (by decide) (isPrinted_text v)

theorem not_mem_ofText_text (v : Json) {b : UInt8} (hb : b.toNat < 0x20) : b ∉ Bytes.ofText v.text := by
  intro hmem
  have hle := le_toNat_of_mem_text v b hmem
  omega

theorem not_mem_text (v : Json) {c : Char} (hc : c.toNat < 0x20) : c ∉ v.text.toList := by
  intro hmem
  have hle : 0x20 ≤ c.toNat := isPrinted_text v c hmem
  omega

theorem ofText_frame (v : Json) : Bytes.ofText (frame v) = Bytes.ofText v.text ++ [lineFeed] := by
  rw [frame, Bytes.ofText_append]
  rfl

/-- The line of a value is cut off again as it was written. -/
theorem lines_frame (v : Json) (rest : Bytes) :
    (Bytes.ofText (frame v) ++ rest).lines = Bytes.ofText v.text :: rest.lines := by
  have hret : carriageReturn ∉ Bytes.ofText v.text := not_mem_ofText_text v (by decide)
  have hfeed : lineFeed ∉ Bytes.ofText v.text := not_mem_ofText_text v (by decide)
  rw [ofText_frame, List.append_assoc, List.singleton_append, Bytes.lines, Text.lines_line hret hfeed]
  rfl

/-- A last line needs no end. -/
theorem lines_text (v : Json) : (Bytes.ofText v.text).lines = [Bytes.ofText v.text] := by
  have hfeed : lineFeed ∉ Bytes.ofText v.text := not_mem_ofText_text v (by decide)
  exact Text.lines_last hfeed (Bytes.ofText_ne_nil v.text_ne_empty)

/-- A line with a value is answered like the value that is read from it. -/
theorem answerLine_text (server : Server) {v w : Json} (hread : Json.parse? v.text = some w) :
    server.answerLine v.text = server.answer w := by
  simp only [Server.answerLine, Json.trim_text, Json.isEmpty_text, Bool.false_eq_true, if_false, hread]

/-- A line with a value that cannot be read again is answered with a parse error. -/
theorem answerLine_unreadable (server : Server) {v : Json} (hread : Json.parse? v.text = none) :
    (server.answerLine v.text).value = some (RpcFault.parseError.reply none none) := by
  simp only [Server.answerLine, Json.trim_text, Json.isEmpty_text, Bool.false_eq_true, if_false, hread]
  rfl

/-- What a service writes over one line. -/
theorem value_serve_text (server : Server) {input : Bytes} {line : String} (hlines : input.lines = [Bytes.ofText line]) :
    (server.serve input).value = (((server.answerLine line).value.map frame).getD "", .inputEnded) := by
  simp only [Server.serve, hlines, Server.serveLines, Bytes.toText?_ofText, Logged.value_bind, Logged.value_pure]
  cases (server.answerLine line).value with
  | none => rfl
  | some reply => simp [String.join]

theorem value_serve_line (server : Server) {input : Bytes} {v w : Json} (hlines : input.lines = [Bytes.ofText v.text])
    (hread : Json.parse? v.text = some w) :
    (server.serve input).value = (((server.answer w).value.map frame).getD "", .inputEnded) := by
  rw [value_serve_text server hlines, answerLine_text server hread]

/-! ## The event of a value -/

theorem addLine_data (name data : List Char) :
    ServerEvent.addLine { name, data := [] } ("data: ".toList ++ data) = { name, data := [data] } := by
  have hevent : Text.after? "event:".toList ("data: ".toList ++ data) = none := rfl
  have hdata : Text.after? "data:".toList ("data: ".toList ++ data) = some (' ' :: data) := rfl
  have hspace : Text.after? [' '] (' ' :: data) = some data := rfl
  rw [ServerEvent.addLine, hevent, hdata]
  dsimp only
  rw [hspace]
  rfl

theorem eventText_toList (v : Json) :
    (Http.eventText v).toList =
      "event: message".toList ++ '\n' :: (("data: ".toList ++ v.text.toList) ++ ['\n', '\n']) := by
  have hhead : "event: message\ndata: ".toList = "event: message".toList ++ '\n' :: "data: ".toList := by decide +kernel
  have htail : "\n\n".toList = ['\n', '\n'] := by decide
  unfold Http.eventText
  generalize v.text = text
  rw [String.toList_append, String.toList_append, hhead, htail, List.append_assoc, List.append_assoc, List.cons_append,
    List.append_assoc]

/-- There are two events in the text, and only the first of them says anything. -/
theorem eventsOf_eventText (v : Json) :
    eventsOf (Http.eventText v) =
      [{ name := ServerEvent.messageName, data := [v.text.toList] }, ServerEvent.ofLines []] := by
  have hname : '\r' ∉ "event: message".toList ∧ '\n' ∉ "event: message".toList ∧ "event: message".toList ≠ [] := by
    decide
  have hblank : ServerEvent.addLine .blank "event: message".toList =
      { name := ServerEvent.messageName, data := [] } := by decide
  have hdata : '\r' ∉ "data: ".toList ++ v.text.toList ∧ '\n' ∉ "data: ".toList ++ v.text.toList ∧
      "data: ".toList ++ v.text.toList ≠ [] := by
    rw [List.mem_append, not_or, List.mem_append, not_or]
    exact ⟨⟨by decide, not_mem_text v (by decide)⟩, ⟨by decide, not_mem_text v (by decide)⟩,
      List.append_ne_nil_of_left_ne_nil (by decide) _⟩
  have hadd := addLine_data ServerEvent.messageName v.text.toList
  rw [eventsOf, eventText_toList]
  generalize "data: ".toList ++ v.text.toList = data at *
  generalize "event: message".toList = event at *
  have hlines : ∀ l ∈ [event, data], '\r' ∉ l ∧ '\n' ∉ l ∧ l ≠ [] :=
    List.forall_mem_cons.2 ⟨hname, List.forall_mem_singleton.2 hdata⟩
  have htext : event ++ '\n' :: (data ++ ['\n', '\n']) = [event, data].flatMap (· ++ ['\n']) ++ '\n' :: [] := by simp
  have hadded : ServerEvent.ofLines [event, data] = .addLine (.addLine .blank event) data := rfl
  rw [htext, Text.paragraphs_lines fun l hl => (hlines l hl).2, List.map_cons, Text.lines_intercalate hlines, hadded,
    hblank, hadd]
  rfl

/-- The event carries the value that is read from its text. -/
theorem messageOf_eventText {v w : Json} (hread : Json.parse? v.text = some w) :
    messageOf (Http.eventText v) = .ok w := by
  have htext : ServerEvent.text { name := ServerEvent.messageName, data := [v.text.toList] } = v.text := by
    rw [ServerEvent.text, List.intercalate_singleton, String.ofList_toList]
  have hmessage : ServerEvent.isMessage { name := ServerEvent.messageName, data := [v.text.toList] } = true := by
    simp [ServerEvent.isMessage]
  rw [messageOf, eventsOf_eventText, List.find?_cons_of_pos hmessage]
  dsimp only
  rw [htext, hread]

end ModelContext
