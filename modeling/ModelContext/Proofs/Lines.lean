import ModelContext.Proofs.Carriers
import ModelContext.Proofs.Outcomes

/-!
# Line by line

A service over lines answers each line for itself: what it writes over two parts of an input is what it
writes over the one and then over the other, up to the first line that is no text. A line is answered by its
text alone, without the white space around it and so without its end.
-/

namespace ModelContext

open Bytes

/-! ## Lines -/

theorem isText_append_return_iff {line : Bytes} : IsText (line ++ [carriageReturn]) ↔ IsText line :=
  (isText_append_iff (by decide)).trans (and_iff_left isText_nil)

theorem toText?_append_return (line : Bytes) :
    (line ++ [carriageReturn]).toText? = line.toText?.map fun s => s ++ "\r" := by
  cases hline : line.toText? with
  | none =>
    rw [toText?_eq_none_iff] at hline
    rw [Option.map_none, toText?_eq_none_iff, isText_append_return_iff]
    exact hline
  | some s =>
    obtain rfl := toText?_eq_some_iff.1 hline
    rw [Option.map_some, toText?_eq_some_iff, ofText_append]
    rfl

def lineBody (line : Bytes) : Bytes :=
  Text.dropLineEnd carriageReturn lineFeed (line ++ [lineFeed])

/-- It is the line itself, or all of it but a carriage return. -/
theorem exists_lineBody (line : Bytes) : ∃ body, lineBody line = body ∧ (line = body ∨ line = body ++ [carriageReturn]) := by
  refine ⟨_, rfl, ?_⟩
  rw [lineBody, Text.dropLineEnd, if_pos List.getLast?_concat, List.dropLast_concat]
  dsimp only
  split_ifs with hreturn
  · exact Or.inr (List.dropLast_append_getLast? _ hreturn).symm
  · exact Or.inl rfl

theorem lines_cons {line : Bytes} (hline : lineFeed ∉ line) (rest : Bytes) :
    (line ++ lineFeed :: rest).lines = lineBody line :: rest.lines :=
  Text.lines_cons hline rest

/-- An input is a text if each of its lines is one. -/
theorem isText_iff_lines (input : Bytes) : IsText input ↔ ∀ line ∈ input.lines, IsText line := by
  induction input using Text.lineInduction with
  | last line hline =>
    by_cases hne : line = []
    · subst hne
      exact iff_of_true isText_nil nofun
    · rw [Bytes.lines, Text.lines_last hline hne, List.forall_mem_singleton]
  | line line rest hline ih =>
    rw [isText_append_iff (by decide), lines_cons hline, List.forall_mem_cons, ih]
    apply and_congr_left'
    obtain ⟨body, hbody, rfl | rfl⟩ := exists_lineBody line
    · rw [hbody]
    · rw [hbody, isText_append_return_iff]

namespace Server

variable (server : Server)

theorem answerLine_append_return (line : String) : server.answerLine (line ++ "\r") = server.answerLine line := by
  have hblank : ∀ c ∈ "\r".toList, Text.isBlank c = true := List.forall_mem_singleton.2 rfl
  have htrim : Text.trim ("" ++ line ++ "\r") = Text.trim line := Text.trim_pad (by simp) hblank line
  rw [String.empty_append] at htrim
  rw [answerLine, answerLine, htrim]

def answerBytes? (line : Bytes) : Option (Logged (Option Json)) :=
  line.toText?.map server.answerLine

theorem answerBytes?_append_return (line : Bytes) :
    server.answerBytes? (line ++ [carriageReturn]) = server.answerBytes? line := by
  rw [answerBytes?, toText?_append_return, answerBytes?]
  cases line.toText? with
  | none => rfl
  | some s => rw [Option.map_some, Option.map_some, Option.map_some, answerLine_append_return]

/-- The end of a line does not change its answer. -/
theorem answerBytes?_lineBody (line : Bytes) : server.answerBytes? (lineBody line) = server.answerBytes? line := by
  obtain ⟨body, hbody, rfl | rfl⟩ := exists_lineBody line
  · rw [hbody]
  · rw [hbody, answerBytes?_append_return]

theorem serveLines_cons (line : Bytes) (later : List Bytes) :
    server.serveLines (line :: later) =
      match server.answerBytes? line with
      | none => pure ([], .notText)
      | some answer => (do
        let reply ← answer
        let (replies, finish) ← server.serveLines later
        pure (reply.toList ++ replies, finish)) := by
  rw [serveLines, answerBytes?]
  cases line.toText? <;> rfl

/-- Lines are served by their answers. -/
theorem serveLines_congr {lines others : List Bytes}
    (h : lines.map server.answerBytes? = others.map server.answerBytes?) :
    server.serveLines lines = server.serveLines others := by
  induction lines generalizing others with
  | nil => rw [List.map_eq_nil_iff.1 h.symm]
  | cons line lines ih =>
    cases others with
    | nil => cases h
    | cons other others =>
      rw [List.map_cons, List.map_cons, List.cons.injEq] at h
      rw [serveLines_cons, serveLines_cons, h.1, ih h.2]

theorem answerBytes?_ofText (line : String) : server.answerBytes? (ofText line) = some (server.answerLine line) := by
  rw [answerBytes?, toText?_ofText, Option.map_some]

theorem answerBytes?_of_not_text {line : Bytes} (h : ¬IsText line) : server.answerBytes? line = none := by
  rw [answerBytes?, toText?_eq_none_iff.2 h, Option.map_none]

def repliesTo (lines : List Bytes) : List Json :=
  lines.filterMap fun line => (server.answerBytes? line).bind (·.value)

/-- Lines that are texts are answered, and then what comes later is. -/
theorem value_serveLines_append {lines : List Bytes} (h : ∀ line ∈ lines, IsText line) (later : List Bytes) :
    (server.serveLines (lines ++ later)).value =
      (server.repliesTo lines ++ (server.serveLines later).value.1, (server.serveLines later).value.2) := by
  induction lines with
  | nil => rfl
  | cons line lines ih =>
    obtain ⟨⟨s, rfl⟩, hlines⟩ := List.forall_mem_cons.1 h
    have hreplies : server.repliesTo (ofText s :: lines) =
        (server.answerLine s).value.toList ++ server.repliesTo lines := by
      rw [repliesTo, List.filterMap_cons, answerBytes?_ofText, Option.bind_some]
      cases (server.answerLine s).value <;> rfl
    rw [List.cons_append, serveLines_cons, answerBytes?_ofText, hreplies]
    simp only [Logged.value_bind, Logged.value_pure, ih hlines, List.append_assoc]

theorem value_serve_append {lines : List Bytes} (h : ∀ line ∈ lines, IsText line) {input rest : Bytes}
    (hinput : input.lines = lines ++ rest.lines) :
    (server.serve input).value =
      (String.join ((server.repliesTo lines).map frame) ++ (server.serve rest).value.1, (server.serve rest).value.2) := by
  simp only [serve, hinput, Logged.value_bind, Logged.value_pure, server.value_serveLines_append h, List.map_append,
    String.join_append]

theorem value_serve_nil : (server.serve []).value = ("", .inputEnded) :=
  rfl

theorem value_serve_of_text {input : Bytes} (h : IsText input) :
    (server.serve input).value = (String.join ((server.repliesTo input.lines).map frame), .inputEnded) := by
  have hinput : input.lines = input.lines ++ Bytes.lines [] := (List.append_nil _).symm
  rw [server.value_serve_append ((isText_iff_lines input).1 h) hinput, value_serve_nil, String.append_empty]

/-- The first line that is no text ends the service. -/
theorem value_serve_of_not_text {lines later : List Bytes} (h : ∀ line ∈ lines, IsText line) {line input : Bytes}
    (hline : server.answerBytes? line = none) (hinput : input.lines = lines ++ line :: later) :
    (server.serve input).value = (String.join ((server.repliesTo lines).map frame), .notText) := by
  simp only [serve, hinput, Logged.value_bind, server.value_serveLines_append h, serveLines_cons, hline,
    Logged.value_pure, List.append_nil]

theorem end_serveLines (lines : List Bytes) :
    (server.serveLines lines).value.2 = .notText ↔ ¬∀ line ∈ lines, IsText line := by
  induction lines with
  | nil => exact iff_of_false nofun (not_not_intro nofun)
  | cons line lines ih =>
    rw [serveLines_cons, List.forall_mem_cons]
    by_cases hline : IsText line
    · obtain ⟨s, rfl⟩ := hline
      rw [answerBytes?_ofText, and_iff_right ⟨s, rfl⟩, ← ih]
      rfl
    · rw [answerBytes?_of_not_text server hline]
      exact iff_of_true rfl fun h => hline h.1

theorem lines_append_line {front line : Bytes} (hfront : Text.EndsLine lineFeed front) (hline : lineFeed ∉ line)
    (rest : Bytes) :
    (front ++ (line ++ lineFeed :: rest)).lines = front.lines ++ lineBody line :: rest.lines := by
  rw [Bytes.lines, Text.lines_append hfront, ← Bytes.lines, ← Bytes.lines, lines_cons hline]

/-- A line can be ended by a carriage return and a line feed as well. -/
theorem serve_return_feed (front rest : Bytes) :
    server.serve (front ++ carriageReturn :: lineFeed :: rest) = server.serve (front ++ lineFeed :: rest) := by
  obtain ⟨before, line, rfl, hbefore, hline⟩ := Text.exists_endsLine_append lineFeed front
  have hreturn : lineFeed ∉ line ++ [carriageReturn] := by
    rw [List.mem_append, not_or]
    exact ⟨hline, by decide⟩
  have hlines : server.serveLines (Bytes.lines (before ++ line ++ carriageReturn :: lineFeed :: rest)) =
      server.serveLines (Bytes.lines (before ++ line ++ lineFeed :: rest)) := by
    apply serveLines_congr
    rw [List.append_assoc before, List.append_assoc before, List.append_cons line, lines_append_line hbefore hreturn,
      lines_append_line hbefore hline]
    simp only [List.map_append, List.map_cons, answerBytes?_lineBody, answerBytes?_append_return]
  rw [serve, hlines, serve]

section Line

variable {line : String} {input : Bytes}

theorem answerLine_of_blank (h : IsBlank line) : server.answerLine line = pure none := by
  rw [answerLine]
  exact if_pos (isEmpty_trim_iff.2 h)

theorem value_answerLine (h : ¬IsBlank line) :
    (server.answerLine line).value =
      match Json.parse? (Text.trim line) with
      | some message => (server.answer message).value
      | none => some (RpcFault.parseError.reply none none) := by
  have hsome : ¬(Text.trim line).isEmpty = true := mt isEmpty_trim_iff.1 h
  rw [answerLine, if_neg hsome]
  cases Json.parse? (Text.trim line) <;> rfl

/-- What a service writes over one line, with or without a line feed at its end. -/
theorem value_serve_one_line (hline : '\n' ∉ line.toList)
    (hinput : input = ofText (line ++ "\n") ∨ input = ofText line) :
    (server.serve input).value = (((server.answerLine line).value.map frame).getD "", .inputEnded) := by
  have hfeed : lineFeed ∉ ofText line := fun hmem => hline (mem_of_mem_ofText (by decide) hmem)
  have hwritten {body : Bytes} (hlines : input.lines = [body])
      (hbody : server.answerBytes? body = some (server.answerLine line)) :
      (server.serve input).value = (((server.answerLine line).value.map frame).getD "", .inputEnded) := by
    obtain ⟨read, hread, hsame⟩ := Option.map_eq_some_iff.1 hbody
    rw [toText?_eq_some_iff.1 hread] at hlines
    rw [value_serve_text server hlines, hsame]
  rcases hinput with rfl | rfl
  · have hlines : (ofText (line ++ "\n")).lines = [lineBody (ofText line)] := by
      rw [ofText_append]
      exact lines_cons hfeed []
    exact hwritten hlines ((server.answerBytes?_lineBody _).trans (server.answerBytes?_ofText line))
  · by_cases hempty : line = ""
    · subst hempty
      rfl
    · exact hwritten (Text.lines_last hfeed (ofText_ne_nil hempty)) (server.answerBytes?_ofText line)

end Line

end Server

/-- The same input, in which some line feeds have a carriage return put before them. -/
inductive Recoded : Bytes → Bytes → Prop where
  | nil : Recoded [] []
  | keep (b : UInt8) {input other : Bytes} (h : Recoded input other) : Recoded (b :: input) (b :: other)
  | lineEnd {input other : Bytes} (h : Recoded input other) :
      Recoded (lineFeed :: input) (carriageReturn :: lineFeed :: other)

theorem Recoded.serve_eq {input other : Bytes} (h : Recoded input other) (server : Server) (front : Bytes) :
    server.serve (front ++ other) = server.serve (front ++ input) := by
  induction h generalizing front with
  | nil => rfl
  | keep b _ ih =>
    rw [List.append_cons, ih, ← List.append_cons]
  | lineEnd _ ih =>
    rw [← server.serve_return_feed front, List.append_cons, List.append_cons, ih, ← List.append_cons,
      ← List.append_cons]

structure LineByLine (server : Server) : Prop where
  /-- What follows whole lines of text is answered after them, and decides how the service ends. -/
  append : ∀ input rest, IsText input → Text.EndsLine lineFeed input →
    (server.serve (input ++ rest)).value =
      ((server.serve input).value.1 ++ (server.serve rest).value.1, (server.serve rest).value.2)
  /-- A line of white space is left unanswered. -/
  blank : ∀ line input, '\n' ∉ line.toList → (input = ofText (line ++ "\n") ∨ input = ofText line) →
    IsBlank line → (server.serve input).value = ("", .inputEnded)
  /-- Any other line is left unanswered exactly if there is no answer to the value in it. -/
  silent : ∀ line input, '\n' ∉ line.toList → (input = ofText (line ++ "\n") ∨ input = ofText line) →
    ¬IsBlank line → ((server.serve input).value.1 = "" ↔
      ∃ message, Json.parse? (Text.trim line) = some message ∧ (server.answer message).value = none)
  /-- If it is answered, then by one line, from which the answer can be read. -/
  answered : ∀ line input, '\n' ∉ line.toList → (input = ofText (line ++ "\n") ∨ input = ofText line) →
    ¬IsBlank line → (server.serve input).value.1 ≠ "" →
      ∃ reply, (server.serve input).value = (reply.text ++ "\n", .inputEnded) ∧ '\n' ∉ reply.text.toList ∧
        Json.parse? reply.text = some reply ∧
        ((∃ message, Json.parse? (Text.trim line) = some message ∧ (server.answer message).value = some reply) ∨
          Json.parse? (Text.trim line) = none ∧ reply = errorReply none (-32700) "Parse error" none)
  /-- A carriage return before a line feed makes no difference. -/
  recoded : ∀ input other, Recoded input other → server.serve other = server.serve input
  /-- Only an input that is no text ends the service early. -/
  ended : ∀ input, (server.serve input).value.2 = .notText ↔ ¬IsText input
  /-- It ends it at its first line that is no text, and nothing after that is answered. -/
  not_text : ∀ input line rest, IsText input → Text.EndsLine lineFeed input → lineFeed ∉ line → ¬IsText line →
    (rest = [] ∨ ∃ later, rest = lineFeed :: later) →
      (server.serve (input ++ (line ++ rest))).value = ((server.serve input).value.1, .notText)

theorem map_frame_eq_empty_iff {reply : Option Json} : (reply.map frame).getD "" = "" ↔ reply = none := by
  cases reply with
  | none => exact iff_of_true rfl rfl
  | some reply =>
    refine iff_of_false ?_ nofun
    rw [Option.map_some, Option.getD_some, frame, String.append_eq_empty_iff]
    exact fun h => reply.text_ne_empty h.1

theorem parse?_parseError :
    Json.parse? (RpcFault.parseError.reply none none).text = some (RpcFault.parseError.reply none none) := by
  decide +kernel

theorem served_line_by_line (server : Server) : LineByLine server where
  append input rest htext hends := by
    have hlines : (input ++ rest).lines = input.lines ++ rest.lines := Text.lines_append hends rest
    rw [server.value_serve_append ((isText_iff_lines input).1 htext) hlines, server.value_serve_of_text htext]
  blank line input hline hinput hblank := by
    rw [server.value_serve_one_line hline hinput, server.answerLine_of_blank hblank]
    rfl
  silent line input hline hinput hblank := by
    rw [server.value_serve_one_line hline hinput, map_frame_eq_empty_iff, server.value_answerLine hblank]
    cases Json.parse? (Text.trim line) with
    | none => simp
    | some message => simp
  answered line input hline hinput hblank hne := by
    have hvalue := server.value_serve_one_line hline hinput
    rw [hvalue, Ne, map_frame_eq_empty_iff] at hne
    obtain ⟨reply, hreply⟩ := Option.ne_none_iff_exists'.1 hne
    rw [hreply] at hvalue
    refine ⟨reply, hvalue, not_mem_text reply (by decide), ?_⟩
    rw [server.value_answerLine hblank] at hreply
    cases hread : Json.parse? (Text.trim line) with
    | some message =>
      rw [hread] at hreply
      exact ⟨parse?_answer hreply, Or.inl ⟨message, rfl, hreply⟩⟩
    | none =>
      rw [hread] at hreply
      obtain rfl := Option.some.inj hreply
      exact ⟨parse?_parseError, Or.inr ⟨rfl, rfl⟩⟩
  recoded input other h := h.serve_eq server []
  ended input := by
    rw [isText_iff_lines, ← server.end_serveLines]
    rfl
  not_text input line rest htext hends hline hnot hrest := by
    have hinput := (isText_iff_lines input).1 htext
    have hnone := server.answerBytes?_of_not_text hnot
    rw [server.value_serve_of_text htext]
    rcases hrest with rfl | ⟨later, rfl⟩
    · have hne : line ≠ [] := by
        rintro rfl
        exact hnot isText_nil
      have hlines : (input ++ (line ++ [])).lines = input.lines ++ [line] := by
        rw [List.append_nil, Bytes.lines, Text.lines_append hends, Text.lines_last hline hne, ← Bytes.lines]
      exact server.value_serve_of_not_text hinput hnone hlines
    · rw [← server.answerBytes?_lineBody] at hnone
      exact server.value_serve_of_not_text hinput hnone (Server.lines_append_line hends hline later)

end ModelContext
