import ModelContext.Proofs.Admission
import ModelContext.Proofs.Framing

/-!
# The types that a client accepts

Accept headers say together which types a client takes: what counts are the elements between the commas of all values
that can be read, in any order and in as many headers as one likes. Event streams are taken if one element begins with
their type.
-/

namespace ModelContext

namespace Text

variable {α : Type} [DecidableEq α] {sep : α}

/-! ## Parts between separators -/

/-- What stands between two separators, or between a separator and an end. -/
def IsPart (sep : α) (xs part : List α) : Prop :=
  ∃ front back, xs = front ++ part ++ back ∧ sep ∉ part ∧ (front = [] ∨ front.getLast? = some sep) ∧
    (back = [] ∨ back.head? = some sep)

theorem splitOn_line {line : List α} (hline : sep ∉ line) (rest : List α) :
    splitOn sep (line ++ sep :: rest) = line :: splitOn sep rest := by
  induction line with
  | nil => rw [List.nil_append, splitOn, if_pos rfl]
  | cons c line ih =>
    rw [List.mem_cons, not_or] at hline
    rw [List.cons_append, splitOn, if_neg (Ne.symm hline.1), ih hline.2]

theorem splitOn_last {line : List α} (hline : sep ∉ line) : splitOn sep line = [line] := by
  induction line with
  | nil => rfl
  | cons c line ih =>
    rw [List.mem_cons, not_or] at hline
    rw [splitOn, if_neg (Ne.symm hline.1), ih hline.2]

theorem splitOn_append (front back : List α) :
    splitOn sep (front ++ sep :: back) = splitOn sep front ++ splitOn sep back := by
  induction front using lineInduction with
  | last line hline => rw [splitOn_line hline, splitOn_last hline, List.singleton_append]
  | line line rest hline ih =>
    rw [List.append_assoc, List.cons_append, splitOn_line hline, splitOn_line hline, ih, List.cons_append]

theorem mem_splitOn_iff {xs part : List α} : part ∈ splitOn sep xs ↔ IsPart sep xs part := by
  constructor
  · induction xs using lineInduction with
    | last line hline =>
      rw [splitOn_last hline, List.mem_singleton]
      rintro rfl
      exact ⟨[], [], by simp, hline, .inl rfl, .inl rfl⟩
    | line line rest hline ih =>
      rw [splitOn_line hline, List.mem_cons]
      rintro (rfl | hmem)
      · exact ⟨[], sep :: rest, rfl, hline, .inl rfl, .inr rfl⟩
      · obtain ⟨front, back, rfl, hpart, hfront, hback⟩ := ih hmem
        exact ⟨line ++ sep :: front, back, by simp, hpart, endsLine_line_iff.2 hfront, hback⟩
  · rintro ⟨front, back, rfl, hpart, hfront, hback⟩
    have hmem : part ∈ splitOn sep (part ++ back) := by
      cases back with
      | nil => rw [List.append_nil, splitOn_last hpart]; exact List.mem_cons_self
      | cons c back =>
        obtain rfl : c = sep := Option.some.inj (hback.resolve_left (List.cons_ne_nil c back))
        rw [splitOn_line hpart]
        exact List.mem_cons_self
    rcases hfront with rfl | hlast
    · exact hmem
    · obtain ⟨init, rfl⟩ := List.getLast?_eq_some_iff.1 hlast
      rw [List.append_assoc, List.append_assoc, List.singleton_append, splitOn_append]
      exact List.mem_append_right _ hmem

theorem splitOn_map {β : Type} [DecidableEq β] {f : α → β} (hf : Function.Injective f) (xs : List α) :
    splitOn (f sep) (xs.map f) = (splitOn sep xs).map (List.map f) := by
  induction xs using lineInduction with
  | last line hline =>
    rw [splitOn_last hline, splitOn_last (by rwa [List.mem_map_of_injective hf])]
    rfl
  | line line rest hline ih =>
    rw [List.map_append, List.map_cons, splitOn_line (by rwa [List.mem_map_of_injective hf]), ih, splitOn_line hline,
      List.map_cons]

end Text

namespace Http

/-! ## Elements of accept headers -/

def comma : UInt8 := 0x2C

def semicolon : UInt8 := 0x3B

/-- A header value that can be read: visible ASCII characters, spaces and tabs. -/
def IsReadable (value : Bytes) : Prop :=
  ∀ b ∈ value, (0x20 ≤ b.toNat ∧ b.toNat ≤ 0x7E) ∨ b.toNat = 0x09

def IsPadding (bytes : Bytes) : Prop :=
  ∀ b ∈ bytes, b = 0x20 ∨ b = 0x09

/-- An element of a list of header values, as it stands between two commas or at an end. -/
def IsElement (accepted : List Bytes) (element : Bytes) : Prop :=
  ∃ value ∈ accepted, IsReadable value ∧ Text.IsPart comma value element

def BeginsWithEventStream (element : Bytes) : Prop :=
  ∃ padding rest, IsPadding padding ∧ element = padding ++ Bytes.ofText "text/event-stream" ++ rest

/-- The type of event streams with spaces and tabs around it, alone or with parameters. -/
def IsEventStream (element : Bytes) : Prop :=
  ∃ front parameters back, IsPadding front ∧ (parameters = [] ∨ parameters.head? = some semicolon) ∧ IsPadding back ∧
    element = front ++ Bytes.ofText "text/event-stream" ++ parameters ++ back

/-- One header value made of several: commas join them, with any spaces and tabs around each comma. -/
inductive Joins : List Bytes → Bytes → Prop where
  | none : Joins [] []
  | one (value : Bytes) : Joins [value] value
  | more (value : Bytes) {front back : Bytes} (hfront : IsPadding front) (hback : IsPadding back) {next : Bytes}
      {later : List Bytes} {joined : Bytes} (h : Joins (next :: later) joined) :
      Joins (value :: next :: later) (value ++ front ++ comma :: (back ++ joined))

theorem IsEventStream.begins {element : Bytes} (h : IsEventStream element) : BeginsWithEventStream element := by
  obtain ⟨front, parameters, back, hfront, -, -, rfl⟩ := h
  exact ⟨front, parameters ++ back, hfront, List.append_assoc _ _ _⟩

theorem isReadable_iff {value : Bytes} : IsReadable value ↔ value.all isTextByte = true := by
  rw [List.all_eq_true]
  exact forall₂_congr fun b _ => isTextByte_iff.symm

theorem isPadding_iff {bytes : Bytes} : IsPadding bytes ↔ ∀ b ∈ bytes, isBlankByte b = true := by
  refine forall₂_congr fun b _ => ?_
  rw [isBlankByte, Bool.or_eq_true, beq_iff_eq, beq_iff_eq, ← UInt8.toNat_inj, ← UInt8.toNat_inj]
  rfl

theorem IsPadding.readable {bytes : Bytes} (h : IsPadding bytes) : IsReadable bytes := by
  intro b hb
  rcases h b hb with rfl | rfl
  · exact .inl (by decide)
  · exact .inr rfl

theorem IsPadding.no_comma {bytes : Bytes} (h : IsPadding bytes) : comma ∉ bytes := by
  intro hmem
  exact absurd (h comma hmem) (by decide)

/-- Is an element, without blanks around it, the type of event streams or longer than that? -/
def isEventStream (element : Bytes) : Bool :=
  (Bytes.ofText eventStream).isPrefixOf (Text.strip isBlankByte element)

def listsEventStream (value : Bytes) : Bool :=
  (Text.splitOn comma value).any isEventStream

theorem isEventStream_iff {element : Bytes} : isEventStream element = true ↔ BeginsWithEventStream element := by
  rw [isEventStream, List.isPrefixOf_iff_prefix]
  constructor
  · rintro ⟨rest, hrest⟩
    -- What is cut at the end comes after the type as well.
    obtain ⟨cut, hcut⟩ : Text.strip isBlankByte element <+: element.dropWhile isBlankByte := by
      rw [← List.reverse_suffix, Text.strip, Text.dropEndWhile, List.reverse_reverse]
      exact List.dropWhile_suffix _
    refine ⟨element.takeWhile isBlankByte, rest ++ cut, isPadding_iff.2 fun b hb => List.mem_takeWhile_imp hb, ?_⟩
    rw [List.append_assoc, ← List.append_assoc (Bytes.ofText "text/event-stream")]
    conv_lhs => rw [← List.takeWhile_append_dropWhile (p := isBlankByte) (l := element), ← hcut, ← hrest]
    rfl
  · rintro ⟨padding, rest, hpadding, rfl⟩
    have hhead : ∀ b ∈ (Bytes.ofText "text/event-stream" ++ rest).head?, isBlankByte b = false := by
      rw [List.head?_append_of_ne_nil _ (Bytes.ofText_ne_nil (by decide))]
      decide +kernel
    have hlast : ∀ b ∈ (Bytes.ofText "text/event-stream").getLast?, isBlankByte b = false := by decide +kernel
    rw [List.append_assoc, Text.strip_append_left (isPadding_iff.1 hpadding), Text.strip, Text.dropWhile_eq_self hhead,
      Text.dropEndWhile_append_of_stop hlast]
    exact List.prefix_append _ _

theorem listsEventStream_comma (front back : Bytes) :
    listsEventStream (front ++ comma :: back) = (listsEventStream front || listsEventStream back) := by
  rw [listsEventStream, Text.splitOn_append, List.any_append, listsEventStream, listsEventStream]

theorem listsEventStream_of_no_comma {value : Bytes} (h : comma ∉ value) :
    listsEventStream value = isEventStream value := by
  rw [listsEventStream, Text.splitOn_last h, List.any_cons, List.any_nil, Bool.or_false]

/-- Padding at the end of a value belongs to its last element, which is read without it. -/
theorem listsEventStream_padded (value : Bytes) {padding : Bytes} (h : IsPadding padding) :
    listsEventStream (value ++ padding) = listsEventStream value := by
  have hline {line : Bytes} (hline : comma ∉ line) : listsEventStream (line ++ padding) = listsEventStream line := by
    have hpadded : comma ∉ line ++ padding := by
      rw [List.mem_append, not_or]
      exact ⟨hline, h.no_comma⟩
    rw [listsEventStream_of_no_comma hpadded, listsEventStream_of_no_comma hline, isEventStream,
      Text.strip_append_right (isPadding_iff.1 h), isEventStream]
  induction value using Text.lineInduction with
  | last line hlast => exact hline hlast
  | line line rest _ ih =>
    rw [List.append_assoc, List.cons_append, listsEventStream_comma, ih, listsEventStream_comma]

/-- So does padding in front of a value with its first element. -/
theorem listsEventStream_indented (value : Bytes) {padding : Bytes} (h : IsPadding padding) :
    listsEventStream (padding ++ value) = listsEventStream value := by
  have hline {line : Bytes} (hline : comma ∉ line) : listsEventStream (padding ++ line) = listsEventStream line := by
    have hpadded : comma ∉ padding ++ line := by
      rw [List.mem_append, not_or]
      exact ⟨h.no_comma, hline⟩
    rw [listsEventStream_of_no_comma hpadded, listsEventStream_of_no_comma hline, isEventStream,
      Text.strip_append_left (isPadding_iff.1 h), isEventStream]
  cases value using Text.lineInduction with
  | last line hlast => exact hline hlast
  | line line rest hfirst =>
    rw [← List.append_assoc, listsEventStream_comma, hline hfirst, listsEventStream_comma]

/-! ## All values together -/

theorem listsEventStream_iff {value : Bytes} :
    listsEventStream value = true ↔ ∃ element, Text.IsPart comma value element ∧ BeginsWithEventStream element := by
  simp only [listsEventStream, List.any_eq_true, Text.mem_splitOn_iff, isEventStream_iff]

theorem strip_map_charOf {bytes : Bytes} (h : IsReadable bytes) :
    Text.strip Text.isBlank (bytes.map charOf) = (Text.strip isBlankByte bytes).map charOf := by
  have hreadable : ∀ b ∈ bytes, isTextByte b = true := List.all_eq_true.1 (isReadable_iff.1 h)
  have hcut : ∀ b ∈ (bytes.dropWhile isBlankByte).reverse, isTextByte b = true := fun b hb =>
    hreadable b ((List.dropWhile_sublist _).subset (List.mem_reverse.1 hb))
  rw [Text.strip, dropWhile_isBlank_map_charOf hreadable, Text.dropEndWhile, ← List.map_reverse,
    dropWhile_isBlank_map_charOf hcut, ← List.map_reverse, Text.strip, Text.dropEndWhile]

/-- In the characters of an element the same is looked for as in its bytes. -/
theorem isPrefixOf_strip_map_charOf {element : Bytes} (h : IsReadable element) :
    eventStream.toList.isPrefixOf (Text.strip Text.isBlank (element.map charOf)) = isEventStream element := by
  have hname : eventStream.toList = (Bytes.ofText eventStream).map charOf := by decide +kernel
  rw [strip_map_charOf h, hname, isEventStream, Bool.eq_iff_iff, List.isPrefixOf_iff_prefix, List.isPrefixOf_iff_prefix]
  exact List.prefix_map_iff_of_injective charOf_injective

theorem any_splitOn_map_charOf {value : Bytes} (h : IsReadable value) :
    ((Text.splitOn ',' (value.map charOf)).any fun part =>
      eventStream.toList.isPrefixOf (Text.strip Text.isBlank part)) = listsEventStream value := by
  have hcomma : ',' = charOf comma := by decide
  have hpart (element : Bytes) (hmem : element ∈ Text.splitOn comma value) : IsReadable element := by
    obtain ⟨front, back, rfl, -⟩ := Text.mem_splitOn_iff.1 hmem
    exact fun b hb => h b (List.mem_append_left _ (List.mem_append_right _ hb))
  rw [hcomma, Text.splitOn_map charOf_injective, List.any_map, listsEventStream, Bool.eq_iff_iff, List.any_eq_true,
    List.any_eq_true]
  refine exists_congr fun element => and_congr_right fun hmem => ?_
  rw [Function.comp_apply, isPrefixOf_strip_map_charOf (hpart element hmem)]

/-- An event stream is accepted if a value that can be read lists one. -/
theorem acceptsEventStream_iff {accepted : List Bytes} :
    acceptsEventStream accepted = true ↔ ∃ value ∈ accepted, IsReadable value ∧ listsEventStream value = true := by
  have hvalue (value : Bytes) :
      ((headerText? value).any fun text => (Text.splitOn ',' text.toList).any fun part =>
        eventStream.toList.isPrefixOf (Text.strip Text.isBlank part)) = true ↔
        IsReadable value ∧ listsEventStream value = true := by
    by_cases hreadable : IsReadable value
    · have htext : headerText? value = some (String.ofList (value.map charOf)) := if_pos (isReadable_iff.1 hreadable)
      rw [htext, Option.any_some, String.toList_ofList, any_splitOn_map_charOf hreadable, and_iff_right hreadable]
    · have htext : headerText? value = none := if_neg (mt isReadable_iff.2 hreadable)
      rw [htext, Option.any_none]
      exact iff_of_false Bool.false_ne_true fun h => hreadable h.1
  rw [acceptsEventStream, List.any_flatMap, List.any_filterMap, List.any_eq_true]
  exact exists_congr fun value => and_congr_right fun _ => hvalue value

/-- Nothing depends on values that cannot be read, or on the order of the others. -/
theorem acceptsEventStream_congr {accepted others : List Bytes}
    (h : ∀ value, IsReadable value → (value ∈ others ↔ value ∈ accepted)) :
    acceptsEventStream others = acceptsEventStream accepted := by
  rw [Bool.eq_iff_iff, acceptsEventStream_iff, acceptsEventStream_iff]
  refine exists_congr fun value => ?_
  rw [and_left_comm, and_left_comm (a := value ∈ accepted)]
  exact and_congr_right fun hreadable => and_congr_left fun _ => h value hreadable

/-- Joined to one value, the values list what they list one by one. -/
theorem listsEventStream_joined {accepted : List Bytes} {value : Bytes} (h : Joins accepted value) :
    listsEventStream value = accepted.any listsEventStream := by
  induction h with
  | none => decide +kernel
  | one value => rw [List.any_cons, List.any_nil, Bool.or_false]
  | more value hfront hback _ ih =>
    rw [listsEventStream_comma, listsEventStream_padded _ hfront, listsEventStream_indented _ hback, ih,
      ← List.any_cons]

theorem Joins.readable {accepted : List Bytes} {value : Bytes} (h : Joins accepted value)
    (hall : ∀ value ∈ accepted, IsReadable value) : IsReadable value := by
  induction h with
  | none => exact fun b hb => absurd hb List.not_mem_nil
  | one value => exact hall value List.mem_cons_self
  | more value hfront hback _ ih =>
    have hcomma : IsReadable [comma] := by simp [IsReadable, comma]
    have hlater := ih fun value hmem => hall value (List.mem_cons_of_mem _ hmem)
    intro b hb
    simp only [List.mem_append, List.mem_cons] at hb
    rcases hb with (hb | hb) | rfl | hb | hb
    · exact hall value List.mem_cons_self b hb
    · exact hfront.readable b hb
    · exact hcomma comma List.mem_cons_self
    · exact hback.readable b hb
    · exact hlater b hb

/-! ## What accept headers say -/

structure AcceptRules (accepted : List Bytes) : Prop where
  /-- Neither the order of the values nor values that cannot be read, wherever they stand, change the answer. -/
  order : ∀ unreadable others : List Bytes, (∀ value ∈ unreadable, ¬IsReadable value) →
    others.Perm (accepted ++ unreadable) → acceptsEventStream others = acceptsEventStream accepted
  /-- One header made of all values says the same as the values. -/
  joined : (∀ value ∈ accepted, IsReadable value) → ∀ value, Joins accepted value →
    acceptsEventStream [value] = acceptsEventStream accepted
  /-- What decides is how the elements begin. -/
  begins_iff : acceptsEventStream accepted = true ↔
    ∃ element, IsElement accepted element ∧ BeginsWithEventStream element
  /-- The type of event streams, alone or with parameters, is taken. -/
  eventStream : ∀ element, IsElement accepted element → IsEventStream element → acceptsEventStream accepted = true

theorem accepted_by_elements (accepted : List Bytes) : AcceptRules accepted where
  order unreadable others hunreadable hperm := by
    refine acceptsEventStream_congr fun value hreadable => ?_
    rw [hperm.mem_iff, List.mem_append, or_iff_left fun hmem => hunreadable value hmem hreadable]
  joined hall value hjoins := by
    rw [Bool.eq_iff_iff, acceptsEventStream_iff, acceptsEventStream_iff]
    have hvalue : IsReadable value := hjoins.readable hall
    simp only [List.mem_singleton, exists_eq_left, hvalue, true_and, listsEventStream_joined hjoins, List.any_eq_true]
    exact exists_congr fun value => and_congr_right fun hmem => (and_iff_right (hall value hmem)).symm
  begins_iff := by
    rw [acceptsEventStream_iff]
    simp only [listsEventStream_iff, IsElement]
    constructor
    · rintro ⟨value, hmem, hreadable, element, hpart, hbegins⟩
      exact ⟨element, ⟨value, hmem, hreadable, hpart⟩, hbegins⟩
    · rintro ⟨element, ⟨value, hmem, hreadable, hpart⟩, hbegins⟩
      exact ⟨value, hmem, hreadable, element, hpart, hbegins⟩
  eventStream element helement hstream := by
    obtain ⟨value, hmem, hreadable, hpart⟩ := helement
    exact acceptsEventStream_iff.2 ⟨value, hmem, hreadable, listsEventStream_iff.2 ⟨element, hpart, hstream.begins⟩⟩

end Http

end ModelContext
