import ModelContext.Proofs.ClientView
import ModelContext.Proofs.Greetings
import Mathlib.Data.List.Basic

/-!
# What is listed is what is served

A server tells what it has in listings, and it looks up tools and resources without them. Both agree: a tool is
unknown exactly if no entry of the listing of tools has its name, and an address can be read exactly if a listed
resource has it or a listed template has it as an instance, whose type of contents is then the type that is listed.
-/

namespace ModelContext

open Json

/-! ## Members of what is listed -/

/-- The value of a key is the one that is present under it, if each key is given once. -/
theorem get?_ofPresent {fields : List (String × Option Json)} (hkeys : (fields.map Prod.fst).Nodup) (key : String) :
    (ofPresent fields).get? key = (fields.lookup key).join := by
  change (fields.filterMap fun field => field.2.map (field.1, ·)).lookup key = (fields.lookup key).join
  induction fields with
  | nil => rfl
  | cons field fields ih =>
    obtain ⟨first, value⟩ := field
    rw [List.map_cons, List.nodup_cons] at hkeys
    specialize ih hkeys.2
    by_cases hkey : key = first
    · subst hkey
      cases value with
      | some v => simp
      | none =>
        -- The key is not given again, so nothing is found under it.
        have habsent : fields.lookup key = none := by
          rw [List.lookup_eq_none_iff]
          intro field hfield
          exact bne_iff_ne.2 fun hsame => hkeys.1 (List.mem_map.2 ⟨field, hfield, hsame.symm⟩)
        rw [habsent] at ih
        simpa using ih
    · have hne : (key == first) = false := beq_false_of_ne hkey
      cases value with
      | some v => simpa [List.lookup_cons, hne] using ih
      | none => simpa [List.lookup_cons, hne] using ih

theorem Tool.get?_name (tool : Tool) : tool.toJson.get? "name" = some (.str tool.name) := by
  rw [Tool.toJson, get?_ofPresent (by simp)]
  rfl

theorem ResourceTemplate.get?_uriTemplate (template : ResourceTemplate) :
    template.toJson.get? "uriTemplate" = some (.str template.uriTemplate) := by
  rw [ResourceTemplate.toJson, get?_ofPresent (by simp)]
  rfl

theorem ResourceTemplate.get?_mimeType (template : ResourceTemplate) :
    template.toJson.get? "mimeType" = template.mimeType.map .str := by
  rw [ResourceTemplate.toJson, get?_ofPresent (by simp)]
  exact Option.join_some

theorem Page.get?_items {α : Type} {key : String} (hkey : key ∉ ["_meta", "nextCursor"]) (write : α → Json)
    (page : Page α) : (page.toJson key write).get? key = some (.arr (page.items.map write)) := by
  have hmeta : key ≠ "_meta" := fun h => hkey (h ▸ List.mem_cons_self)
  have hcursor : key ≠ "nextCursor" := fun h => hkey (h ▸ List.mem_cons_of_mem _ List.mem_cons_self)
  rw [Page.toJson, get?_ofPresent (by simp [hmeta.symm, hcursor.symm]), List.lookup_cons, beq_false_of_ne hmeta,
    List.lookup_cons, beq_false_of_ne hcursor, List.lookup_cons_self]
  rfl

/-! ## Listings -/

def entriesIn? (listing : Listing) (reply : Json) : Option (List Json) :=
  ((reply.get? "result").bind (·.get? listing.key)).bind Json.items?

def IsListed (server : Server) (listing : Listing) (entries : List Json) : Prop :=
  ∃ fields id params reply, IsRequest fields id listing.methodName params ∧
    (server.answerMessage (.obj fields)).value = some reply ∧ entriesIn? listing reply = some entries

theorem get?_resultReply (id : Option Json) (result : Fields) :
    (resultReply id (.obj result)).get? "result" = some (.obj result) := by
  unfold resultReply
  split <;> rfl

theorem entriesIn?_resultReply (listing : Listing) (id : Option Json) (items : List listing.Item) :
    entriesIn? listing (resultReply id (listing.pageToJson (.whole items))) =
      some (items.map listing.itemToJson) := by
  have hkey : listing.key ∉ ["_meta", "nextCursor"] := by cases listing <;> decide
  have hresult : (resultReply id (listing.pageToJson (.whole items))).get? "result" =
      some (listing.pageToJson (.whole items)) := get?_resultReply id _
  rw [entriesIn?, hresult, Option.bind_some, Listing.pageToJson, Page.get?_items hkey]
  rfl

section Listings

variable (server : Server) {listing : Listing} {fields : Fields} {id : Json} {params taken : Option Fields}

theorem value_answerRequest_list (sent : Id) (haccepts : (Method.list listing).accepts (taken.map .obj) = true) :
    (server.answerRequest sent listing.methodName taken).value =
      resultReply (some sent.toJson) (listing.pageToJson (.whole (Server.items listing))) := by
  have hanswer := value_answerRequest_of_accepts server sent (.list listing) taken haccepts
  rw [Server.respond, Method.ofName?_name] at hanswer
  exact hanswer

/-- A request for a listing is answered with all its items, whichever page it asks for. -/
theorem IsRequest.exists_entries (h : IsRequest fields id listing.methodName params)
    (htaken : takeOver? params = some taken) (haccepts : (Method.list listing).accepts (taken.map .obj) = true) :
    ∃ reply, (server.answerMessage (.obj fields)).value = some reply ∧
      entriesIn? listing reply = some ((Server.items listing).map listing.itemToJson) := by
  obtain ⟨sent, -, hanswer⟩ := h.value_answerMessage server htaken
  rw [value_answerRequest_list server sent haccepts] at hanswer
  exact ⟨_, hanswer, entriesIn?_resultReply listing _ _⟩

end Listings

theorem isListed_iff {server : Server} {listing : Listing} {entries : List Json} :
    IsListed server listing entries ↔ entries = (Server.items listing).map listing.itemToJson := by
  constructor
  · rintro ⟨fields, id, params, reply, hrequest, hreply, hentries⟩
    cases htaken : takeOver? params with
    | none =>
      rw [hrequest.value_answerMessage_of_unreadable server htaken] at hreply
      obtain rfl := Option.some.inj hreply
      cases hentries
    | some taken =>
      cases haccepts : (Method.list listing).accepts (taken.map .obj) with
      | true =>
        obtain ⟨same, hsame, hitems⟩ := hrequest.exists_entries server htaken haccepts
        obtain rfl := Option.some.inj (hsame.symm.trans hreply)
        exact Option.some.inj (hentries.symm.trans hitems)
      | false =>
        obtain ⟨sent, -, hanswer⟩ := hrequest.value_answerMessage server htaken
        have hrefused := value_answerRequest_of_not_accepts server sent (.list listing) taken haccepts
        rw [Method.name] at hrefused
        rw [hrefused, hreply] at hanswer
        obtain rfl := Option.some.inj hanswer
        cases hentries
  · rintro rfl
    obtain ⟨fields, -, hrequest⟩ := exists_isRequest (Or.inl ⟨"", rfl⟩) listing.methodName none
    obtain ⟨reply, hreply, hentries⟩ := hrequest.exists_entries server rfl rfl
    exact ⟨fields, _, none, reply, hrequest, hreply, hentries⟩

def HasName (entries : List Json) (name : String) : Prop :=
  ∃ entry ∈ entries, entry.get? "name" = some (.str name)

/-- The one tool that is listed is the one that can be called. -/
theorem IsListed.hasName_iff {server : Server} {entries : List Json} (h : IsListed server .tools entries)
    {name : String} : HasName entries name ↔ name = "add" := by
  obtain rfl := isListed_iff.1 h
  have hentries : (Server.items .tools).map Listing.tools.itemToJson = [Adder.tool.toJson] := rfl
  rw [HasName, hentries]
  simp only [List.mem_singleton, exists_eq_left, Tool.get?_name, Option.some.injEq, Json.str.injEq]
  exact eq_comm

/-! ## Templates -/

/-- The address is that of the template, with one segment in the place of the name. -/
def Instantiates (template uri : String) : Prop :=
  ∃ before after segment, template = before ++ "\x7bname\x7d" ++ after ∧ uri = before ++ segment ++ after ∧
    IsSegment segment

/-- Around its only name a template is kept. -/
theorem instantiates_iff {before after uri : String} (hbefore : '\x7b' ∉ before.toList)
    (hafter : '\x7b' ∉ after.toList) :
    Instantiates (before ++ "\x7bname\x7d" ++ after) uri ↔
      ∃ segment, uri = before ++ segment ++ after ∧ IsSegment segment := by
  constructor
  · rintro ⟨before', after', segment, htemplate, huri, hsegment⟩
    have hplace (before after : String) : (before ++ "\x7bname\x7d" ++ after).toList =
        before.toList ++ '\x7b' :: ("name\x7d".toList ++ after.toList) := by
      rw [String.append_assoc, String.toList_append, String.toList_append]
      rfl
    have hrest : '\x7b' ∉ "name\x7d".toList ++ after.toList := by
      rw [List.mem_append, not_or]
      exact ⟨by decide, hafter⟩
    -- The brace stands nowhere else, so what is before it and after it is the same.
    rw [← String.toList_inj, hplace, hplace] at htemplate
    obtain ⟨hstart, -, hend⟩ := (List.append_cons_inj_of_notMem hbefore hrest).1 htemplate
    rw [List.append_cancel_left_eq, String.toList_inj] at hend
    rw [String.toList_inj] at hstart
    subst hstart hend
    exact ⟨segment, huri, hsegment⟩
  · rintro ⟨segment, huri, hsegment⟩
    exact ⟨before, after, segment, rfl, huri, hsegment⟩

theorem instantiates_greeting_iff {uri : String} : Instantiates Greeting.template.uriTemplate uri ↔ IsGreeting uri := by
  have htemplate : Greeting.template.uriTemplate = "greeting://" ++ "\x7bname\x7d" ++ "" := rfl
  rw [htemplate, instantiates_iff (by decide) (by decide)]
  simp only [String.append_empty]
  rfl

/-- The entry that an address is listed under: a resource with this address, or a template that it is an
instance of. -/
inductive ListedUnder (resources templates : List Json) (uri : String) : Json → Prop where
  | resource {entry : Json} (hentry : entry ∈ resources) (huri : entry.get? "uri" = some (.str uri)) :
      ListedUnder resources templates uri entry
  | template {entry : Json} {template : String} (hentry : entry ∈ templates)
      (htemplate : entry.get? "uriTemplate" = some (.str template)) (huri : Instantiates template uri) :
      ListedUnder resources templates uri entry

/-- Addresses are listed under the template of the greetings. -/
theorem IsListed.listedUnder_iff {server : Server} {resources templates : List Json}
    (hresources : IsListed server .resources resources) (htemplates : IsListed server .templates templates)
    {uri : String} {entry : Json} :
    ListedUnder resources templates uri entry ↔ entry = Greeting.template.toJson ∧ IsGreeting uri := by
  obtain rfl := isListed_iff.1 hresources
  obtain rfl := isListed_iff.1 htemplates
  constructor
  · intro h
    cases h with
    | resource hentry _ => cases hentry
    | template hentry htemplate huri =>
      obtain rfl := List.mem_singleton.1 hentry
      have hsame := (ResourceTemplate.get?_uriTemplate Greeting.template).symm.trans htemplate
      rw [Option.some.injEq, Json.str.injEq] at hsame
      subst hsame
      exact ⟨rfl, instantiates_greeting_iff.1 huri⟩
  · rintro ⟨rfl, huri⟩
    exact .template (List.mem_singleton.2 rfl) (ResourceTemplate.get?_uriTemplate _) (instantiates_greeting_iff.2 huri)

/-! ## Calls and readings -/

section Requests

variable (server : Server) {fields : Fields} {id : Json} {params : Option Fields} {entries : List Json}

/-- A call is told that its tool is unknown exactly if it can be read and no entry has the name in it. -/
theorem IsRequest.unknownTool_iff (h : IsRequest fields id "tools/call" params)
    (hentries : IsListed server .tools entries) :
    ∃ reply, (server.answerMessage (.obj fields)).value = some reply ∧
      ∀ name, failureOf? reply = some (.unknownTool name) ↔
        (∃ read, ReadAs params CallToolParams.ofJson? read ∧ read.name = name) ∧ ¬HasName entries name := by
  obtain ⟨reply, hreply, -, hfailures, -⟩ := request_outcomes server h.toIsCall h.sent h.usable
  refine ⟨reply, hreply, fun name => ?_⟩
  rw [hfailures, hentries.hasName_iff, Arises]
  constructor
  · rintro ⟨-, read, hread, hname, hne⟩
    exact ⟨⟨read, hread, hname⟩, hne⟩
  · rintro ⟨⟨read, hread, hname⟩, hne⟩
    exact ⟨rfl, read, hread, hname, hne⟩

/-- A call that cannot be read is told so, whatever its tool. -/
theorem IsRequest.unread_tool (h : IsRequest fields id "tools/call" params)
    (hunread : ¬∃ read, ReadAs params CallToolParams.ofJson? read) :
    ∃ reply, (server.answerMessage (.obj fields)).value = some reply ∧
      (failureOf? reply = some .invalid ∨ failureOf? reply = some .malformed) := by
  obtain ⟨reply, hreply, -, hfailures, -⟩ := request_outcomes server h.toIsCall h.sent h.usable
  refine ⟨reply, hreply, ?_⟩
  rw [hfailures, hfailures]
  cases htaken : takeOver? params with
  | none => exact Or.inl (Or.inr (not_areReadable_iff.2 htaken))
  | some taken =>
    refine Or.inr ⟨.callTool, rfl, taken, htaken, ?_⟩
    rw [accepts_eq_false_iff (Or.inl rfl), Unread, Option.eq_none_iff_forall_ne_some]
    intro read hread
    obtain ⟨v, hv, hread⟩ := Option.bind_eq_some_iff.1 hread
    obtain ⟨given, rfl, rfl⟩ := Option.map_eq_some_iff.1 hv
    exact hunread ⟨read, given, htaken, hread⟩

end Requests

def contentsIn? (reply : Json) : Option (List Json) :=
  ((reply.get? "result").bind (·.get? "contents")).bind Json.items?

structure ListingsAgree (server : Server) : Prop where
  /-- Whatever is asked for in the following can be asked for, under every usable id. -/
  asked : ∀ id method params, IsUsable id → ∃ fields, IsRequest fields id method params
  /-- Each listing is had by asking for it. -/
  had : ∀ listing fields id, IsRequest fields id listing.methodName none →
    ∃ reply entries, (server.answerMessage (.obj fields)).value = some reply ∧ entriesIn? listing reply = some entries
  /-- It has the same entries however it is asked for. -/
  listed : ∀ listing, ∃! entries, IsListed server listing entries
  /-- A tool is unknown exactly if no entry has its name. -/
  unlisted : ∀ entries fields id name arguments, IsListed server .tools entries →
    IsRequest fields id "tools/call" (some (toolParams name (.obj arguments))) →
    (Json.obj arguments).all isUnmarked = true →
    ∃ reply, (server.answerMessage (.obj fields)).value = some reply ∧
      (failureOf? reply = some (.unknownTool name) ↔ ¬HasName entries name)
  /-- Of any call this holds if it can be read, and no other name is told. -/
  called : ∀ entries fields id params, IsListed server .tools entries → IsRequest fields id "tools/call" params →
    ∃ reply, (server.answerMessage (.obj fields)).value = some reply ∧
      ∀ name, failureOf? reply = some (.unknownTool name) ↔
        (∃ read, ReadAs params CallToolParams.ofJson? read ∧ read.name = name) ∧ ¬HasName entries name
  /-- A call that cannot be read is told so, whatever its tool. -/
  unread : ∀ fields id params, IsRequest fields id "tools/call" params →
    (¬∃ read, ReadAs params CallToolParams.ofJson? read) →
    ∃ reply, (server.answerMessage (.obj fields)).value = some reply ∧
      (failureOf? reply = some .invalid ∨ failureOf? reply = some .malformed)
  /-- There is a result exactly for the addresses that are listed. All of its contents have the type that is listed
  with the address. -/
  readable : ∀ resources templates fields id uri, IsListed server .resources resources →
    IsListed server .templates templates → IsReading fields id uri →
    ∃ reply, (server.answerMessage (.obj fields)).value = some reply ∧
      (IsResult reply ↔ ∃ entry, ListedUnder resources templates uri entry) ∧
      ∀ entry, ListedUnder resources templates uri entry →
        ∃ mimeType contents, entry.get? "mimeType" = some (.str mimeType) ∧ contentsIn? reply = some contents ∧
          contents ≠ [] ∧ ∀ content ∈ contents, content.get? "mimeType" = some (.str mimeType)

/-- Every server lists exactly what it serves. -/
theorem listings_agree (server : Server) : ListingsAgree server where
  asked id method params husable := by
    obtain ⟨fields, -, hrequest⟩ := exists_isRequest husable method params
    exact ⟨fields, hrequest⟩
  had listing fields id hrequest := by
    obtain ⟨reply, hreply, hentries⟩ := hrequest.exists_entries server rfl rfl
    exact ⟨reply, _, hreply, hentries⟩
  listed listing := ⟨_, isListed_iff.2 rfl, fun _ => isListed_iff.1⟩
  unlisted entries fields id name arguments hentries hrequest hplain := by
    obtain ⟨reply, hreply, htold⟩ := hrequest.unknownTool_iff server hentries
    obtain ⟨read, hread⟩ := (exists_readAs_iff hplain).2 (Or.inr ⟨arguments, rfl⟩)
    refine ⟨reply, hreply, ?_⟩
    rw [htold]
    exact and_iff_right ⟨read, hread, name_of_readAs hread⟩
  called entries fields id params hentries hrequest := hrequest.unknownTool_iff server hentries
  unread fields id params hrequest hunread := hrequest.unread_tool server hunread
  readable resources templates fields id uri hresources htemplates hreading := by
    simp only [hresources.listedUnder_iff htemplates, exists_eq_left]
    cases hname : Greeting.name? uri with
    | some name =>
      refine ⟨_, hreading.value_of_name server hname, ?_, ?_⟩
      · exact iff_of_true (isResult_greetingReply _ _ _) (isGreeting_iff.2 ⟨name, hname⟩)
      · rintro _ ⟨rfl, -⟩
        refine ⟨Greeting.mimeType, _, ResourceTemplate.get?_mimeType _, rfl, List.cons_ne_nil _ _, ?_⟩
        intro content hcontent
        obtain rfl := List.mem_singleton.1 hcontent
        rfl
    | none =>
      have hother := not_isGreeting_iff.2 hname
      refine ⟨_, hreading.value_of_no_name server hname, ?_, ?_⟩
      · exact iff_of_false (not_isResult_unknownResourceReply _ _) hother
      · rintro _ ⟨-, huri⟩
        exact absurd huri hother

/-- A call of a tool that is not listed, with arguments that begin with the key for embedded values below their top
and do not end there. -/
def embeddingCall : Fields :=
  [("id", .int 7), ("jsonrpc", .str "2.0"), ("method", .str "tools/call"),
   ("params", .obj (toolParams "mul" (.obj [("x", .obj [(embeddedKey, .str "[1]"), ("a", .int 1)])])))]

/-- Not every call of a tool that is not listed is told that its tool is unknown. -/
theorem not_every_unlisted_tool_told :
    ¬∀ (server : Server) (entries : List Json) (fields : Fields) (id : Json) (name : String) (arguments : Fields),
      IsListed server .tools entries →
      IsRequest fields id "tools/call" (some (toolParams name (.obj arguments))) →
      ∃ reply, (server.answerMessage (.obj fields)).value = some reply ∧
        (failureOf? reply = some (.unknownTool name) ↔ ¬HasName entries name) := by
  intro h
  have hlisted : IsListed ⟨"Demo", none⟩ .tools _ := isListed_iff.2 rfl
  obtain ⟨reply, hreply, htold⟩ := h ⟨"Demo", none⟩ _ embeddingCall (.int 7) "mul" _ hlisted
    ⟨⟨rfl, rfl, Or.inl rfl⟩, rfl, isUsable_iff.2 ⟨.number 7, rfl⟩⟩
  have hrefused : (Server.answerMessage ⟨"Demo", none⟩ (.obj embeddingCall)).value =
      some (RpcFault.invalidRequest.reply (some (.int 7)) none) := by decide +kernel
  obtain rfl := Option.some.inj (hreply.symm.trans hrefused)
  have hunlisted : ¬HasName ((Server.items .tools).map Listing.tools.itemToJson) "mul" := by
    rw [hlisted.hasName_iff]
    decide
  have hfailure := htold.2 hunlisted
  rw [failureOf?_invalidRequest] at hfailure
  cases hfailure

end ModelContext
