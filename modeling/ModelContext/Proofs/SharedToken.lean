import ModelContext.Programs
import ModelContext.Proofs.Outcomes
import ModelContext.Proofs.WebRequests

/-!
# A token on both sides

A server and a client that take their settings from one environment have the same token. It lets the client in if it is
made of printable ASCII characters and tabs. Any other token is accepted on both sides and lets nobody in: one with a
control character cannot be sent, and the rest cannot be read.
-/

namespace ModelContext

open Http

/-! ## The token in an environment -/

theorem Environment.setting?_of_not_blank {env : Environment} {name text : String} (htext : env.value? name = some text)
    (hset : ¬IsBlank text) : env.setting? name = some (Text.trim text) := by
  rw [setting?, htext, Option.bind_some]
  exact if_neg (mt isEmpty_trim_iff.1 hset)

/-- The settings of a server are those of its environment, if these can be read and the socket can be bound. -/
theorem ServerConfig.ofEnvironment_eq_ok {env : Environment} {config : ServerConfig}
    (h : ServerConfig.ofEnvironment env = .ok config) :
    portOf env = .ok config.bindPort ∧ carrierOf env = .ok config.carrier ∧
      (config.carrier = .http → ∃ socket, bindSocket config.bindAddress config.bindPort = .ok socket) ∧
      config.bindAddress = (env.value? "BIND_ADDR").getD defaultAddress ∧
      config.serverName = (env.setting? "MCP_SERVER_NAME").getD defaultName ∧
      config.apiToken = env.setting? "MCP_API_TOKEN" := by
  cases hport : portOf env with
  | error e =>
    rw [ofEnvironment, hport] at h
    cases h
  | ok port =>
    cases hcarrier : carrierOf env with
    | error e =>
      rw [ofEnvironment, hport, hcarrier] at h
      cases h
    | ok carrier =>
      simp only [ofEnvironment, hport, hcarrier, bind, Except.bind] at h
      cases carrier with
      | stdio =>
        cases h
        exact ⟨rfl, rfl, nofun, rfl, rfl, rfl⟩
      | http =>
        rw [if_pos rfl] at h
        cases hsocket : bindSocket ((env.value? "BIND_ADDR").getD defaultAddress) port with
        | error e =>
          rw [hsocket] at h
          cases h
        | ok socket =>
          rw [hsocket] at h
          cases h
          exact ⟨rfl, rfl, fun _ => ⟨socket, hsocket⟩, rfl, rfl, rfl⟩

theorem ClientConfig.apiToken_of_environment {env : Environment} {settings : ClientConfig}
    (h : ClientConfig.ofEnvironment env = .ok settings) : settings.apiToken = env.setting? "MCP_API_TOKEN" := by
  rw [ofEnvironment] at h
  split at h
  · cases h
    rfl
  · cases h

/-! ## Requests with a token -/

/-- A text without white space at its ends, and not empty. -/
structure IsTrimmed (s : String) : Prop where
  ne_empty : s ≠ ""
  head : ∀ c ∈ s.toList.head?, Text.isBlank c = false
  last : ∀ c ∈ s.toList.getLast?, Text.isBlank c = false

theorem isTrimmed_trim {text : String} (h : ¬IsBlank text) : IsTrimmed (Text.trim text) where
  ne_empty hempty := h (isEmpty_trim_iff.1 (String.isEmpty_iff.2 hempty))
  head := by
    rw [Text.trim, String.toList_ofList]
    exact Text.head?_strip _ _
  last := by
    rw [Text.trim, String.toList_ofList]
    exact Text.getLast?_strip _ _

section Bearer

variable {token : String}

/-- A token arrives as it was sent. -/
theorem IsTrimmed.bearerValue_eq (h : IsTrimmed token) :
    WebClient.bearerValue token = Bytes.ofText ("Bearer " ++ token) := by
  apply Text.strip_eq_self
  · rintro b ⟨⟩
    decide
  · rw [Bytes.ofText_append, List.getLast?_append_of_ne_nil _ (Bytes.ofText_ne_nil h.ne_empty)]
    exact Bytes.isBlankByte_getLast h.last

/-- A header with a token can be read if the token can. -/
theorem forall_isHeaderChar_of_isBearer {rest : Bytes} (h : IsBearer (Bytes.ofText ("Bearer " ++ token)) rest) :
    ∀ c ∈ token.toList, IsHeaderChar c := by
  have hall : (Bytes.ofText ("Bearer " ++ token)).all isTextByte = true :=
    List.all_eq_true.2 fun b hb => isTextByte_iff.2 (h.readable b hb)
  intro c hc
  apply (Bytes.all_isTextByte_iff _).1 hall
  rw [String.toList_append]
  exact List.mem_append_right _ hc

theorem isBearer_of_forall_isHeaderChar (h : ∀ c ∈ token.toList, IsHeaderChar c) :
    IsBearer (Bytes.ofText ("Bearer " ++ token)) (Bytes.ofText token) where
  scheme := ⟨Bytes.ofText "Bearer", by rw [Bytes.ofText_append]; rfl, by decide +kernel⟩
  readable := by
    have hscheme : ∀ c ∈ "Bearer ".toList, IsHeaderChar c := List.all_iff_forall_prop.1 (by decide)
    have hall : (Bytes.ofText ("Bearer " ++ token)).all isTextByte = true := by
      rw [Bytes.all_isTextByte_iff, String.toList_append]
      intro c hc
      cases List.mem_append.1 hc with
      | inl hc => exact hscheme c hc
      | inr hc => exact h c hc
    exact fun b hb => isTextByte_iff.1 (List.all_eq_true.1 hall b hb)

/-- A request presents the token that it carries if the token can be read. -/
theorem IsTrimmed.presents_iff (htrimmed : IsTrimmed token) {request : Request}
    (hvalue : firstValue? request.headers "authorization" = some (WebClient.bearerValue token)) :
    Presents request token ↔ ∀ c ∈ token.toList, IsHeaderChar c := by
  rw [htrimmed.bearerValue_eq] at hvalue
  constructor
  · rintro ⟨value, rest, hfirst, hbearer, -⟩
    rw [hvalue] at hfirst
    cases hfirst
    exact forall_isHeaderChar_of_isBearer hbearer
  · intro h
    exact ⟨_, _, hvalue, isBearer_of_forall_isHeaderChar h, Text.dropWhile_eq_self (Bytes.isBlankByte_head htrimmed.head)⟩

end Bearer

def WebClient.Makes (client : WebClient) (request : Request) : Prop :=
  (∃ session message, client.post session message = .ok request) ∨ ∃ id, client.delete id = .ok request

theorem WebClient.Makes.carries {client : WebClient} {request : Request} (h : client.Makes request) :
    client.CanAsk ∧ ∃ session, client.Carries session request := by
  by_cases hask : client.CanAsk
  · refine ⟨hask, ?_⟩
    rcases h with ⟨session, message, hpost⟩ | ⟨id, hdelete⟩
    · obtain ⟨made, hmade, -, -, -, hcarries⟩ := hask.exists_post session message
      rw [hpost] at hmade
      cases hmade
      exact ⟨session, hcarries⟩
    · obtain ⟨made, hmade, -, -, -, hcarries⟩ := hask.exists_delete id
      rw [hdelete] at hmade
      cases hmade
      exact ⟨some id, hcarries⟩
  · rcases h with ⟨session, message, hpost⟩ | ⟨id, hdelete⟩
    · rw [post_of_not_canAsk hask] at hpost
      cases hpost
    · rw [delete_of_not_canAsk hask] at hdelete
      cases hdelete

structure SharesToken (config : ServerConfig) (settings : ClientConfig) (token : String) : Prop where
  server : config.apiToken = some token
  client : settings.apiToken = some token
  /-- A client whose address can be used posts every message, unless the token has a control character. -/
  sends : (∀ c ∈ token.toList, ¬IsControl c) → ∀ path session message, ∃ request,
    WebClient.post ⟨some path, settings.apiToken⟩ session message = .ok request ∧ request.target = path
  fails : (¬∀ c ∈ token.toList, ¬IsControl c) → ∀ endpoint session message,
    WebClient.post ⟨endpoint, settings.apiToken⟩ session message = .error .http
  /-- The requests that are made reach the endpoint exactly if the token can be read. -/
  reaches_iff : ∀ endpoint request, WebClient.Makes ⟨endpoint, settings.apiToken⟩ request → request.path = "/mcp" →
    ∀ ids store, Reaches ⟨config.server, ids⟩ store request ↔ ∀ c ∈ token.toList, IsHeaderChar c
  /-- If not, they are refused as malformed. -/
  refused : ∀ endpoint request, WebClient.Makes ⟨endpoint, settings.apiToken⟩ request → request.path = "/mcp" →
    (¬∀ c ∈ token.toList, IsHeaderChar c) → ∀ ids store, ∃ response, response.status = 400 ∧
      response.body = Bytes.ofText "invalid HTTP header (authorization)" ∧
        IsTurnedAway ⟨config.server, ids⟩ store request response

/-- A server and a client with settings from one environment share the token in it. The requests of the client pass the
check of the server exactly if the token is made of characters that can be read in a header. -/
theorem shared_token_fares {env : Environment} {config : ServerConfig} {settings : ClientConfig}
    (hserver : ServerConfig.ofEnvironment env = .ok config) (hclient : ClientConfig.ofEnvironment env = .ok settings)
    {text : String} (htext : env.value? "MCP_API_TOKEN" = some text) (hset : ¬IsBlank text) :
    SharesToken config settings (Text.trim text) := by
  have hsetting := Environment.setting?_of_not_blank htext hset
  have htrimmed := isTrimmed_trim hset
  generalize Text.trim text = token at hsetting htrimmed ⊢
  have hconfig : config.apiToken = some token := by
    rw [← hsetting]
    exact (ServerConfig.ofEnvironment_eq_ok hserver).2.2.2.2.2
  have hsettings : settings.apiToken = some token := by
    rw [← hsetting]
    exact ClientConfig.apiToken_of_environment hclient
  have hvalue : ∀ endpoint request, WebClient.Makes ⟨endpoint, settings.apiToken⟩ request →
      firstValue? request.headers "authorization" = some (WebClient.bearerValue token) := by
    intro endpoint request hmakes
    obtain ⟨-, session, hcarries⟩ := hmakes.carries
    rw [firstValue?, hcarries.token, hsettings]
    rfl
  constructor
  case server => exact hconfig
  case client => exact hsettings
  case sends =>
    intro h path session message
    have hask : WebClient.CanAsk ⟨some path, settings.apiToken⟩ := by
      refine ⟨Option.some_ne_none path, fun other hother => ?_⟩
      rw [hsettings] at hother
      cases hother
      exact h
    obtain ⟨request, hpost, -, htarget, -⟩ := hask.exists_post session message
    exact ⟨request, hpost, (Option.some.inj htarget).symm⟩
  case fails =>
    intro h endpoint session message
    exact WebClient.post_of_not_canAsk (fun hask => h (hask.token token hsettings)) session message
  case reaches_iff =>
    intro endpoint request hmakes hpath ids store
    have hguarded := isGuarded ⟨config.server, ids⟩ hconfig store hpath
    rw [hguarded.reaches_iff, htrimmed.presents_iff (hvalue endpoint request hmakes)]
  case refused =>
    intro endpoint request hmakes hpath hunreadable ids store
    have hguarded := isGuarded ⟨config.server, ids⟩ hconfig store hpath
    refine hguarded.malformed _ (hvalue endpoint request hmakes) fun rest hbearer => hunreadable ?_
    rw [htrimmed.bearerValue_eq] at hbearer
    exact forall_isHeaderChar_of_isBearer hbearer

def tokenEnvironment (text : String) : Environment :=
  [("MCP_API_TOKEN", Bytes.ofText text)]

def tokenServer (token : String) : ServerConfig :=
  { apiToken := some token, bindAddress := "127.0.0.1", bindPort := 8000, serverName := "Demo", carrier := .http }

def tokenClient (token : String) : ClientConfig :=
  { serverUrl := "http://127.0.0.1:8000/mcp", serverCommand := none, apiToken := some token }

theorem shared_token_fares_spaced :
    ServerConfig.ofEnvironment (tokenEnvironment " top secret\t") = .ok (tokenServer "top secret") ∧
      ClientConfig.ofEnvironment (tokenEnvironment " top secret\t") = .ok (tokenClient "top secret") ∧
        ∃ request, WebClient.delete ⟨some "/mcp", some "top secret"⟩ "session" = .ok request ∧
          Reaches ⟨(tokenServer "top secret").server, .numbered⟩ .empty request := by
  have hserver : ServerConfig.ofEnvironment (tokenEnvironment " top secret\t") = .ok (tokenServer "top secret") := by
    decide +kernel
  have hclient : ClientConfig.ofEnvironment (tokenEnvironment " top secret\t") = .ok (tokenClient "top secret") := by
    decide +kernel
  have htext : (tokenEnvironment " top secret\t").value? "MCP_API_TOKEN" = some " top secret\t" := by decide +kernel
  have hshares := shared_token_fares hserver hclient htext fun hblank => absurd (hblank 't' (by decide)) (by decide)
  have hdelete : WebClient.delete ⟨some "/mcp", some "top secret"⟩ "session" = .ok
      { method := "DELETE", target := "/mcp", body := []
        headers := [.ofText "accept" "*/*", .ofText "mcp-session-id" "session",
          .ofText "authorization" "Bearer top secret"] } := by
    decide +kernel
  refine ⟨hserver, hclient, _, hdelete, ?_⟩
  have hreadable : ∀ c ∈ "top secret".toList, IsHeaderChar c := List.all_iff_forall_prop.1 (by decide)
  exact (hshares.reaches_iff _ _ (.inr ⟨"session", hdelete⟩) (by decide +kernel) _ _).2 hreadable

/-- A token with a letter that is not ASCII is accepted on both sides and refused between them. -/
theorem not_every_token_lets_in :
    ¬∀ (env : Environment) (config : ServerConfig) (settings : ClientConfig) (text : String),
      ServerConfig.ofEnvironment env = .ok config → config.carrier = .http →
      ClientConfig.ofEnvironment env = .ok settings → env.value? "MCP_API_TOKEN" = some text → ¬IsBlank text →
      ∀ path session message request, WebClient.post ⟨some path, settings.apiToken⟩ session message = .ok request →
        request.path = "/mcp" → ∀ ids store, Reaches ⟨config.server, ids⟩ store request := by
  intro h
  have hserver : ServerConfig.ofEnvironment (tokenEnvironment "é") = .ok (tokenServer "é") := by decide +kernel
  have hclient : ClientConfig.ofEnvironment (tokenEnvironment "é") = .ok (tokenClient "é") := by decide +kernel
  have hpost : WebClient.post ⟨some "/mcp", some "é"⟩ none (.obj []) = .ok
      { method := "POST", target := "/mcp", body := Bytes.ofText "{}"
        headers := [.ofText "accept" "application/json, text/event-stream", .ofText "content-type" "application/json",
          .ofText "authorization" "Bearer é"] } := by
    decide +kernel
  have hreaches := h _ _ _ "é" hserver rfl hclient (by decide +kernel)
    (fun hblank => absurd (hblank 'é' (by decide)) (by decide)) _ _ _ _ hpost (by decide +kernel) .numbered .empty
  have hpresents := (isGuarded ⟨(tokenServer "é").server, .numbered⟩ rfl .empty (by decide +kernel)).reaches_iff.1 hreaches
  have htrimmed : IsTrimmed "é" := ⟨by decide, by rintro c ⟨⟩; decide, by rintro c ⟨⟩; decide⟩
  have hreadable := (htrimmed.presents_iff (by decide +kernel)).1 hpresents
  exact absurd (hreadable 'é' (by decide)) (by decide)

end ModelContext
