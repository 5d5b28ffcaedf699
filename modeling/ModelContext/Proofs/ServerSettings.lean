import ModelContext.Proofs.SocketAddresses
import ModelContext.Proofs.Variables

/-!
# The settings of a server

Which settings an environment asks for, and which of its mistakes a server tells: a port that is not one, else a carrier
of no known name, else an address that cannot be bound. A mistake in the address matters only to a server that is
reached over HTTP, and if none is made there, then binding succeeds later, with the port that was asked for.
-/

namespace ModelContext

/-- A text for a port: digits, with any zeros and at most one plus in front. -/
def WritesPort (text : String) (port : UInt16) : Prop :=
  ∃ ds, (text.toList = ds ∨ text.toList = '+' :: ds) ∧ IsDecimal ds port.toNat

/-- The name of a carrier, in any case. -/
def Carrier.IsNamed (text : String) (carrier : Carrier) : Prop :=
  text.toList.map Char.toLower = carrier.name.toList

/-- What a variable gives: a value that its text stands for, or a fallback if it is not set. -/
def Gives {α : Type} (isSet : String → Prop) (standsFor : String → α → Prop) (fallback value : α) : Prop :=
  (∃ text, isSet text ∧ standsFor text value) ∨ (∀ text, ¬isSet text) ∧ value = fallback

structure ServerConfig.Asked (env : Environment) (config : ServerConfig) : Prop where
  /-- The address is taken as it is. -/
  address : Gives (env.Holds "BIND_ADDR") Eq defaultAddress config.bindAddress
  /-- White space around a port is not allowed. -/
  port : Gives (env.Holds "BIND_PORT") WritesPort defaultPort config.bindPort
  carrier : Gives (env.SetsTo "MCP_TRANSPORT") Carrier.IsNamed .http config.carrier
  name : Gives (env.SetsTo "MCP_SERVER_NAME") Eq defaultName config.serverName
  token : ∀ token, config.apiToken = some token ↔ env.SetsTo "MCP_API_TOKEN" token

/-- A socket that the address and the port of the settings write, with a colon between them. -/
def ServerConfig.WritesSocket (config : ServerConfig) (socket : SocketAddress) : Prop :=
  SocketAddress.Written (config.bindAddress.toList ++ ':' :: (decimalText config.bindPort.toNat).toList) socket

namespace Environment

def PortUnread (env : Environment) : Prop :=
  ∃ text, env.Holds "BIND_PORT" text ∧ ∀ port, ¬WritesPort text port

def CarrierUnread (env : Environment) : Prop :=
  ∃ text, env.SetsTo "MCP_TRANSPORT" text ∧ ∀ carrier, ¬Carrier.IsNamed text carrier

/-- The environment asks for HTTP at an address and a port that are no socket. -/
def SocketUnread (env : Environment) : Prop :=
  ∃ config, ServerConfig.Asked env config ∧ config.carrier = .http ∧ ∀ socket, ¬config.WritesSocket socket

def SameBut (name : String) (env other : Environment) : Prop :=
  ∀ key, key ≠ name → env.lookup key = other.lookup key

end Environment

/-! ## Single variables -/

section Values

variable {α : Type} {isSet : String → Prop} {text? : Option String} {standsFor : String → α → Prop}
  {fallback value : α} {read : String → Except ConfigError α}

/-- What is read from a variable, if the texts it is set to are read as what they stand for. -/
theorem elim_eq_ok_iff (hset : ∀ text, text? = some text ↔ isSet text)
    (hread : ∀ text, isSet text → ∀ value, read text = .ok value ↔ standsFor text value) :
    text?.elim (.ok fallback) read = .ok value ↔ Gives isSet standsFor fallback value := by
  cases text? with
  | none => simp [Gives, ← hset, eq_comm]
  | some text => simp [Gives, ← hset, ← hread text ((hset text).1 rfl)]

theorem elim_eq_error_iff (hset : ∀ text, text? = some text ↔ isSet text)
    (hread : ∀ text, isSet text → ∀ value, read text = .ok value ↔ standsFor text value) {told : ConfigError}
    (htold : ∀ text error, read text = .error error → error = told) {error : ConfigError} :
    text?.elim (.ok fallback) read = .error error ↔
      error = told ∧ ∃ text, isSet text ∧ ∀ value, ¬standsFor text value := by
  cases text? with
  | none => simp [← hset]
  | some text =>
    have hvalue := hread text ((hset text).1 rfl)
    cases hfound : read text with
    | ok value => simp [← hset, ← hvalue, hfound]
    | error found =>
      obtain rfl := htold text found hfound
      simp [← hset, ← hvalue, hfound, eq_comm]

theorem getD_eq_iff {text? : Option String} (hset : ∀ text, text? = some text ↔ isSet text) {fallback value : String} :
    text?.getD fallback = value ↔ Gives isSet Eq fallback value := by
  simp only [Gives, ← hset]
  cases text? with
  | none => simp [eq_comm]
  | some text => simp

end Values

theorem isDecimal_decimalText (n : Nat) : IsDecimal (decimalText n).toList n := by
  rw [decimalText, String.toList_ofList, decimalChars, if_neg (by omega), Int.natAbs_natCast]
  exact ⟨Nat.toDigits_ne_nil, Json.isDigit_toDigits n, Nat.ofDigitChars_ten_toDigits⟩

theorem boundedNat?_eq_some_iff {limit n : Nat} {cs : List Char} :
    boundedNat? limit cs = some n ↔ ∃ ds, (cs = ds ∨ cs = '+' :: ds) ∧ IsDecimal ds n ∧ n < limit := by
  have hplain (ds : List Char) : (if ds ≠ [] ∧ ds.all Char.isDigit ∧ Nat.ofDigitChars 10 ds 0 < limit then
      some (Nat.ofDigitChars 10 ds 0) else none) = some n ↔ IsDecimal ds n ∧ n < limit := by
    rw [Option.ite_none_right_eq_some, Option.some_inj, List.all_eq_true]
    constructor
    · rintro ⟨⟨hne, hdigits, hlimit⟩, rfl⟩
      exact ⟨⟨hne, hdigits, rfl⟩, hlimit⟩
    · rintro ⟨⟨hne, hdigits, rfl⟩, hlimit⟩
      exact ⟨⟨hne, hdigits, hlimit⟩, rfl⟩
  rw [boundedNat?.eq_def]
  dsimp only
  rw [hplain]
  split
  · rename_i ds
    constructor
    · exact fun h => ⟨ds, .inr rfl, h⟩
    · rintro ⟨_, rfl | h, hds⟩
      · exact absurd List.mem_cons_self (hds.1.not_mem rfl)
      · rwa [(List.cons.inj h).2]
  · rename_i hnone
    constructor
    · exact fun h => ⟨cs, .inl rfl, h⟩
    · rintro ⟨ds, rfl | h, hds⟩
      · exact hds
      · exact absurd h (hnone ds)

def portIn (text : String) : Except ConfigError UInt16 :=
  match boundedNat? 65536 text.toList with
  | some port => .ok port.toUInt16
  | none => .error .invalidPort

theorem portIn_eq_ok_iff {text : String} {port : UInt16} : portIn text = .ok port ↔ WritesPort text port := by
  rw [portIn]
  constructor
  · intro h
    split at h
    · rename_i n hn
      cases h
      obtain ⟨ds, htext, hds, hlimit⟩ := boundedNat?_eq_some_iff.1 hn
      rw [← UInt16.toNat_ofNat_of_lt' hlimit] at hds
      exact ⟨ds, htext, hds⟩
    · cases h
  · rintro ⟨ds, htext, hds⟩
    rw [boundedNat?_eq_some_iff.2 ⟨ds, htext, hds, port.toNat_lt⟩]
    simp

theorem portIn_error {text : String} {error : ConfigError} (h : portIn text = .error error) : error = .invalidPort := by
  rw [portIn] at h
  split at h
  · cases h
  · cases h
    rfl

namespace Carrier

theorem ofText_eq_ok_iff {text : String} (h : IsTrimmed text) {carrier : Carrier} :
    ofText text = .ok carrier ↔ IsNamed text carrier := by
  have hnamed : IsNamed text carrier ↔ Text.lowerAscii text = carrier.name := by
    rw [IsNamed, ← String.toList_inj, Text.lowerAscii, String.toList_ofList]
  rw [hnamed, ofText, Text.trim_eq_self h.head h.last]
  split
  · rename_i hname
    cases carrier <;> simp [hname, name]
  · rename_i hname
    cases carrier <;> simp [hname, name]
  · rename_i hhttp hstdio
    cases carrier with
    | http => exact iff_of_false nofun hhttp
    | stdio => exact iff_of_false nofun hstdio

theorem ofText_error {text : String} {error : ConfigError} (h : ofText text = .error error) :
    error = .invalidTransport := by
  rw [ofText] at h
  split at h
  · cases h
  · cases h
  · cases h
    rfl

end Carrier

namespace ServerConfig

variable {env : Environment} {config : ServerConfig} {port : UInt16} {carrier : Carrier} {error : ConfigError}

theorem portOf_eq (env : Environment) : portOf env = (env.value? "BIND_PORT").elim (.ok defaultPort) portIn := by
  rw [portOf]
  cases env.value? "BIND_PORT" <;> rfl

theorem portOf_eq_ok_iff : portOf env = .ok port ↔ Gives (env.Holds "BIND_PORT") WritesPort defaultPort port := by
  rw [portOf_eq]
  exact elim_eq_ok_iff (fun _ => Environment.value?_eq_some_iff) fun _ _ _ => portIn_eq_ok_iff

theorem portOf_eq_error_iff : portOf env = .error error ↔ error = .invalidPort ∧ env.PortUnread := by
  rw [portOf_eq]
  exact elim_eq_error_iff (fun _ => Environment.value?_eq_some_iff) (fun _ _ _ => portIn_eq_ok_iff)
    fun _ _ => portIn_error

theorem carrierOf_eq (env : Environment) :
    carrierOf env = (env.setting? "MCP_TRANSPORT").elim (.ok .http) Carrier.ofText := by
  rw [carrierOf]
  cases env.setting? "MCP_TRANSPORT" with
  | none => rfl
  | some text => rw [Option.elim_some]

theorem carrierOf_eq_ok_iff :
    carrierOf env = .ok carrier ↔ Gives (env.SetsTo "MCP_TRANSPORT") Carrier.IsNamed .http carrier := by
  rw [carrierOf_eq]
  refine elim_eq_ok_iff (fun _ => Environment.setting?_eq_some_iff) fun text hset carrier => ?_
  exact Carrier.ofText_eq_ok_iff hset.1

theorem carrierOf_eq_error_iff : carrierOf env = .error error ↔ error = .invalidTransport ∧ env.CarrierUnread := by
  rw [carrierOf_eq]
  refine elim_eq_error_iff (fun _ => Environment.setting?_eq_some_iff) (fun text hset carrier => ?_)
    fun _ _ => Carrier.ofText_error
  exact Carrier.ofText_eq_ok_iff hset.1

theorem bindSocket_eq_ok_iff {socket : SocketAddress} :
    bindSocket config.bindAddress config.bindPort = .ok socket ↔ config.WritesSocket socket := by
  have htext : (config.bindAddress ++ ":" ++ decimalText config.bindPort.toNat).toList =
      config.bindAddress.toList ++ ':' :: (decimalText config.bindPort.toNat).toList := by
    simp
  rw [WritesSocket, ← htext, ← SocketAddress.ofText?_eq_some_iff, bindSocket]
  split
  · rename_i hsocket
    rw [hsocket, Except.ok.injEq, Option.some_inj]
  · rename_i hsocket
    rw [hsocket]
    exact iff_of_false nofun nofun

theorem bindSocket_eq_error_iff : bindSocket config.bindAddress config.bindPort = .error error ↔
    error = .invalidSocket ∧ ∀ socket, ¬config.WritesSocket socket := by
  simp only [← bindSocket_eq_ok_iff, bindSocket]
  split
  · simp
  · simp [eq_comm]

/-! ## All settings -/

/-- The settings with a given port and carrier; the others cannot be wrong. -/
def settings (env : Environment) (port : UInt16) (carrier : Carrier) : ServerConfig :=
  { apiToken := env.setting? "MCP_API_TOKEN"
    bindAddress := (env.value? "BIND_ADDR").getD defaultAddress
    bindPort := port
    serverName := (env.setting? "MCP_SERVER_NAME").getD defaultName
    carrier }

theorem asked_iff : Asked env config ↔ portOf env = .ok config.bindPort ∧ carrierOf env = .ok config.carrier ∧
    settings env config.bindPort config.carrier = config := by
  have haddress := @getD_eq_iff (env.Holds "BIND_ADDR") _ (fun _ => Environment.value?_eq_some_iff) defaultAddress
    config.bindAddress
  have hname := @getD_eq_iff (env.SetsTo "MCP_SERVER_NAME") _ (fun _ => Environment.setting?_eq_some_iff) defaultName
    config.serverName
  have htoken : config.apiToken = env.setting? "MCP_API_TOKEN" ↔
      ∀ token, config.apiToken = some token ↔ env.SetsTo "MCP_API_TOKEN" token := by
    rw [Option.ext_iff]
    simp only [Environment.setting?_eq_some_iff]
  rw [portOf_eq_ok_iff, carrierOf_eq_ok_iff]
  constructor
  · intro h
    refine ⟨h.port, h.carrier, ?_⟩
    rw [settings, haddress.2 h.address, hname.2 h.name, ← htoken.2 h.token]
  · rintro ⟨hport, hcarrier, hsettings⟩
    constructor
    case address => exact haddress.1 (congrArg bindAddress hsettings)
    case port => exact hport
    case carrier => exact hcarrier
    case name => exact hname.1 (congrArg serverName hsettings)
    case token => exact htoken.1 (congrArg apiToken hsettings).symm

theorem Asked.eq {other : ServerConfig} (h : Asked env config) (hother : Asked env other) : config = other := by
  rw [asked_iff] at h hother
  obtain ⟨hport, hcarrier, hsettings⟩ := h
  rw [hport, Except.ok.injEq] at hother
  rw [hcarrier, Except.ok.injEq] at hother
  rw [← hsettings, hother.1, hother.2.1, hother.2.2]

theorem ofEnvironment_of_asked (h : Asked env config) :
    ofEnvironment env = if config.carrier = .http then
      (bindSocket config.bindAddress config.bindPort).map fun _ => config else .ok config := by
  obtain ⟨hport, hcarrier, hsettings⟩ := asked_iff.1 h
  have haddress : (env.value? "BIND_ADDR").getD defaultAddress = config.bindAddress := congrArg bindAddress hsettings
  rw [settings, haddress] at hsettings
  rw [ofEnvironment, hport, hcarrier]
  dsimp only [bind, Except.bind]
  rw [haddress, hsettings]
  split
  · cases bindSocket config.bindAddress config.bindPort <;> rfl
  · rfl

/-- At another address the same settings are asked for. -/
theorem Asked.sameBut {other : Environment} (h : Asked env config) (hsame : Environment.SameBut "BIND_ADDR" env other) :
    ∃ address, Asked other { config with bindAddress := address } := by
  have hvalue (name : String) (hname : name ≠ "BIND_ADDR") : env.value? name = other.value? name := by
    rw [Environment.value?, hsame name hname, Environment.value?]
  have hsetting (name : String) (hname : name ≠ "BIND_ADDR") : env.setting? name = other.setting? name := by
    rw [Environment.setting?, hvalue name hname, Environment.setting?]
  obtain ⟨hport, hcarrier, hsettings⟩ := asked_iff.1 h
  refine ⟨(other.value? "BIND_ADDR").getD defaultAddress, asked_iff.2 ⟨?_, ?_, ?_⟩⟩
  · rw [← hport, portOf, portOf, hvalue _ (by decide)]
  · rw [← hcarrier, carrierOf, carrierOf, hsetting _ (by decide)]
  · rw [← hsettings, settings, settings, hsetting "MCP_API_TOKEN" (by decide), hsetting "MCP_SERVER_NAME" (by decide)]

inductive Verdict (env : Environment) : Except ConfigError ServerConfig → Prop where
  | port (h : env.PortUnread) : Verdict env (.error .invalidPort)
  | carrier (hport : ¬env.PortUnread) (h : env.CarrierUnread) : Verdict env (.error .invalidTransport)
  | socket (hport : ¬env.PortUnread) (hcarrier : ¬env.CarrierUnread) (h : env.SocketUnread) :
      Verdict env (.error .invalidSocket)
  | taken {config : ServerConfig} (hport : ¬env.PortUnread) (hcarrier : ¬env.CarrierUnread)
      (hsocket : ¬env.SocketUnread) (h : Asked env config) : Verdict env (.ok config)

theorem verdict (env : Environment) : Verdict env (ofEnvironment env) := by
  cases hport : portOf env with
  | error error =>
    obtain ⟨rfl, hunread⟩ := portOf_eq_error_iff.1 hport
    rw [ofEnvironment, hport]
    exact .port hunread
  | ok port =>
    have hreadPort : ¬env.PortUnread := by
      intro h
      rw [portOf_eq_error_iff.2 ⟨rfl, h⟩] at hport
      cases hport
    cases hcarrier : carrierOf env with
    | error error =>
      obtain ⟨rfl, hunread⟩ := carrierOf_eq_error_iff.1 hcarrier
      rw [ofEnvironment, hport, hcarrier]
      exact .carrier hreadPort hunread
    | ok carrier =>
      have hreadCarrier : ¬env.CarrierUnread := by
        intro h
        rw [carrierOf_eq_error_iff.2 ⟨rfl, h⟩] at hcarrier
        cases hcarrier
      have hasked : Asked env (settings env port carrier) := asked_iff.2 ⟨hport, hcarrier, rfl⟩
      rw [ofEnvironment_of_asked hasked]
      generalize settings env port carrier = config at hasked
      -- Only a server that is reached over HTTP looks at its socket.
      split
      · rename_i hhttp
        cases hsocket : bindSocket config.bindAddress config.bindPort with
        | error error =>
          obtain ⟨rfl, hunwritten⟩ := bindSocket_eq_error_iff.1 hsocket
          exact .socket hreadPort hreadCarrier ⟨config, hasked, hhttp, hunwritten⟩
        | ok socket =>
          refine .taken hreadPort hreadCarrier ?_ hasked
          rintro ⟨other, hother, -, hunwritten⟩
          obtain rfl := hasked.eq hother
          exact hunwritten socket (bindSocket_eq_ok_iff.1 hsocket)
      · rename_i hhttp
        refine .taken hreadPort hreadCarrier ?_ hasked
        rintro ⟨other, hother, hcarrier, -⟩
        exact hhttp (hasked.eq hother ▸ hcarrier)

section Verdicts

variable {result : Except ConfigError ServerConfig}

theorem Verdict.invalidPort_iff (h : Verdict env result) : result = .error .invalidPort ↔ env.PortUnread := by
  cases h <;> simp [*]

theorem Verdict.invalidTransport_iff (h : Verdict env result) :
    result = .error .invalidTransport ↔ ¬env.PortUnread ∧ env.CarrierUnread := by
  cases h <;> simp [*]

theorem Verdict.invalidSocket_iff (h : Verdict env result) :
    result = .error .invalidSocket ↔ ¬env.PortUnread ∧ ¬env.CarrierUnread ∧ env.SocketUnread := by
  cases h <;> simp [*]

theorem Verdict.ok_iff (h : Verdict env result) :
    (∃ config, result = .ok config) ↔ ¬env.PortUnread ∧ ¬env.CarrierUnread ∧ ¬env.SocketUnread := by
  cases h <;> simp [*]

end Verdicts

theorem asked_of_ok (h : ofEnvironment env = .ok config) : Asked env config := by
  have hverdict := verdict env
  rw [h] at hverdict
  cases hverdict with
  | taken hport hcarrier hsocket hasked => exact hasked

/-- What has been found to be a socket can be bound later, and has the port that was asked for. -/
theorem exists_socket (h : ofEnvironment env = .ok config) (hhttp : config.carrier = .http) :
    ∃ socket, bindSocket config.bindAddress config.bindPort = .ok socket ∧ config.WritesSocket socket ∧
      socket.port = config.bindPort := by
  obtain ⟨-, -, hread⟩ := (verdict env).ok_iff.1 ⟨config, h⟩
  cases hsocket : bindSocket config.bindAddress config.bindPort with
  | error error => exact absurd ⟨config, asked_of_ok h, hhttp, (bindSocket_eq_error_iff.1 hsocket).2⟩ hread
  | ok socket =>
    have hwrites := bindSocket_eq_ok_iff.1 hsocket
    exact ⟨socket, rfl, hwrites, hwrites.port_eq (isDecimal_decimalText _)⟩

structure Settled (env : Environment) : Prop where
  port : ofEnvironment env = .error .invalidPort ↔ env.PortUnread
  carrier : ofEnvironment env = .error .invalidTransport ↔ ¬env.PortUnread ∧ env.CarrierUnread
  socket : ofEnvironment env = .error .invalidSocket ↔ ¬env.PortUnread ∧ ¬env.CarrierUnread ∧ env.SocketUnread
  /-- Without these mistakes there is a server. -/
  taken : (∃ config, ofEnvironment env = .ok config) ↔ ¬env.PortUnread ∧ ¬env.CarrierUnread ∧ ¬env.SocketUnread
  asked : ∀ config, ofEnvironment env = .ok config → Asked env config
  /-- A server that is reached over HTTP has a socket to bind, with the port that was asked for. -/
  binds : ∀ config, ofEnvironment env = .ok config → config.carrier = .http →
    ∃ socket, bindSocket config.bindAddress config.bindPort = .ok socket ∧ config.WritesSocket socket ∧
      socket.port = config.bindPort
  /-- A server that is reached over its standard input has its settings at any address. -/
  lines : ∀ config, ofEnvironment env = .ok config → config.carrier = .stdio →
    ∀ other, Environment.SameBut "BIND_ADDR" env other →
      ∃ address, ofEnvironment other = .ok { config with bindAddress := address }

end ServerConfig

/-- A server is set up as its environment asks, or tells the first mistake in it. -/
theorem server_settings_settled (env : Environment) : ServerConfig.Settled env := by
  have hverdict := ServerConfig.verdict env
  constructor
  case port => exact hverdict.invalidPort_iff
  case carrier => exact hverdict.invalidTransport_iff
  case socket => exact hverdict.invalidSocket_iff
  case taken => exact hverdict.ok_iff
  case asked => exact fun config => ServerConfig.asked_of_ok
  case binds => exact fun config => ServerConfig.exists_socket
  case lines =>
    intro config h hstdio other hsame
    obtain ⟨address, hother⟩ := (ServerConfig.asked_of_ok h).sameBut hsame
    refine ⟨address, ?_⟩
    rw [ServerConfig.ofEnvironment_of_asked hother, if_neg]
    rw [hstdio]
    decide

end ModelContext
