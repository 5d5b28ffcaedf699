import ModelContext.Proofs.Variables

/-!
# The command of a client

A client takes the words of a command from its environment: the runs of other characters between white space. A command
is configured exactly if there is such a character, and then there is a first word, which is the program that the client
starts. So no client that has a command goes to the web.
-/

namespace ModelContext

namespace Text

/-- The runs of characters that are not white space, with white space between any two of them. -/
inductive IsRuns : List Char → List (List Char) → Prop where
  | blank {gap : List Char} (hgap : ∀ c ∈ gap, isBlank c = true) : IsRuns gap []
  | run {gap word rest : List Char} {later : List (List Char)} (hgap : ∀ c ∈ gap, isBlank c = true)
      (hne : word ≠ []) (hword : ∀ c ∈ word, isBlank c = false) (hstop : ∀ c ∈ rest.head?, isBlank c = true)
      (hrest : IsRuns rest later) : IsRuns (gap ++ word ++ rest) (word :: later)

namespace IsRuns

variable {c : Char} {cs : List Char} {words : List (List Char)}

/-- White space in front of a text is in no run. -/
theorem cons (hc : isBlank c = true) (h : IsRuns cs words) : IsRuns (c :: cs) words := by
  cases h with
  | blank hgap => exact .blank (List.forall_mem_cons.2 ⟨hc, hgap⟩)
  | run hgap hne hword hstop hrest => exact .run (List.forall_mem_cons.2 ⟨hc, hgap⟩) hne hword hstop hrest

/-- A character that is not white space is a run of its own where white space or nothing follows. -/
theorem single (hc : isBlank c = false) (hstop : ∀ d ∈ cs.head?, isBlank d = true) (h : IsRuns cs words) :
    IsRuns (c :: cs) ([c] :: words) := by
  have hrun : IsRuns ([] ++ [c] ++ cs) ([c] :: words) :=
    .run (List.forall_mem_nil _) (List.cons_ne_nil c []) (List.forall_mem_singleton.2 hc) hstop h
  exact hrun

/-- Before another such character it joins the run that begins there. -/
theorem extend {d : Char} {run : List Char} (hc : isBlank c = false) (hd : isBlank d = false)
    (h : IsRuns (d :: cs) (run :: words)) : IsRuns (c :: d :: cs) ((c :: run) :: words) := by
  generalize htext : d :: cs = text at h ⊢
  cases h with
  | @run gap _ rest _ hgap hne hword hstop hrest =>
    cases gap with
    | nil =>
      have hrun : IsRuns ([] ++ (c :: run) ++ rest) ((c :: run) :: words) :=
        .run (List.forall_mem_nil _) (List.cons_ne_nil c run) (List.forall_mem_cons.2 ⟨hc, hword⟩) hstop hrest
      exact hrun
    | cons b gap =>
      obtain rfl : d = b := (List.cons.inj htext).1
      rw [hgap d List.mem_cons_self] at hd
      cases hd

theorem ne_nil (hc : isBlank c = false) (h : IsRuns (c :: cs) words) : words ≠ [] := by
  generalize htext : c :: cs = text at h
  cases h with
  | blank hgap =>
    rw [hgap c (htext ▸ List.mem_cons_self)] at hc
    cases hc
  | run hgap hne hword hstop hrest => exact List.cons_ne_nil _ _

/-- White space behind a text is in no run. -/
theorem append_gap {gap : List Char} (hgap : ∀ c ∈ gap, isBlank c = true) (h : IsRuns cs words) :
    IsRuns (cs ++ gap) words := by
  induction h with
  | blank hfront => exact .blank (List.forall_mem_append.2 ⟨hfront, hgap⟩)
  | @run front word rest later hfront hne hword hstop hrest ih =>
    rw [List.append_assoc]
    refine .run hfront hne hword ?_ ih
    cases rest with
    | nil => exact fun c hc => hgap c (List.mem_of_mem_head? hc)
    | cons d rest => exact hstop

/-- Runs are not empty and hold no white space. -/
theorem of_mem (h : IsRuns cs words) : ∀ word ∈ words, word ≠ [] ∧ ∀ c ∈ word, isBlank c = false := by
  induction h with
  | blank hgap => exact List.forall_mem_nil _
  | run hgap hne hword hstop hrest ih => exact List.forall_mem_cons.2 ⟨⟨hne, hword⟩, ih⟩

end IsRuns

section Runs

variable {c : Char} {cs : List Char}

theorem runs_cons_of_blank (hc : isBlank c = true) : runs (c :: cs) = runs cs := by
  rw [runs.eq_def]
  exact if_pos hc

theorem runs_cons_of_stop (hc : isBlank c = false) (hstop : ∀ d ∈ cs.head?, isBlank d = true) :
    runs (c :: cs) = [c] :: runs cs := by
  rw [runs.eq_def]
  dsimp only
  rw [if_neg (Bool.eq_false_iff.1 hc)]
  split
  · rename_i d _ run later hruns
    rw [if_pos (hstop d rfl), hruns]
  · rfl

theorem runs_cons_of_run {d : Char} {run : List Char} {later : List (List Char)} (hc : isBlank c = false)
    (hd : isBlank d = false) (hruns : runs (d :: cs) = run :: later) :
    runs (c :: d :: cs) = (c :: run) :: later := by
  rw [runs.eq_def]
  dsimp only
  rw [if_neg (Bool.eq_false_iff.1 hc), hruns]
  exact if_neg (Bool.eq_false_iff.1 hd)

end Runs

theorem isRuns_runs (cs : List Char) : IsRuns cs (runs cs) := by
  induction cs with
  | nil => exact .blank (List.forall_mem_nil _)
  | cons c cs ih =>
    cases hc : isBlank c with
    | true =>
      rw [runs_cons_of_blank hc]
      exact ih.cons hc
    | false =>
      -- The character is a run of its own, or the first one of the run that begins behind it.
      by_cases hstop : ∀ d ∈ cs.head?, isBlank d = true
      · rw [runs_cons_of_stop hc hstop]
        exact ih.single hc hstop
      · cases cs with
        | nil => exact absurd (by simp) hstop
        | cons d cs =>
          have hd : isBlank d = false := by simpa using hstop
          obtain ⟨run, later, hruns⟩ := List.exists_cons_of_ne_nil (ih.ne_nil hd)
          rw [runs_cons_of_run hc hd hruns]
          exact (hruns ▸ ih).extend hc hd

theorem runs_append_gap {gap : List Char} (hgap : ∀ c ∈ gap, isBlank c = true) (cs : List Char) :
    runs (gap ++ cs) = runs cs := by
  induction gap with
  | nil => rfl
  | cons c gap ih =>
    rw [List.forall_mem_cons] at hgap
    rw [List.cons_append, runs_cons_of_blank hgap.1, ih hgap.2]

theorem runs_append_word {word rest : List Char} (hne : word ≠ []) (hword : ∀ c ∈ word, isBlank c = false)
    (hstop : ∀ c ∈ rest.head?, isBlank c = true) : runs (word ++ rest) = word :: runs rest := by
  induction word with
  | nil => exact absurd rfl hne
  | cons c word ih =>
    rw [List.forall_mem_cons] at hword
    cases word with
    | nil => exact runs_cons_of_stop hword.1 hstop
    | cons d word =>
      have hruns := ih (List.cons_ne_nil d word) hword.2
      exact runs_cons_of_run hword.1 (hword.2 d List.mem_cons_self) hruns

/-- A text has no other runs than these. -/
theorem runs_eq_iff {cs : List Char} {words : List (List Char)} : runs cs = words ↔ IsRuns cs words := by
  constructor
  · rintro rfl
    exact isRuns_runs cs
  · intro h
    induction h with
    | blank hgap => simpa [runs] using runs_append_gap hgap []
    | run hgap hne hword hstop hrest ih =>
      rw [List.append_assoc, runs_append_gap hgap, runs_append_word hne hword hstop, ih]

def IsWords (text : String) (words : List String) : Prop :=
  IsRuns text.toList (words.map String.toList)

theorem words_eq_iff {text : String} {ws : List String} : words text = ws ↔ IsWords text ws := by
  rw [IsWords, ← runs_eq_iff, words]
  constructor
  · rintro rfl
    simp [Function.comp_def]
  · intro h
    simp [h, Function.comp_def]

/-- White space around a text makes no difference to its words. -/
theorem words_pad {front back : String} (hfront : IsBlank front) (hback : IsBlank back) (text : String) :
    words (front ++ text ++ back) = words text := by
  have hwords : IsRuns text.toList ((words text).map String.toList) := words_eq_iff.1 rfl
  rw [words_eq_iff, IsWords, String.toList_append, String.toList_append, List.append_assoc, ← runs_eq_iff,
    runs_append_gap hfront, runs_eq_iff]
  exact hwords.append_gap hback

theorem IsWords.of_mem {text : String} {words : List String} (h : IsWords text words) :
    ∀ word ∈ words, word ≠ "" ∧ ∀ c ∈ word.toList, isBlank c = false := by
  intro word hword
  obtain ⟨hne, hchars⟩ := IsRuns.of_mem h word.toList (List.mem_map_of_mem hword)
  exact ⟨mt String.toList_eq_nil_iff.2 hne, hchars⟩

theorem isRuns_nil_iff {cs : List Char} : IsRuns cs [] ↔ ∀ c ∈ cs, isBlank c = true := by
  constructor
  · rintro ⟨hgap⟩
    exact hgap
  · exact .blank

theorem words_eq_nil_iff {text : String} : words text = [] ↔ IsBlank text := by
  rw [words_eq_iff, IsWords, List.map_nil, isRuns_nil_iff, IsBlank]

end Text

namespace ClientConfig

variable {env : Environment} {config : ClientConfig}

theorem serverCommand_of_environment (h : ClientConfig.ofEnvironment env = .ok config) :
    config.serverCommand = (env.setting? "MCP_SERVER_COMMAND").map Text.words := by
  rw [ofEnvironment] at h
  split at h
  · cases h
    rfl
  · cases h

/-- A command is what its variable holds, if that is more than white space. -/
theorem serverCommand_eq_some_iff (h : ClientConfig.ofEnvironment env = .ok config) {words : List String} :
    config.serverCommand = some words ↔
      ∃ text, env.Holds "MCP_SERVER_COMMAND" text ∧ Text.IsWords text words ∧ words ≠ [] := by
  rw [serverCommand_of_environment h, Option.map_eq_some_iff]
  constructor
  · rintro ⟨setting, hsetting, rfl⟩
    obtain ⟨htrimmed, front, back, hfront, hback, hholds⟩ := Environment.setting?_eq_some_iff.1 hsetting
    refine ⟨_, hholds, Text.words_eq_iff.1 (Text.words_pad hfront hback setting), ?_⟩
    rw [Ne, Text.words_eq_nil_iff]
    exact htrimmed.not_isBlank
  · rintro ⟨text, hholds, hwords, hne⟩
    obtain rfl := Text.words_eq_iff.2 hwords
    rw [Ne, Text.words_eq_nil_iff] at hne
    refine ⟨_, Environment.setting?_of_not_blank (Environment.value?_eq_some_iff.2 hholds) hne, ?_⟩
    obtain ⟨front, back, heq, hfront, hback⟩ := exists_trim text
    calc Text.words (Text.trim text) = Text.words (front ++ Text.trim text ++ back) :=
          (Text.words_pad hfront hback _).symm
      _ = Text.words text := by rw [← heq]

def IsCommand (text : String) : Prop :=
  ∃ c ∈ text.toList, Text.isBlank c = false

theorem isCommand_iff {text : String} : IsCommand text ↔ Text.words text ≠ [] := by
  rw [Ne, Text.words_eq_nil_iff, IsBlank]
  simp [IsCommand]

theorem isSome_serverCommand_iff (h : ClientConfig.ofEnvironment env = .ok config) :
    config.serverCommand.isSome = true ↔ ∃ text, env.Holds "MCP_SERVER_COMMAND" text ∧ IsCommand text := by
  simp only [Option.isSome_iff_exists, serverCommand_eq_some_iff h, isCommand_iff]
  constructor
  · rintro ⟨words, text, hholds, hwords, hne⟩
    exact ⟨text, hholds, by rwa [Text.words_eq_iff.2 hwords]⟩
  · rintro ⟨text, hholds, hne⟩
    exact ⟨Text.words text, text, hholds, Text.words_eq_iff.1 rfl, hne⟩

/-- A client starts the first word of its command, with the others as arguments. -/
theorem destination_eq_process_iff {program : String} {arguments : List String} :
    config.destination = .process program arguments ↔ config.serverCommand = some (program :: arguments) := by
  rw [destination]
  split
  · rename_i hcommand
    simp [hcommand]
  · rename_i hnone
    constructor
    · nofun
    · exact fun hcommand => absurd hcommand (hnone program arguments)

theorem destination_cases (config : ClientConfig) :
    (∃ program arguments, config.destination = .process program arguments) ∨
      config.destination = .web config.serverUrl := by
  unfold destination
  split
  · exact .inl ⟨_, _, rfl⟩
  · exact .inr rfl

end ClientConfig

/-- The run of a client that starts a program and visits it, if there is such a program. -/
def ProgramRun.ofStart (peer? : Option (Peer Unit)) : ProgramRun :=
  match peer? with
  | none => .failed (.client (.stream .notFound))
  | some peer => .ofVisit ((Session.start (ChildLink.start () [])).visit (ChildLink.transport peer))

structure ClientConfig.Commanded (env : Environment) (config : ClientConfig) : Prop where
  /-- There is a command exactly if the variable holds a character that is not white space. -/
  configured : config.serverCommand.isSome = true ↔ ∃ text, env.Holds "MCP_SERVER_COMMAND" text ∧ IsCommand text
  /-- A command has a word at least, and its words are those of the whole variable. -/
  words : ∀ words, config.serverCommand = some words →
    words ≠ [] ∧ (∀ word ∈ words, word ≠ "" ∧ ∀ c ∈ word.toList, Text.isBlank c = false) ∧
      ∃ text, env.Holds "MCP_SERVER_COMMAND" text ∧ Text.IsWords text words
  /-- The client starts a program exactly if there is a command: its first word, with the others as arguments. -/
  starts : ∀ program arguments, config.destination = .process program arguments ↔
    ∃ text, env.Holds "MCP_SERVER_COMMAND" text ∧ Text.IsWords text (program :: arguments)
  /-- Without a command, and only then, it goes to the web. -/
  visits : ∀ url, config.destination = .web url ↔
    url = config.serverUrl ∧ ∀ text, env.Holds "MCP_SERVER_COMMAND" text → ¬IsCommand text
  /-- A client with a command runs as the started program makes it, whatever there is on the web. -/
  run : ∀ text, env.Holds "MCP_SERVER_COMMAND" text → IsCommand text →
    ∃ program arguments, Text.IsWords text (program :: arguments) ∧
      ∀ (ω : Type) (around : Surroundings ω), clientProgram env around = .ofStart (around.start? program arguments)

theorem clientProgram_of_process {env : Environment} {config : ClientConfig}
    (h : ClientConfig.ofEnvironment env = .ok config) {program : String} {arguments : List String}
    (hprocess : config.destination = .process program arguments) {ω : Type} (around : Surroundings ω) :
    clientProgram env around = .ofStart (around.start? program arguments) := by
  rw [clientProgram, h]
  dsimp only
  rw [hprocess]
  rfl

/-- A client that has a command starts its first word as a program and never goes to the web instead. -/
theorem command_starts_program {env : Environment} {config : ClientConfig}
    (h : ClientConfig.ofEnvironment env = .ok config) : config.Commanded env := by
  have hstarts (program : String) (arguments : List String) :
      config.destination = .process program arguments ↔
        ∃ text, env.Holds "MCP_SERVER_COMMAND" text ∧ Text.IsWords text (program :: arguments) := by
    simp [ClientConfig.destination_eq_process_iff, ClientConfig.serverCommand_eq_some_iff h]
  have hcommand {text : String} (hholds : env.Holds "MCP_SERVER_COMMAND" text)
      (hcommand : ClientConfig.IsCommand text) :
      ∃ program arguments, Text.IsWords text (program :: arguments) ∧
        config.destination = .process program arguments := by
    obtain ⟨program, arguments, hwords⟩ := List.exists_cons_of_ne_nil (ClientConfig.isCommand_iff.1 hcommand)
    rw [Text.words_eq_iff] at hwords
    exact ⟨program, arguments, hwords, (hstarts program arguments).2 ⟨text, hholds, hwords⟩⟩
  constructor
  case configured => exact ClientConfig.isSome_serverCommand_iff h
  case words =>
    intro words hwords
    obtain ⟨text, hholds, hread, hne⟩ := (ClientConfig.serverCommand_eq_some_iff h).1 hwords
    exact ⟨hne, hread.of_mem, text, hholds, hread⟩
  case starts => exact hstarts
  case visits =>
    intro url
    constructor
    · intro hweb
      rcases config.destination_cases with ⟨program, arguments, hprocess⟩ | hurl
      · rw [hprocess] at hweb
        cases hweb
      · refine ⟨Destination.web.inj (hweb.symm.trans hurl), fun text hholds hset => ?_⟩
        obtain ⟨program, arguments, -, hprocess⟩ := hcommand hholds hset
        rw [hprocess] at hweb
        cases hweb
    · rintro ⟨rfl, hnone⟩
      rcases config.destination_cases with ⟨program, arguments, hprocess⟩ | hurl
      · obtain ⟨text, hholds, hwords⟩ := (hstarts program arguments).1 hprocess
        have hset : ClientConfig.IsCommand text := by
          rw [ClientConfig.isCommand_iff, Text.words_eq_iff.2 hwords]
          exact List.cons_ne_nil program arguments
        exact absurd hset (hnone text hholds)
      · exact hurl
  case run =>
    intro text hholds hset
    obtain ⟨program, arguments, hwords, hprocess⟩ := hcommand hholds hset
    exact ⟨program, arguments, hwords, fun ω around => clientProgram_of_process h hprocess around⟩

def quietEnvironment : Environment :=
  [("MCP_SERVER_COMMAND", Bytes.ofText "\u3000demo-mcp\u00a0\t--quiet\n")]

theorem command_starts_program_quiet :
    ∃ config, ClientConfig.ofEnvironment quietEnvironment = .ok config ∧
      config.destination = .process "demo-mcp" ["--quiet"] := by
  have hclient : ClientConfig.ofEnvironment quietEnvironment = .ok
      { serverUrl := ClientConfig.defaultUrl, serverCommand := some ["demo-mcp", "--quiet"], apiToken := none } := by
    decide +kernel
  have hwords : Text.IsWords "\u3000demo-mcp\u00a0\t--quiet\n" ["demo-mcp", "--quiet"] :=
    Text.words_eq_iff.1 (by decide +kernel)
  exact ⟨_, hclient, ((command_starts_program hclient).starts _ _).2 ⟨_, rfl, hwords⟩⟩

end ModelContext
