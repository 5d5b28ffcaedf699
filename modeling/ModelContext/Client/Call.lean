import ModelContext.Client.Session

/-!
# Calls

The calls that one can make on a session, and their answers, as values.
-/

namespace ModelContext

inductive Call where
  | handshake
  | server
  | ping
  | page (listing : Listing) (cursor : Option String)
  | listAll (listing : Listing)
  | listCapabilities
  | callTool (name : String) (arguments : Json)
  | readResource (uri : String)
  | close
  deriving DecidableEq

inductive Answer where
  | welcome (result : InitializeResult)
  | server (known : Option InitializeResult)
  | done
  | page (listing : Listing) (page : Page listing.Item)
  | items (listing : Listing) (items : List listing.Item)
  | capabilities (all : Session.Capabilities)
  | toolResult (result : CallToolResult)
  | contents (result : ReadResourceResult)

/-- The written form of an answer. -/
def Answer.toJson : Answer → Json
  | .welcome result => result.toJson
  | .server known => (known.map InitializeResult.toJson).getD .null
  | .done => .null
  | .page listing p => listing.pageToJson p
  | .items listing list => .arr (list.map listing.itemToJson)
  | .capabilities all =>
    .obj
      [("prompts", .arr (all.prompts.map Prompt.toJson)),
       ("resource_templates", .arr (all.templates.map ResourceTemplate.toJson)),
       ("resources", .arr (all.resources.map Resource.toJson)),
       ("tools", .arr (all.tools.map Tool.toJson))]
  | .toolResult result => result.toJson
  | .contents result => result.toJson

namespace Session

variable {σ : Type}

/-- An outcome as one of an answer. -/
def answering {α : Type} (answer : α → Answer) (outcome : Except ClientError α × Session σ) :
    Except ClientError Answer × Session σ :=
  (outcome.1.map answer, outcome.2)

/-- Makes a call. Only calls that walk over pages use the budget. -/
def perform (t : Transport σ) (budget : Nat) (s : Session σ) :
    Call → Option (Except ClientError Answer × Session σ)
  | .handshake => some (answering .welcome (s.handshake t))
  | .server => some (.ok (.server s.server), s)
  | .ping => some (answering (fun _ => .done) (s.ping t))
  | .page listing cursor => some (answering (.page listing) (s.page t listing cursor))
  | .listAll listing => (s.listAll t listing budget).map (answering (.items listing))
  | .listCapabilities => (s.listCapabilities t budget).map (answering .capabilities)
  | .callTool name arguments => some (answering .toolResult (s.callTool t name arguments))
  | .readResource uri => some (answering .contents (s.readResource t uri))
  | .close => some (answering (fun _ => .done) (s.close t))

/-- Makes calls one after another; none if the budget does not last. -/
def performAll (t : Transport σ) (budget : Nat) (s : Session σ) :
    List Call → Option (List (Except ClientError Answer) × Session σ)
  | [] => some ([], s)
  | call :: later => do
    let (outcome, s) ← s.perform t budget call
    let (outcomes, s) ← s.performAll t budget later
    some (outcome :: outcomes, s)

end Session
end ModelContext
