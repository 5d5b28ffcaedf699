import ModelContext.Json.Basic

/-!
# Transports

A transport carries one message to a server and, if the message asks for an answer, brings that back.
It is given by what it does to its own state.
-/

namespace ModelContext

/-- Why nothing can be read from a process, or none be started. -/
inductive StreamFault where
  | invalidData
  | notFound
  deriving DecidableEq

inductive ClientError where
  | http
  | stream (fault : StreamFault)
  | json
  | status (code : Nat)
  | rpc (code : Int) (message : String) (data : Option Json)
  | protocol (reason : String)
  | notInitialized
  | closed
  deriving DecidableEq

structure Transport (σ : Type) where
  send : Json → σ → Except ClientError (Option Json) × σ
  close : σ → Except ClientError Unit × σ

/-- The transport that also keeps the messages that it was given to send, in order. -/
def Transport.recording {σ : Type} (t : Transport σ) : Transport (List Json × σ) where
  send message s :=
    let (outcome, s') := t.send message s.2
    (outcome, s.1 ++ [message], s')
  close s :=
    let (outcome, s') := t.close s.2
    (outcome, s.1, s')

end ModelContext
