import ModelContext.Client.Transport
import ModelContext.Server.Basic

/-!
# A server in the same process
-/

namespace ModelContext

/-- Hands every message to a server. There is nothing to close. -/
def Transport.direct (server : Server) : Transport Unit where
  send message s := (.ok (server.answer message).value, s)
  close s := (.ok (), s)

end ModelContext
