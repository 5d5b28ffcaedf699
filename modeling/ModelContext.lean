import ModelContext.Client.Call
import ModelContext.Client.Direct
import ModelContext.Client.Error
import ModelContext.Main
import ModelContext.Programs
import ModelContext.Proofs.Replies
import ModelContext.Proofs.FloatText
import ModelContext.Proofs.JsonText
import ModelContext.Proofs.Encoding
import ModelContext.Proofs.Sessions
import ModelContext.Proofs.Carriers
import ModelContext.Proofs.Calls
import ModelContext.Proofs.Delivery
import ModelContext.Proofs.Transports
import ModelContext.Proofs.Silence
import ModelContext.Proofs.Batches
import ModelContext.Proofs.Outcomes
import ModelContext.Proofs.Admission
import ModelContext.Proofs.OpenAccess
import ModelContext.Proofs.OrdinaryRequests
import ModelContext.Proofs.Interleaving
import ModelContext.Proofs.ClientSessions
import ModelContext.Proofs.Redaction
import ModelContext.Proofs.AuditLog
import ModelContext.Proofs.Lines
import ModelContext.Proofs.ClientView
import ModelContext.Proofs.WebRequests
import ModelContext.Proofs.SharedToken
import ModelContext.Proofs.Walks
import ModelContext.Proofs.ReplyStream
import ModelContext.Proofs.HeldSession
import ModelContext.Proofs.EventStreams
import ModelContext.Proofs.RequestAnswers
import ModelContext.Proofs.KeptMembers
import ModelContext.Proofs.TakenRequests
import ModelContext.Proofs.SessionsLeft
import ModelContext.Proofs.CheckedForms
import ModelContext.Proofs.Sums
import ModelContext.Proofs.Greetings
import ModelContext.Proofs.Listings
import ModelContext.Proofs.Envelopes
import ModelContext.Proofs.Variables
import ModelContext.Proofs.Commands
import ModelContext.Proofs.SocketAddresses
import ModelContext.Proofs.ServerSettings
import ModelContext.Proofs.Refusals
import ModelContext.Proofs.AcceptedTypes
import ModelContext.Proofs.SessionStores
import ModelContext.Proofs.RequestLog
import ModelContext.Proofs.Visits
