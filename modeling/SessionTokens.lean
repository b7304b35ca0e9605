import SessionTokens.Main
import SessionTokens.Session.Flows
import SessionTokens.Proofs.Keyspace
import SessionTokens.Proofs.Alarms
import SessionTokens.Proofs.Claims
import SessionTokens.Proofs.Codec
import SessionTokens.Proofs.Contention
import SessionTokens.Proofs.Decision
import SessionTokens.Proofs.Enumeration
import SessionTokens.Proofs.Exchanges
import SessionTokens.Proofs.Expiry
import SessionTokens.Proofs.FailClosed
import SessionTokens.Proofs.FreshResets
import SessionTokens.Proofs.Invalidation
import SessionTokens.Proofs.Isolation
import SessionTokens.Proofs.Lineage
import SessionTokens.Proofs.Logins
import SessionTokens.Proofs.Masking
import SessionTokens.Proofs.Modes
import SessionTokens.Proofs.Overrides
import SessionTokens.Proofs.Ownership
import SessionTokens.Proofs.PasswordChanges
import SessionTokens.Proofs.Patterns
import SessionTokens.Proofs.Payloads
import SessionTokens.Proofs.Presentation
import SessionTokens.Proofs.Purposes
import SessionTokens.Proofs.Ranges
import SessionTokens.Proofs.Redemption
import SessionTokens.Proofs.Refreshing
import SessionTokens.Proofs.Rejections
import SessionTokens.Proofs.Replay
import SessionTokens.Proofs.Revocation
import SessionTokens.Proofs.RoundTrip
import SessionTokens.Proofs.ScriptLoss
import SessionTokens.Proofs.SingleUse
import SessionTokens.Proofs.Tenure
import SessionTokens.Proofs.TimedMap
