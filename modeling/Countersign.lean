import Countersign.Api.Description
import Countersign.Dump
import Countersign.Router
import Countersign.Settings
import Countersign.Proofs.Conduct
import Countersign.Proofs.Steps
import Countersign.Proofs.Handlers
import Countersign.Proofs.Requests
import Countersign.Proofs.Stores
import Countersign.Proofs.Signing
import Countersign.Proofs.Progress
import Countersign.Proofs.Mediation
import Countersign.Proofs.Interleaving
import Countersign.Proofs.Updates
import Countersign.Proofs.Base64
import Countersign.Proofs.Sessions
import Countersign.Proofs.Guards
import Countersign.Proofs.Nonces
import Countersign.Proofs.Verdicts
import Countersign.Proofs.Tampering
import Countersign.Proofs.Replays
import Countersign.Proofs.Tokens
import Countersign.Proofs.Series
import Countersign.Proofs.Rotation
import Countersign.Proofs.Refreshes
import Countersign.Proofs.Discipline
import Countersign.Proofs.Endpoints
import Countersign.Proofs.Responses
import Countersign.Proofs.Commitments
import Countersign.Proofs.Logouts
import Countersign.Proofs.Concealment
import Countersign.Proofs.Logins
import Countersign.Proofs.Lexing
import Countersign.Proofs.Previews
import Countersign.Proofs.Curve
import Countersign.Proofs.Agreement
import Countersign.Proofs.Dates
import Countersign.Proofs.Digests
import Countersign.Proofs.Passwords
import Countersign.Proofs.Documents
import Countersign.Proofs.Records
import Countersign.Proofs.Sizes
import Countersign.Proofs.Instants
import Countersign.Proofs.Clients
import Countersign.Proofs.Discretion
import Countersign.Proofs.Footprints
import Countersign.Proofs.Lifetimes
import Countersign.Proofs.Outages
import Countersign.Proofs.Recency
import Countersign.Proofs.Presentations
import Countersign.Proofs.Validity
import Countersign.Proofs.Timestamps
import Countersign.Proofs.Windows
import Countersign.Proofs.Outcomes
import Countersign.Proofs.Resolutions
import Countersign.Proofs.Handshakes
import Countersign.Proofs.PublicKeys
import Countersign.Proofs.Secrets
import Countersign.Proofs.Privileges
import Countersign.Proofs.Gatekeeping
import Countersign.Proofs.Redactions
import Countersign.Proofs.Truncations
import Countersign.Proofs.Views
import Countersign.Proofs.Cookies
