import XbosCustomerChannel.Data.Dict
import XbosCustomerChannel.Effects.Program
import XbosCustomerChannel.Effects.Execution
import XbosCustomerChannel.Effects.Interleaving
import XbosCustomerChannel.Errors
import XbosCustomerChannel.Session.State
import XbosCustomerChannel.Catalog.Model
import XbosCustomerChannel.Data.Json
import XbosCustomerChannel.Order.Model
import XbosCustomerChannel.Provenance.Model
import XbosCustomerChannel.Order.FakeClient
import XbosCustomerChannel.Provenance.Store
import XbosCustomerChannel.Session.Store
import XbosCustomerChannel.Ports
import XbosCustomerChannel.Session.Service
import XbosCustomerChannel.Catalog.Service
import XbosCustomerChannel.Lifecycle.Service
import XbosCustomerChannel.Order.Service
import XbosCustomerChannel.Run
import XbosCustomerChannel.Session.Spec
import XbosCustomerChannel.Order.Spec
import XbosCustomerChannel.Order.Completion
import XbosCustomerChannel.Invariants
import XbosCustomerChannel.Fixture
import XbosCustomerChannel.Order.ExactlyOnce
import XbosCustomerChannel.Session.Effect
import XbosCustomerChannel.Lifecycle.Predecessor
import XbosCustomerChannel.Session.Evidence
import XbosCustomerChannel.Session.Concurrent
import XbosCustomerChannel.Session.Updates
import XbosCustomerChannel.Order.Concurrent
import XbosCustomerChannel.Order.Orphan
import XbosCustomerChannel.Order.Recovery
import XbosCustomerChannel.Calls
import XbosCustomerChannel.Order.SingleOrder
import XbosCustomerChannel.Provenance.Fingerprint
import XbosCustomerChannel.Order.Shown
import XbosCustomerChannel.Session.Chain
import XbosCustomerChannel.Session.Frozen
import XbosCustomerChannel.Session.References
import XbosCustomerChannel.Security.Hmac
import XbosCustomerChannel.Identity.Lifetime
import XbosCustomerChannel.Data.PyInt
import XbosCustomerChannel.Data.PyIntSpelling
import XbosCustomerChannel.Data.Text
import XbosCustomerChannel.Security.EntryTokens
import XbosCustomerChannel.Security.TokenCodec
import XbosCustomerChannel.Entry.Attested
import XbosCustomerChannel.Entry.SingleUse
import XbosCustomerChannel.Entry.RoundTrip
import XbosCustomerChannel.Entry.Rejection
import XbosCustomerChannel.Transports.MetaWhatsApp
import XbosCustomerChannel.W1.Checkout
import XbosCustomerChannel.W1.Conversation
import XbosCustomerChannel.W1.Run
import XbosCustomerChannel.Data.History
import XbosCustomerChannel.W1.Reviewed
import XbosCustomerChannel.W1.Resubmission
import XbosCustomerChannel.W1.Fixture
import XbosCustomerChannel.W1.Submitted
import XbosCustomerChannel.Effects.Embedding
import XbosCustomerChannel.W1.Runtime
import XbosCustomerChannel.W1.Fallback
import XbosCustomerChannel.Catalog.Acceptance
import XbosCustomerChannel.Identity.FakeService
import XbosCustomerChannel.Identity.Effect
import XbosCustomerChannel.Identity.Run
import XbosCustomerChannel.Identity.Correspondence
import XbosCustomerChannel.Identity.Assurance
import XbosCustomerChannel.Identity.Consent
import XbosCustomerChannel.Identity.Restriction
import XbosCustomerChannel.W1.Presented
import XbosCustomerChannel.W1.Rendering
import XbosCustomerChannel.W1.Replies
import XbosCustomerChannel.W1.Webhook
import XbosCustomerChannel.Effects.Path
import XbosCustomerChannel.W1.Concurrent
import XbosCustomerChannel.Effects.Unwinding
import XbosCustomerChannel.Effects.Coupling
import XbosCustomerChannel.Catalog.FakeClient
import XbosCustomerChannel.Catalog.Prices
import XbosCustomerChannel.Order.Customers
import XbosCustomerChannel.Order.Others
import XbosCustomerChannel.Order.Lockstep
import XbosCustomerChannel.Order.SubmitLockstep
import XbosCustomerChannel.Order.Interference
import XbosCustomerChannel.Session.Creation
import XbosCustomerChannel.Session.Idempotency
import XbosCustomerChannel.Session.Counting
import XbosCustomerChannel.Session.AllOrNothing
import XbosCustomerChannel.Session.Resumption
import XbosCustomerChannel.Order.Refused
import XbosCustomerChannel.Order.Prepared
import XbosCustomerChannel.Data.OrderedDict
import XbosCustomerChannel.Session.MaterialInput
import XbosCustomerChannel.Data.Utf8
import XbosCustomerChannel.Data.Url
import XbosCustomerChannel.Transports.EntryLinks
import XbosCustomerChannel.Entry.Links
import XbosCustomerChannel.W1.Turns
import XbosCustomerChannel.W1.Cart
import XbosCustomerChannel.W1.Buttons
import XbosCustomerChannel.Lifecycle.FakeClient
import XbosCustomerChannel.Lifecycle.Cancellation
import XbosCustomerChannel.Data.JsonValue
import XbosCustomerChannel.Data.Traversal
import XbosCustomerChannel.Transports.Callback
import XbosCustomerChannel.Transports.Grammar
import XbosCustomerChannel.Transports.Acceptance
import XbosCustomerChannel.Transports.Inbound
import XbosCustomerChannel.Transports.Escapes
import XbosCustomerChannel.Data.VersionedRef
import XbosCustomerChannel.Entry.FakeContext
import XbosCustomerChannel.Entry.Reassigned
import XbosCustomerChannel.Entry.Stale
import XbosCustomerChannel.Session.Stale
import XbosCustomerChannel.Runtime.Config
import XbosCustomerChannel.Runtime.App
import XbosCustomerChannel.Data.Replay
import XbosCustomerChannel.Lifecycle.Projections
import XbosCustomerChannel.Lifecycle.Evidence
import XbosCustomerChannel.Lifecycle.Requests
import XbosCustomerChannel.Lifecycle.Canceled
import XbosCustomerChannel.W1.Endpoint
import XbosCustomerChannel.Order.Revoked
import XbosCustomerChannel.Session.Reconciliation
import XbosCustomerChannel.Journey.Service
import XbosCustomerChannel.Journey.Messages
import XbosCustomerChannel.Data.JsonOrdered
import XbosCustomerChannel.Transports.Outbound
import XbosCustomerChannel.W1.CloudApi
import XbosCustomerChannel.W1.Tapping
import XbosCustomerChannel.Payment.Presentation
import XbosCustomerChannel.Lifecycle.Desk
import XbosCustomerChannel.Lifecycle.DeskSpec
import XbosCustomerChannel.Lifecycle.Told
import XbosCustomerChannel.Payment.Chosen
import XbosCustomerChannel.Catalog.Acknowledged
import XbosCustomerChannel.Identity.Attested
import XbosCustomerChannel.Effects.Isolation
import XbosCustomerChannel.W1.Customers
