import WebOfThings.Site.Connection
import WebOfThings.Site.Scripts
import WebOfThings.Proofs.Run
import WebOfThings.Proofs.Topic
import WebOfThings.Proofs.Dispatch
import WebOfThings.Proofs.Emission
import WebOfThings.Proofs.Link
import WebOfThings.Proofs.Passage
import WebOfThings.Proofs.SilentPassage
import WebOfThings.Proofs.Batch
import WebOfThings.Proofs.Nesting
import WebOfThings.Proofs.Mirror
import WebOfThings.Proofs.Role
import WebOfThings.Proofs.Factories
import WebOfThings.Proofs.Registry
import WebOfThings.Proofs.Agreement
import WebOfThings.Proofs.Arrival
import WebOfThings.Proofs.Namesakes
import WebOfThings.Proofs.Latest
import WebOfThings.Proofs.BatchedValues
import WebOfThings.Proofs.Sessions
import WebOfThings.Proofs.Resubscription
import WebOfThings.Proofs.Backoff
import WebOfThings.Proofs.Moments
import WebOfThings.Proofs.Destruction
import WebOfThings.Proofs.Dismissal
import WebOfThings.Proofs.AfterDestruction
import WebOfThings.Proofs.Visits
import WebOfThings.Proofs.Acceptance
import WebOfThings.Proofs.Status
import WebOfThings.Proofs.Cache
import WebOfThings.Proofs.Safekeeping
import WebOfThings.Proofs.Registration
import WebOfThings.Proofs.Publication
import WebOfThings.Proofs.Accounts
import WebOfThings.Proofs.Numerals
import WebOfThings.Proofs.Quotation
import WebOfThings.Proofs.Spelling
import WebOfThings.Proofs.Values
import WebOfThings.Proofs.Records
import WebOfThings.Proofs.Schemas
import WebOfThings.Proofs.Encoding
import WebOfThings.Proofs.Wildcards
import WebOfThings.Proofs.Refusal
import WebOfThings.Proofs.Loading
import WebOfThings.Proofs.Recovery
import WebOfThings.Proofs.Reloading
import WebOfThings.Proofs.Splitting
import WebOfThings.Proofs.Accessors
import WebOfThings.Proofs.Declarations
import WebOfThings.Proofs.Writes
